import FlowGauge.Text.Hexadecimal
import FlowGauge.Toml.Character

namespace FlowGauge.Toml
open Text (coded? hexNumber?)

/-- What stands for itself in a basic text. -/
def isBasic (c : Char) : Bool :=
  isGap c || c = '!' || (0x23 ≤ c.toNat && c.toNat ≤ 0x5b) ||
    (0x5d ≤ c.toNat && c.toNat ≤ 0x7e) || isForeign c

/-- What stands in a literal text. -/
def isLiteral (c : Char) : Bool :=
  c = '\t' || (0x20 ≤ c.toNat && c.toNat ≤ 0x26) || (0x28 ≤ c.toNat && c.toNat ≤ 0x7e) ||
    isForeign c

def escape? (c : Char) : Option Char :=
  match c with
  | 'b' => some '\x08'
  | 'f' => some '\x0c'
  | 'n' => some '\n'
  | 'r' => some '\r'
  | 't' => some '\t'
  | '"' => some '"'
  | '\\' => some '\\'
  | _ => none

/-- The character that follows a backslash, which may be given by its code. -/
def escaped? : List Char → Option (Front Char)
  | 'u' :: a :: b :: c :: d :: cs => do
    return (← coded? (← hexNumber? [a, b, c, d]), cs)
  | 'U' :: a :: b :: c :: d :: e :: f :: g :: h :: cs => do
    return (← coded? (← hexNumber? [a, b, c, d, e, f, g, h]), cs)
  | c :: cs => do
    return (← escape? c, cs)
  | [] => none

/-- The rest of a basic text; `fuel` bounds the characters to come. -/
def basic (fuel : Nat) (cs : List Char) : Option (Front (List Char)) :=
  match fuel, cs with
  | _, '"' :: cs => some ([], cs)
  | fuel + 1, '\\' :: cs => do
    let (c, cs) ← escaped? cs
    let (text, cs) ← basic fuel cs
    return (c :: text, cs)
  | fuel + 1, c :: cs => do
    guard (isBasic c)
    let (text, cs) ← basic fuel cs
    return (c :: text, cs)
  | _, _ => none

def literal : List Char → Option (Front (List Char))
  | '\'' :: cs => some ([], cs)
  | c :: cs => do
    guard (isLiteral c)
    let (text, cs) ← literal cs
    return (c :: text, cs)
  | [] => none

def quotesAhead (quote : Char) (cs : List Char) : Nat :=
  (cs.takeWhile (· = quote)).length

/-- The quotes at the front of `cs` when there are three or more: all beyond the closing three
belong to the text, and there may be two of them. -/
def closing (quote : Char) (cs : List Char) : Option (Front (List Char)) :=
  let extra := min 2 (quotesAhead quote cs - 3)
  some (List.replicate extra quote, cs.drop (extra + 3))

/-- After a backslash at the end of a line nothing counts up to the next visible character. -/
def continued? (cs : List Char) : Option (List Char) :=
  (newline? (skipGaps cs)).map skipBlankLines
where
  skipBlankLines : List Char → List Char
    | '\n' :: cs => skipBlankLines cs
    | '\r' :: '\n' :: cs => skipBlankLines cs
    | c :: cs => if isGap c then skipBlankLines cs else c :: cs
    | [] => []

/-- The rest of a basic text over lines. -/
def longBasic (fuel : Nat) (cs : List Char) : Option (Front (List Char)) :=
  match fuel with
  | 0 => none
  | fuel + 1 =>
    match newline? cs with
    | some cs => do
      let (text, cs) ← longBasic fuel cs
      return ('\n' :: text, cs)
    | none =>
      match cs with
      | [] => none
      | '"' :: rest =>
        if 3 ≤ quotesAhead '"' cs then closing '"' cs
        else do
          let (text, cs) ← longBasic fuel rest
          return ('"' :: text, cs)
      | '\\' :: rest =>
        match continued? rest with
        | some cs => longBasic fuel cs
        | none => do
          let (c, cs) ← escaped? rest
          let (text, cs) ← longBasic fuel cs
          return (c :: text, cs)
      | c :: rest => do
        guard (isBasic c)
        let (text, cs) ← longBasic fuel rest
        return (c :: text, cs)

/-- The rest of a literal text over lines. -/
def longLiteral (fuel : Nat) (cs : List Char) : Option (Front (List Char)) :=
  match fuel with
  | 0 => none
  | fuel + 1 =>
    match newline? cs with
    | some cs => do
      let (text, cs) ← longLiteral fuel cs
      return ('\n' :: text, cs)
    | none =>
      match cs with
      | [] => none
      | '\'' :: rest =>
        if 3 ≤ quotesAhead '\'' cs then closing '\'' cs
        else do
          let (text, cs) ← longLiteral fuel rest
          return ('\'' :: text, cs)
      | c :: rest => do
        guard (isLiteral c)
        let (text, cs) ← longLiteral fuel rest
        return (c :: text, cs)

/-- A line end right after the opening quotes does not count. -/
def afterOpening (cs : List Char) : List Char :=
  (newline? cs).getD cs

/-- A text on one line. -/
def shortText? : List Char → Option (Front String)
  | '"' :: cs => (basic cs.length cs).map fun (text, cs) => (String.ofList text, cs)
  | '\'' :: cs => (literal cs).map fun (text, cs) => (String.ofList text, cs)
  | _ => none

/-- A text of any kind. -/
def text? : List Char → Option (Front String)
  | '"' :: '"' :: '"' :: cs =>
    let cs := afterOpening cs
    (longBasic (cs.length + 1) cs).map fun (text, cs) => (String.ofList text, cs)
  | '\'' :: '\'' :: '\'' :: cs =>
    let cs := afterOpening cs
    (longLiteral (cs.length + 1) cs).map fun (text, cs) => (String.ofList text, cs)
  | cs => shortText? cs

def isBare (c : Char) : Bool :=
  c.isAlphanum || c = '_' || c = '-'

def simpleKey? (cs : List Char) : Option (Front String) :=
  match cs.takeWhile isBare with
  | [] => shortText? cs
  | name => some (String.ofList name, cs.dropWhile isBare)

/-- The steps of a key between dots, with blanks around each. -/
def keySteps? (fuel : Nat) (cs : List Char) : Option (Front (List String)) :=
  match fuel with
  | 0 => none
  | fuel + 1 => do
    let (step, cs) ← simpleKey? (skipGaps cs)
    match skipGaps cs with
    | '.' :: cs =>
      let (steps, cs) ← keySteps? fuel cs
      return (step :: steps, cs)
    | cs => return ([step], cs)

/-- Keys with more steps are refused, and so are values nested deeper. -/
def maxDepth : Nat := 80

def key? (cs : List Char) : Option (Front (List String)) := do
  let (steps, cs) ← keySteps? (cs.length + 1) cs
  guard (steps.length < maxDepth)
  return (steps, cs)

end FlowGauge.Toml
