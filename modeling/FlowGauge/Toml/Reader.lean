import FlowGauge.Toml.Date
import FlowGauge.Toml.Table
import FlowGauge.Toml.Text

namespace FlowGauge.Toml
open Document (Node)

/-- A date reads as a table whose only key is this one. -/
def dateKey : String := "date"

def dateNode (cs rest : List Char) : Node :=
  .table [(dateKey, .text (String.ofList (cs.take (cs.length - rest.length))))]

/-- A date, a float or a whole number, in this order. -/
def number? (cs : List Char) : Option (Front Node) :=
  match dateTime? cs with
  | some rest => some (dateNode cs rest, rest)
  | none =>
    match float? cs with
    | some (x, rest) => some (.float x, rest)
    | none => (integer? cs).map fun (n, rest) => (.integer n, rest)

def word? (word : String) (node : Node) (cs : List Char) : Option (Front Node) :=
  (expectWord word.toList cs).map fun rest => (node, rest)

mutual

/-- A value inside `depth` others; `fuel` bounds the characters and values to come. -/
def value? (fuel depth : Nat) (cs : List Char) : Option (Front Node) :=
  match fuel with
  | 0 => none
  | fuel + 1 =>
    match cs with
    | '"' :: _ => (text? cs).map fun (s, rest) => (.text s, rest)
    | '\'' :: _ => (text? cs).map fun (s, rest) => (.text s, rest)
    | '[' :: rest => do
      guard (depth + 1 < maxDepth)
      let (items, rest) ← items? fuel (depth + 1) rest
      return (.list items, rest)
    | '\x7b' :: rest => do
      guard (depth + 1 < maxDepth)
      let (pairs, rest) ← pairs? fuel (depth + 1) true rest
      return (← inlineTable pairs, rest)
    | 't' :: _ => word? "true" (.bool true) cs
    | 'f' :: _ => word? "false" (.bool false) cs
    | 'i' :: _ => (specialFloat? cs).map fun (x, rest) => (.float x, rest)
    | 'n' :: _ => (specialFloat? cs).map fun (x, rest) => (.float x, rest)
    | c :: _ => if c = '+' ∨ c = '-' ∨ Text.isDecimalDigit c then number? cs else none
    | [] => none

/-- Items up to the closing bracket, which may follow a comma. -/
def items? (fuel depth : Nat) (cs : List Char) : Option (Front (List Node)) :=
  match fuel with
  | 0 => none
  | fuel + 1 =>
    match skipLines cs with
    | ']' :: rest => some ([], rest)
    | cs => do
      let (node, cs) ← value? fuel depth cs
      match skipLines cs with
      | ']' :: rest => return ([node], rest)
      | ',' :: rest =>
        let (items, rest) ← items? fuel depth rest
        return (node :: items, rest)
      | _ => none

/-- Keys and values up to the closing brace, which may not follow a comma. -/
def pairs? (fuel depth : Nat) (first : Bool) (cs : List Char) :
    Option (Front (List (List String × Node))) :=
  match fuel with
  | 0 => none
  | fuel + 1 =>
    match first, skipGaps cs with
    | true, '\x7d' :: rest => some ([], rest)
    | _, cs => do
      let (key, cs) ← key? cs
      let cs ← expect '=' cs
      let (node, cs) ← value? fuel depth (skipGaps cs)
      match skipGaps cs with
      | '\x7d' :: rest => return ([(key, node)], rest)
      | ',' :: rest =>
        let (pairs, rest) ← pairs? fuel depth false rest
        return ((key, node) :: pairs, rest)
      | _ => none

end

def entryLine? (cs : List Char) : Option (Front Line) := do
  let (key, cs) ← key? cs
  let cs ← expect '=' cs
  let (node, cs) ← value? (2 * cs.length + 2) 0 (skipGaps cs)
  return (.entry key node, ← lineEnd? cs)

/-- The opening bracket has been passed. -/
def headerLine? (cs : List Char) : Option (Front Line) :=
  match cs with
  | '[' :: cs => do
    let (path, cs) ← key? cs
    let cs ← expect ']' cs
    let cs ← expect ']' cs
    return (.append path, ← lineEnd? cs)
  | cs => do
    let (path, cs) ← key? cs
    let cs ← expect ']' cs
    return (.header path, ← lineEnd? cs)

def lines? (fuel : Nat) (cs : List Char) : Option (List Line) :=
  match fuel with
  | 0 => none
  | fuel + 1 =>
    match skipGaps cs with
    | [] => some []
    | '[' :: cs => do
      let (line, cs) ← headerLine? cs
      return line :: (← lines? fuel cs)
    | cs =>
      match lineEnd? cs with
      | some [] => some []
      | some cs => lines? fuel cs
      | none => do
        let (line, cs) ← entryLine? cs
        return line :: (← lines? fuel cs)

/-- A mark of the byte order may come first. -/
def afterMark : List Char → List Char
  | '\ufeff' :: cs => cs
  | cs => cs

/-- The tree of a well-formed text. -/
def read? (s : String) : Option Node := do
  let cs := afterMark s.toList
  assemble (← lines? (cs.length + 1) cs)

end FlowGauge.Toml
