import FlowGauge.Logging.Pattern.Escape

namespace FlowGauge.Logging.Pattern

def classNames : List String :=
  ["alnum", "alpha", "ascii", "blank", "cntrl", "digit", "graph", "lower", "print", "punct",
    "space", "upper", "word", "xdigit"]

def afterCaret : List Char → Bool × List Char
  | '^' :: cs => (true, cs)
  | cs => (false, cs)

/-- A class called by its name; the opening bracket has been passed. -/
def named? : List Char → Option (CharSet × List Char)
  | ':' :: cs =>
    let (negated, cs) := afterCaret cs
    let name := String.ofList (cs.takeWhile (· ≠ ':'))
    match cs.dropWhile (· ≠ ':') with
    | ':' :: ']' :: rest =>
      if classNames.contains name then some (.named name negated, rest) else none
    | _ => none
  | _ => none

def operator? : List Char → Option (Operator × List Char)
  | '&' :: '&' :: rest => some (.intersection, rest)
  | '-' :: '-' :: rest => some (.difference, rest)
  | '~' :: '~' :: rest => some (.symmetricDifference, rest)
  | _ => none

/-- A leaf as a part of a class, where a place cannot be asked for. -/
def Leaf.set? : Leaf → Option CharSet
  | literal c _ => some (.one c)
  | set s => some s
  | _ => none

def range? : Leaf → Leaf → Option CharSet
  | .literal low _, .literal high _ => if low ≤ high then some (.range low high) else none
  | _, _ => none

/-- A leaf as it is written in a class; most signs stand for themselves there. -/
def element? (spaced : Bool) : List Char → Option (Leaf × List Char)
  | [] => none
  | '\\' :: rest => escape? spaced rest
  | c :: rest => some (.literal c false, rest)

/-- The character after a hyphen, by which one tells what the hyphen is for. A comment is taken for
no more than its first sign, and blanks at the end of the text do not count as such. -/
def ahead? (spaced : Bool) (cs : List Char) : Option Char :=
  if spaced then
    match cs.dropWhile Text.isBlank with
    | '#' :: rest => (rest.dropWhile Text.isBlank).head?.or cs.head?
    | rest => rest.head?.or cs.head?
  else cs.head?

/-- Before a closing bracket or another hyphen, a hyphen does not make a range. -/
def joins (spaced : Bool) (cs : List Char) : Bool :=
  !(ahead? spaced cs).any fun c => c = ']' || c = '-'

/-- One element, or all from it up to another. -/
def part? (spaced : Bool) (cs : List Char) : Option (CharSet × List Char) := do
  let (a, rest) ← element? spaced cs
  match skip spaced rest with
  | '-' :: rest =>
    if joins spaced rest then
      let (b, rest) ← element? spaced (skip spaced rest)
      return (← range? a b, rest)
    else return (← a.set?, '-' :: rest)
  | rest => return (← a.set?, rest)

/-- What has been read of a class: the set before the last operator, and the parts since then, the
newest first. -/
structure Unfinished where
  left : Option (CharSet × Operator)
  parts : List CharSet

namespace Unfinished

def empty : Unfinished :=
  ⟨none, []⟩

def add (u : Unfinished) (s : CharSet) : Unfinished :=
  { u with parts := s :: u.parts }

/-- Operators bind to the left. -/
def whole (u : Unfinished) : CharSet :=
  let last := CharSet.ofParts u.parts.reverse
  match u.left with
  | none => last
  | some (s, operator) => .combined operator s last

def apply (u : Unfinished) (operator : Operator) : Unfinished :=
  ⟨some (u.whole, operator), []⟩

end Unfinished

/-- A closing bracket right at the start stands for itself, and so do all hyphens there. -/
def isPlainStart (u : Unfinished) (c : Char) : Bool :=
  c = '-' || (c = ']' && u.parts.isEmpty)

/-- The set up to the closing bracket. `start` tells that only hyphens have been read; `fuel` bounds
the number of characters to come. -/
def readSet (fuel : Nat) (spaced start : Bool) (u : Unfinished) (cs : List Char) :
    Option (CharSet × List Char) :=
  match fuel with
  | 0 => none
  | fuel + 1 =>
    match skip spaced cs with
    | [] => none
    | c :: rest =>
      if start && isPlainStart u c then
        readSet fuel spaced (c = '-') (u.add (.one c)) rest
      else if c = ']' then some (u.whole, rest)
      else if c = '[' then
        match named? rest with
        | some (s, rest) => readSet fuel spaced false (u.add s) rest
        | none => do
          let (negated, rest) := afterCaret (skip spaced rest)
          let (s, rest) ← readSet fuel spaced true .empty rest
          readSet fuel spaced false (u.add (.bracket negated s)) rest
      else
        match operator? (c :: rest) with
        | some (operator, rest) => readSet fuel spaced false (u.apply operator) rest
        | none => do
          let (s, rest) ← part? spaced (c :: rest)
          readSet fuel spaced false (u.add s) rest

/-- The opening bracket has been passed. -/
def bracket? (spaced : Bool) (cs : List Char) : Option (CharSet × List Char) := do
  let (negated, rest) := afterCaret (skip spaced cs)
  let (s, rest) ← readSet (rest.length + 1) spaced true .empty rest
  return (.bracket negated s, rest)

end FlowGauge.Logging.Pattern
