import FlowGauge.Document.Node
import FlowGauge.Json.Number
import FlowGauge.Json.Text

namespace FlowGauge.Json
open Document (Node)
open Text (isDecimalDigit)

def isSpace (c : Char) : Bool :=
  c = ' ' || c = '\t' || c = '\n' || c = '\r'

def skipSpace (cs : List Char) : List Char :=
  cs.dropWhile isSpace

/-- A node and what follows it; nothing follows a break. -/
abbrev Found (α : Type) := α × Option (List Char)

def literal (word : List Char) (node : Node) (cs : List Char) : Found Node :=
  if word.isPrefixOf cs then (node, some (cs.drop word.length)) else (.broken, none)

def numberNode (n : Numeral) : Node :=
  match n.number with
  | .integer i => .integer i
  | .float x => .float x
  | .tooLarge => .valueless

def readNumber (cs : List Char) : Found Node :=
  match numeral? cs with
  | some (n, rest) => (numberNode n, some rest)
  | none => (.broken, none)

/-- The opening quote has been passed. -/
def readText (cs : List Char) : Found Node :=
  match pieces cs with
  | none => (.broken, none)
  | some (ps, rest) =>
    match characters ps with
    | some s => (.text (String.ofList s), some rest)
    | none => (.valueless, some rest)

/-- The key of an entry, or `none` for one of correct form that has no value. The opening quote has
been passed. -/
def readKey (cs : List Char) : Option (Option String × List Char) := do
  let (ps, rest) ← pieces cs
  return ((characters ps).map String.ofList, rest)

def entry (key : Option String) (node : Node) : String × Node :=
  match key with
  | some k => (k, node)
  | none => ("", .keyless node)

/-- Holds the place of an entry that breaks off before its key ends, or has something else than a
text for its key. -/
def brokenKey : String × Node :=
  entry none .broken

mutual

/-- `fuel` bounds the number of characters and values still to come. -/
def readValue (fuel : Nat) (cs : List Char) : Found Node :=
  match fuel with
  | 0 => (.broken, none)
  | fuel + 1 =>
    match skipSpace cs with
    | [] => (.broken, none)
    | 'n' :: rest => literal ['u', 'l', 'l'] .null rest
    | 't' :: rest => literal ['r', 'u', 'e'] (.bool true) rest
    | 'f' :: rest => literal ['a', 'l', 's', 'e'] (.bool false) rest
    | '"' :: rest => readText rest
    | '[' :: rest =>
      match skipSpace rest with
      | ']' :: rest => (.list [], some rest)
      | rest =>
        let (items, rest) := readItems fuel rest
        (.list items, rest)
    | '\x7b' :: rest =>
      match skipSpace rest with
      | '\x7d' :: rest => (.table [], some rest)
      | rest =>
        let (entries, rest) := readEntries fuel rest
        (.table entries, rest)
    | c :: rest => if c = '-' || isDecimalDigit c then readNumber (c :: rest) else (.broken, none)

/-- One item at least is due. -/
def readItems (fuel : Nat) (cs : List Char) : Found (List Node) :=
  match fuel with
  | 0 => ([.broken], none)
  | fuel + 1 =>
    match readValue fuel cs with
    | (node, none) => ([node], none)
    | (node, some rest) =>
      match skipSpace rest with
      | ']' :: rest => ([node], some rest)
      | ',' :: rest =>
        let (items, rest) := readItems fuel rest
        (node :: items, rest)
      | _ => ([node, .broken], none)

/-- One entry at least is due. -/
def readEntries (fuel : Nat) (cs : List Char) : Found (List (String × Node)) :=
  match fuel with
  | 0 => ([brokenKey], none)
  | fuel + 1 =>
    match skipSpace cs with
    | '"' :: rest =>
      match readKey rest with
      | none => ([brokenKey], none)
      | some (key, rest) =>
        match skipSpace rest with
        | ':' :: rest =>
          match readValue fuel rest with
          | (node, none) => ([entry key node], none)
          | (node, some rest) =>
            match skipSpace rest with
            | '\x7d' :: rest => ([entry key node], some rest)
            | ',' :: rest =>
              let (entries, rest) := readEntries fuel rest
              (entry key node :: entries, rest)
            | _ => ([entry key node, brokenKey], none)
        | _ => ([entry key .broken], none)
    | _ => ([brokenKey], none)

end

/-- A text read to its end, or up to where it stops making sense. -/
structure Reading where
  node : Node
  /-- Only blanks follow the value. -/
  ended : Bool

def read (s : String) : Reading :=
  match readValue (2 * s.length + 2) s.toList with
  | (node, none) => ⟨node, false⟩
  | (node, some rest) => ⟨node, (skipSpace rest).isEmpty⟩

end FlowGauge.Json
