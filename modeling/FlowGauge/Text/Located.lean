import FlowGauge.Text.Natural

namespace FlowGauge.Text

structure Place where
  line : Nat
  column : Nat
  deriving Repr, DecidableEq

/-- A message that may end with a place in the text that it is about. -/
structure Located where
  message : String
  place : Option Place
  deriving Repr, DecidableEq

namespace Located

/-- The number at the end of a text, which is given from its end, and what comes before it. -/
def lastNumber? (cs : List Char) : Option (Nat × List Char) := do
  let n ← naturalUpTo? (UInt64.size - 1) (cs.takeWhile isDecimalDigit).reverse
  return (n, cs.dropWhile isDecimalDigit)

/-- What comes before a word at the end. -/
def before? (word : String) (cs : List Char) : Option (List Char) :=
  if word.toList.reverse.isPrefixOf cs then some (cs.drop word.length) else none

def placed? (s : String) : Option Located := do
  let (column, cs) ← lastNumber? s.toList.reverse
  let (line, cs) ← lastNumber? (← before? " column " cs)
  let cs ← before? " at line " cs
  return ⟨String.ofList cs.reverse, some ⟨line, column⟩⟩

def ofText (s : String) : Located :=
  (placed? s).getD ⟨s, none⟩

/-- Lines are counted from one, so a place on line zero is nowhere and not told. -/
def text (m : Located) : String :=
  match m.place with
  | some ⟨line + 1, column⟩ =>
    m.message ++ " at line " ++ toString (line + 1) ++ " column " ++ toString column
  | _ => m.message

end Located

end FlowGauge.Text
