namespace FlowGauge.Text

def isDecimalDigit (c : Char) : Bool :=
  '0' ≤ c && c ≤ '9'

def digit (c : Char) : Nat :=
  c.toNat - 48

def decimalValue (cs : List Char) : Nat :=
  cs.foldl (fun n c => n * 10 + digit c) 0

/-- Whether a minus sign stands in front, and what follows the sign. -/
def sign : List Char → Bool × List Char
  | '+' :: cs => (false, cs)
  | '-' :: cs => (true, cs)
  | cs => (false, cs)

def unsigned : List Char → List Char
  | '+' :: cs => cs
  | cs => cs

/-- A plus sign may stand before the digits, of which there is at least one. -/
def natural? (cs : List Char) : Option Nat :=
  let digits := unsigned cs
  if digits ≠ [] ∧ digits.all isDecimalDigit then some (decimalValue digits) else none

/-- A natural number that is at most `max`. -/
def naturalUpTo? (max : Nat) (cs : List Char) : Option Nat :=
  (natural? cs).filter (· ≤ max)

end FlowGauge.Text
