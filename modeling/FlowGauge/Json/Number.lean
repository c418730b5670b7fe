import FlowGauge.Text.Natural

/-! Numbers in JSON: their form, and the value that is read from it.

A whole number that fits a word of 64 bits is exact. Every other number is a float, computed from
the leading digits that fit such a word by one multiplication or division with a power of ten, so
its last binary place is not always the nearest one. -/
namespace FlowGauge.Json
open Text (isDecimalDigit digit decimalValue)

/-- The parts of a number as they stand. -/
structure Numeral where
  negative : Bool
  whole : List Char
  fraction : Option (List Char)
  /-- Whether the exponent is negative, and its digits. -/
  exponent : Option (Bool × List Char)
  deriving Repr, DecidableEq

/-- One digit at least. -/
def digits? (cs : List Char) : Option (List Char × List Char) :=
  match cs.takeWhile isDecimalDigit with
  | [] => none
  | ds => some (ds, cs.dropWhile isDecimalDigit)

/-- A zero is not followed by another digit. -/
def wholePart? (cs : List Char) : Option (List Char × List Char) := do
  let (ds, rest) ← digits? cs
  guard (ds.head? ≠ some '0' ∨ ds.length = 1)
  return (ds, rest)

def fractionPart? : List Char → Option (Option (List Char) × List Char)
  | '.' :: cs => do
    let (ds, rest) ← digits? cs
    return (some ds, rest)
  | cs => some (none, cs)

def exponentPart? (cs : List Char) : Option (Option (Bool × List Char) × List Char) :=
  match cs with
  | c :: rest =>
    if c = 'e' ∨ c = 'E' then do
      let (negative, rest) := Text.sign rest
      let (ds, rest) ← digits? rest
      return (some (negative, ds), rest)
    else some (none, cs)
  | [] => some (none, [])

/-- No number begins with a plus sign. -/
def sign : List Char → Bool × List Char
  | '-' :: cs => (true, cs)
  | cs => (false, cs)

def numeral? (cs : List Char) : Option (Numeral × List Char) := do
  let (negative, rest) := sign cs
  let (whole, rest) ← wholePart? rest
  let (fraction, rest) ← fractionPart? rest
  let (exponent, rest) ← exponentPart? rest
  return (⟨negative, whole, fraction, exponent⟩, rest)

def wordMax : Nat := UInt64.size - 1

/-- The digits appended to `n` while the result fits a word, and the digits left over. -/
def gather (n : Nat) : List Char → Nat × List Char
  | [] => (n, [])
  | c :: cs => if n * 10 + digit c ≤ wordMax then gather (n * 10 + digit c) cs else (n, c :: cs)

/-- A significand and the power of ten it is to be multiplied with. Digits of the whole part that
do not fit raise the power, digits of the fraction that do not fit are dropped. -/
def Numeral.scientific (n : Numeral) : Nat × Int :=
  let (high, left) := gather 0 n.whole
  match n.fraction with
  | none => (high, left.length)
  | some fraction =>
    let (all, dropped) := gather high fraction
    (all, (left.length : Int) - (fraction.length - dropped.length : Nat))

def powerOfTen (n : Nat) : Float :=
  Float.ofScientific 1 false n

/-- `x * 10 ^ e`, or nothing if that is beyond every float. -/
def scale? (x : Float) (e : Int) : Option Float :=
  if e.natAbs ≤ 308 then
    if 0 ≤ e then
      let y := x * powerOfTen e.natAbs
      if y.isInf then none else some y
    else some (x / powerOfTen e.natAbs)
  else if x == 0 then some x
  else if 0 ≤ e then none
  else scale? (x / powerOfTen 308) (e + 308)
termination_by e.natAbs
decreasing_by omega

def exponentMax : Nat := 2147483647

/-- The value without its sign. An exponent beyond 31 bits makes it zero or too large. -/
def Numeral.magnitude? (n : Numeral) : Option Float :=
  let (significand, power) := n.scientific
  match n.exponent with
  | none => scale? (Float.ofNat significand) power
  | some (negative, ds) =>
    let e := decimalValue ds
    if exponentMax < e then
      if significand ≠ 0 ∧ negative = false then none else some 0
    else scale? (Float.ofNat significand) (if negative then power - e else power + e)

def signed (negative : Bool) (x : Float) : Float :=
  if negative then -x else x

inductive Number where
  | integer (n : Int)
  | float (x : Float)
  | tooLarge

/-- The whole number, if nothing but whole digits is written and it has at most 64 bits. There is
no negative zero among them. -/
def Numeral.integer? (n : Numeral) : Option Int :=
  match n.fraction, n.exponent with
  | none, none =>
    let m := decimalValue n.whole
    if n.negative then if 0 < m ∧ m ≤ Nat.pow 2 63 then some (-m) else none
    else if m ≤ wordMax then some m else none
  | _, _ => none

def Numeral.number (n : Numeral) : Number :=
  match n.integer? with
  | some i => .integer i
  | none =>
    match n.magnitude? with
    | some x => .float (signed n.negative x)
    | none => .tooLarge

end FlowGauge.Json
