import FlowGauge.Text.Natural

namespace FlowGauge.Decimal
open Text (isDecimalDigit decimalValue sign)

/-- The float nearest to `digits * 10 ^ exponent`. Far beyond the floats on either side the powers
need not be worked out. -/
def nearest (digits : Nat) (exponent : Int) : Float :=
  let leading := exponent + (Nat.toDigits 10 digits).length
  if digits = 0 ∨ leading < -400 then 0
  else if 400 < leading then 1 / 0
  else Float.ofScientific digits (exponent < 0) exponent.natAbs

/-- The rest of a text as an exponent; without one it is zero. -/
def exponent? : List Char → Option Int
  | [] => some 0
  | c :: cs =>
    let (negative, digits) := sign cs
    if (c = 'e' ∨ c = 'E') ∧ digits ≠ [] ∧ digits.all isDecimalDigit then
      some (if negative then -(decimalValue digits : Int) else decimalValue digits)
    else none

def places : List Char → List Char × List Char
  | '.' :: cs => (cs.takeWhile isDecimalDigit, cs.dropWhile isDecimalDigit)
  | cs => ([], cs)

/-- Digits on either side of the point are enough. -/
def magnitude? (cs : List Char) : Option Float :=
  let whole := cs.takeWhile isDecimalDigit
  let (fraction, rest) := places (cs.dropWhile isDecimalDigit)
  if whole ++ fraction = [] then none
  else
    (exponent? rest).map fun e => nearest (decimalValue (whole ++ fraction)) (e - fraction.length)

def special? (word : String) : Option Float :=
  if word = "inf" ∨ word = "infinity" then some (1 / 0)
  else if word = "nan" then some (0 / 0)
  else none

/-- A whole text as a float; the names of what is not finite may be in any case. -/
def float? (s : String) : Option Float :=
  let (negative, cs) := sign s.toList
  ((special? ((String.ofList cs).map Char.toLower)).or (magnitude? cs)).map fun x =>
    if negative then -x else x

end FlowGauge.Decimal
