import FlowGauge.Decimal.Reading
import FlowGauge.Text.Hexadecimal
import FlowGauge.Toml.Character

namespace FlowGauge.Toml
open Text (isDecimalDigit decimalValue sign)

/-- Digits of a class, with single underscores between them. -/
def grouped (isOne : Char → Bool) : List Char → List Char × List Char
  | '_' :: c :: cs =>
    if isOne c then
      let (ds, rest) := grouped isOne cs
      (c :: ds, rest)
    else ([], '_' :: c :: cs)
  | c :: cs =>
    if isOne c then
      let (ds, rest) := grouped isOne cs
      (c :: ds, rest)
    else ([], c :: cs)
  | [] => ([], [])

/-- One digit at least, and the first character is one. -/
def groupedDigits? (isOne : Char → Bool) : List Char → Option (Front (List Char))
  | c :: cs =>
    if isOne c then
      let (ds, rest) := grouped isOne cs
      some (c :: ds, rest)
    else none
  | [] => none

/-- A zero stands alone. -/
def decimalDigits? : List Char → Option (Front (List Char))
  | '0' :: cs => some (['0'], cs)
  | cs => groupedDigits? isDecimalDigit cs

def radixValue (radix : Nat) (ds : List Char) : Nat :=
  ds.foldl (fun n c => n * radix + (Text.hexValue? c).getD 0) 0

def isHex (c : Char) : Bool :=
  (Text.hexValue? c).isSome

def isOctal (c : Char) : Bool :=
  '0' ≤ c && c ≤ '7'

def isBinary (c : Char) : Bool :=
  c = '0' || c = '1'

def fits (n : Int) : Bool :=
  Int64.minValue.toInt ≤ n && n ≤ Int64.maxValue.toInt

def inRadix? (radix : Nat) (isOne : Char → Bool) (cs : List Char) : Option (Front Int) := do
  let (ds, cs) ← groupedDigits? isOne cs
  let n : Int := radixValue radix ds
  guard (fits n)
  return (n, cs)

/-- Whole numbers of 64 bits with a sign. -/
def integer? (cs : List Char) : Option (Front Int) :=
  match cs with
  | '0' :: 'x' :: cs => inRadix? 16 isHex cs
  | '0' :: 'o' :: cs => inRadix? 8 isOctal cs
  | '0' :: 'b' :: cs => inRadix? 2 isBinary cs
  | cs => do
    let (negative, cs) := sign cs
    let (ds, cs) ← decimalDigits? cs
    let n : Int := if negative then -(decimalValue ds : Int) else decimalValue ds
    guard (fits n)
    return (n, cs)

/-- The digits after a point, if there is one. -/
def fraction? : List Char → Option (Front (Option (List Char)))
  | '.' :: cs => do
    let (ds, cs) ← groupedDigits? isDecimalDigit cs
    return (some ds, cs)
  | cs => some (none, cs)

def exponent? : List Char → Option (Front (Option Int))
  | c :: cs =>
    if c = 'e' ∨ c = 'E' then do
      let (negative, cs) := sign cs
      let (ds, cs) ← groupedDigits? isDecimalDigit cs
      let n : Int := decimalValue ds
      return (some (if negative then -n else n), cs)
    else some (none, c :: cs)
  | [] => some (none, [])

/-- A number too large for a float is refused, unless it is negative. -/
def floatNumber? (cs : List Char) : Option (Front Float) := do
  let (negative, cs) := sign cs
  let (whole, cs) ← decimalDigits? cs
  let (fraction, cs) ← fraction? cs
  let (exponent, cs) ← exponent? cs
  guard (fraction.isSome || exponent.isSome)
  let places := fraction.getD []
  let x := Decimal.nearest (decimalValue (whole ++ places)) (exponent.getD 0 - places.length)
  guard (negative || !x.isInf)
  return (if negative then -x else x, cs)

def specialFloat? (cs : List Char) : Option (Front Float) := do
  let (negative, cs) := sign cs
  let x ←
    match cs with
    | 'i' :: 'n' :: 'f' :: _ => some (1 / 0 : Float)
    | 'n' :: 'a' :: 'n' :: _ => some (0 / 0 : Float)
    | _ => none
  return (if negative then -x else x, cs.drop 3)

def float? (cs : List Char) : Option (Front Float) :=
  (floatNumber? cs).or (specialFloat? cs)

end FlowGauge.Toml
