import FlowGauge.Decimal.Binary
import FlowGauge.Decimal.Shortest

/-! How a double-precision number is written: which decimal exponents are written out in places,
how an exponent is marked, and what stands for a whole number. -/
namespace FlowGauge.Decimal

/-- The choices that one format makes. -/
structure Notation where
  tie : Tie
  /-- Numbers whose first digit has one of these exponents are written out in places. -/
  positional : Int → Bool
  wholeEnd : String
  nan : String
  infinity : String
  negativeInfinity : String

/-- Documents: places for exponents from -5 to 15, otherwise a signed exponent; a whole number in
places ends in `.0`; what is not finite is `null`. -/
def Notation.document : Notation where
  tie := .even
  positional e := -5 ≤ e && e < 16
  wholeEnd := ".0"
  nan := "null"
  infinity := "null"
  negativeInfinity := "null"

/-- Messages: always in places, and a whole number has no point. -/
def Notation.message : Notation where
  tie := .up
  positional _ := true
  wholeEnd := ""
  nan := "NaN"
  infinity := "inf"
  negativeInfinity := "-inf"

def zeros (n : Nat) : String :=
  String.ofList (List.replicate n '0')

/-- `digits` with the point after the first `places`. -/
def pointed (digits : List Char) (places : Nat) : String :=
  String.ofList (digits.take places) ++ "." ++ String.ofList (digits.drop places)

def Notation.inPlaces (n : Notation) (d : Digits) : String :=
  let digits := Nat.toDigits 10 d.digits
  if 0 ≤ d.exponent then
    String.ofList digits ++ zeros d.exponent.toNat ++ n.wholeEnd
  else
    let fraction := (-d.exponent).toNat
    if fraction < digits.length then pointed digits (digits.length - fraction)
    else "0." ++ zeros (fraction - digits.length) ++ String.ofList digits

def withExponent (d : Digits) (e : Int) : String :=
  let digits := Nat.toDigits 10 d.digits
  let mantissa := if digits.length ≤ 1 then String.ofList digits else pointed digits 1
  mantissa ++ (if e < 0 then "e-" else "e+") ++ toString e.natAbs

/-- The exponent of the first digit. -/
def Digits.leading (d : Digits) : Int :=
  d.exponent + (Nat.toDigits 10 d.digits).length - 1

def Notation.magnitude (n : Notation) (significand : Nat) (exponent : Int) : String :=
  if significand = 0 then "0" ++ n.wholeEnd
  else
    let d := shortest n.tie significand exponent
    if n.positional d.leading then n.inPlaces d else withExponent d d.leading

def Notation.write (n : Notation) (x : Float) : String :=
  match Binary.ofFloat x with
  | .nan => n.nan
  | .infinite negative => if negative then n.negativeInfinity else n.infinity
  | .finite negative m q => (if negative then "-" else "") ++ n.magnitude m q

end FlowGauge.Decimal
