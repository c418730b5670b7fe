/-! A double-precision number taken apart: a finite one is a whole number times a power of two. -/
namespace FlowGauge.Decimal

inductive Binary where
  | nan
  | infinite (negative : Bool)
  | finite (negative : Bool) (significand : Nat) (exponent : Int)
  deriving Repr, DecidableEq

namespace Binary

def fractionSize : Nat := Nat.pow 2 52

def exponentSize : Nat := Nat.pow 2 11

/-- The number whose interchange format is `bits`. -/
def ofBits (bits : Nat) : Binary :=
  let fraction := bits % fractionSize
  let biased := bits / fractionSize % exponentSize
  let negative := decide (Nat.pow 2 63 ≤ bits)
  if biased = exponentSize - 1 then
    if fraction = 0 then infinite negative else nan
  else if biased = 0 then finite negative fraction (-1074)
  else finite negative (fractionSize + fraction) ((biased : Int) - 1075)

def ofFloat (x : Float) : Binary :=
  ofBits x.toBits.toNat

end Binary

end FlowGauge.Decimal
