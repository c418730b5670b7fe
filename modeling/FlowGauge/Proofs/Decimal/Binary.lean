import FlowGauge.Decimal.Binary
import Mathlib

namespace FlowGauge.Decimal.Binary
open Float.Model Float.Model.UnpackedFloat

theorem toNat_unpackExponent (x : Float) :
    (unpackExponent x.toBits.toBitVec : BitVec (Format.exponentBits .binary64)).toNat =
      x.toBits.toNat / fractionSize % exponentSize := by
  show (BitVec.extractLsb' 52 11 x.toBits.toBitVec).toNat = _
  rw [BitVec.extractLsb'_toNat, Nat.shiftRight_eq_div_pow]
  rfl

theorem isFinite_iff_exponent (x : Float) :
    x.isFinite = true ↔ x.toBits.toNat / fractionSize % exponentSize ≠ exponentSize - 1 := by
  rw [← toNat_unpackExponent]
  show (UnpackedFloat.unpack .binary64 x.toBits.toBitVec).isFinite = true ↔ _
  have allOnes : (-1#(Format.exponentBits .binary64)).toNat = exponentSize - 1 := rfl
  rw [UnpackedFloat.unpack, ← allOnes, ne_eq, BitVec.toNat_inj]
  by_cases top : (unpackExponent x.toBits.toBitVec : BitVec (Format.exponentBits .binary64)) = -1#_
  · simp only [top, if_true]
    split <;> simp [UnpackedFloat.isFinite]
  · simp only [top, if_false, not_false_eq_true, iff_true]
    split
    · split <;> rfl
    · rfl

/-- The finite floats are those with a significand and an exponent. -/
theorem isFinite_iff (x : Float) :
    x.isFinite = true ↔ ∃ negative m q, ofFloat x = .finite negative m q := by
  rw [isFinite_iff_exponent, ofFloat, ofBits]
  by_cases top : x.toBits.toNat / fractionSize % exponentSize = exponentSize - 1
  · simp only [top, if_true]
    split <;> simp
  · simp only [top, if_false, ne_eq, not_false_eq_true, true_iff]
    split <;> simp

end FlowGauge.Decimal.Binary
