import FlowGauge.Shape
import Mathlib.Tactic.ByContra

/-! What a recorded width tells of a value.

A width is recorded in a word with a sign, so that -1 is free for a value whose number of fields is
not fixed. The fields are counted in a word without a sign, and elements that take no room can be as
many as this word holds. From the middle of its range on, what is recorded is negative. -/
namespace FlowGauge

namespace Shape

/-- The form of the value behind all boxes and references. -/
def innermost : Shape → Shape
  | boxed inner => inner.innermost
  | reference inner => inner.innermost
  | form => form

/-- The forms that fix the number of fields. -/
inductive IsFixed : Shape → Nat → Prop
  | fields (n : UInt64) : IsFixed (tuple n) n.toNat
  | elements (n : UInt64) : IsFixed (array n) n.toNat

/-- Behind all boxes and references the value has a fixed number of fields. -/
def Arity (s : Shape) (n : Nat) : Prop :=
  s.innermost.IsFixed n

theorem arity_toNat_of_width {s : Shape} {w : UInt64} (found : s.width? = some w) :
    s.Arity w.toNat := by
  induction s with
  | tuple =>
    cases found
    exact .fields w
  | array =>
    cases found
    exact .elements w
  | boxed inner ih | reference inner ih => exact ih found
  | plain | optional | growable | slice | scalar | json => cases found

theorem width_of_arity {s : Shape} {n : Nat} (h : s.Arity n) :
    ∃ w, s.width? = some w ∧ w.toNat = n := by
  induction s with
  | tuple k | array k =>
    cases h
    exact ⟨k, rfl, rfl⟩
  | boxed inner ih | reference inner ih => exact ih h
  | plain | optional | growable | slice | scalar | json => cases h

theorem toInt_maxValue : Int64.maxValue.toInt = 9223372036854775807 := by
  decide

/-- A word without a sign, read as one with a sign. -/
theorem toInt_toInt64 (w : UInt64) : w.toInt64.toInt =
    if w.toNat ≤ Int64.maxValue.toInt then (w.toNat : Int) else w.toNat - UInt64.size := by
  have bound := w.toNat_lt_size
  have read : w.toInt64.toInt = w.toBitVec.toInt := rfl
  have value : w.toBitVec.toNat = w.toNat := rfl
  rw [read, BitVec.toInt_eq_toNat_cond, value, toInt_maxValue]
  simp only [UInt64.size] at bound ⊢
  split <;> split <;> omega

/-- A number of fields is recorded as it is up to the greatest word with a sign, and less all words
beyond. -/
theorem toInt_recorded {s : Shape} {n : Nat} (h : s.Arity n) : s.recorded.toInt =
    if n ≤ Int64.maxValue.toInt then (n : Int) else n - UInt64.size := by
  obtain ⟨w, found, rfl⟩ := width_of_arity h
  rw [recorded, found]
  exact toInt_toInt64 w

theorem recorded_of_unfixed {s : Shape} (h : ∀ n, ¬s.Arity n) : s.recorded = -1 := by
  cases found : s.width? with
  | none => rw [recorded, found]
  | some w => exact absurd (arity_toNat_of_width found) (h w.toNat)

theorem Arity.lt_size {s : Shape} {n : Nat} (h : s.Arity n) : n < UInt64.size := by
  obtain ⟨w, -, rfl⟩ := width_of_arity h
  exact w.toNat_lt_size

theorem recorded_eq_neg_one_iff (s : Shape) :
    s.recorded = -1 ↔ (∀ n, ¬s.Arity n) ∨ s.Arity (UInt64.size - 1) := by
  constructor
  · intro unknown
    by_contra neither
    obtain ⟨fixed, other⟩ := not_or.mp neither
    obtain ⟨n, arity⟩ := not_forall_not.mp fixed
    have bound := arity.lt_size
    have value : (-1 : Int64).toInt = _ := unknown ▸ toInt_recorded arity
    have minusOne : (-1 : Int64).toInt = -1 := by decide
    have last : n ≠ UInt64.size - 1 := fun same => other (same ▸ arity)
    rw [minusOne, toInt_maxValue] at value
    simp only [UInt64.size] at bound value last
    split at value <;> omega
  · rintro (unfixed | countless)
    · exact recorded_of_unfixed unfixed
    · rw [← Int64.toInt_inj, toInt_recorded countless]
      decide

theorem recorded_neg_iff (s : Shape) :
    s.recorded.toInt < 0 ↔ (∀ n, ¬s.Arity n) ∨ ∃ n, s.Arity n ∧ Int64.maxValue.toInt < n := by
  constructor
  · intro negative
    refine or_iff_not_imp_left.mpr fun fixed => ?_
    obtain ⟨n, arity⟩ := not_forall_not.mp fixed
    refine ⟨n, arity, ?_⟩
    rw [toInt_recorded arity] at negative
    by_contra fits
    rw [if_pos (Int.not_lt.mp fits)] at negative
    omega
  · rintro (unfixed | ⟨n, arity, beyond⟩)
    · rw [recorded_of_unfixed unfixed]
      decide
    · have bound := arity.lt_size
      rw [toInt_recorded arity, if_neg (Int.not_le.mpr beyond)]
      omega

/-- **What a recorded width tells.** Through any boxes and references, a fixed number of fields is
recorded as it is if it fits a word with a sign, and as that many words less otherwise; any other
value is recorded as -1. So a width of -1 means that the number of fields is not fixed, or that it
is the greatest there is, and a negative width that it is not fixed or does not fit. -/
theorem recorded_width (s : Shape) :
    (∀ n, s.Arity n → s.recorded.toInt =
      if n ≤ Int64.maxValue.toInt then (n : Int) else n - UInt64.size) ∧
    ((∀ n, ¬s.Arity n) → s.recorded = -1) ∧
    (s.recorded = -1 ↔ (∀ n, ¬s.Arity n) ∨ s.Arity (UInt64.size - 1)) ∧
    (s.recorded.toInt < 0 ↔ (∀ n, ¬s.Arity n) ∨ ∃ n, s.Arity n ∧ Int64.maxValue.toInt < n) :=
  ⟨fun _ => toInt_recorded, recorded_of_unfixed, s.recorded_eq_neg_one_iff, s.recorded_neg_iff⟩

/-- An array of as many elements as can be counted is taken for a value with no fixed number. -/
theorem countless_taken_for_unfixed :
    ¬∀ s : Shape, (∀ n, s.Arity n → s.recorded.toInt = n) ∧
      (s.recorded = -1 ↔ ∀ n, ¬s.Arity n) := by
  intro tells
  have countless : (array 18446744073709551615).Arity 18446744073709551615 := .elements _
  have unknown := (tells (array 18446744073709551615)).2.mp (by decide)
  exact unknown _ countless

end Shape

end FlowGauge
