import FlowGauge.Json.Number
import FlowGauge.Proofs.Decimal.Rounding
import FlowGauge.Proofs.Decimal.Shortest

/-! The digits of a written float are scaled to a float, never to something too large.

Only the largest floats come close. Below half their last place the rounding of the digits, of the
power of ten and of the product together stays in range, for each power of ten by itself; the
largest float of all is worked out. -/
namespace FlowGauge.Json
open Decimal

theorem scale?_of_neg (x : Float) {e : ℤ} (negative : e < 0) : (scale? x e).isSome := by
  induction h : e.natAbs using Nat.strongRecOn generalizing x e with
  | ind n ih =>
    subst h
    rw [scale?]
    split
    · rw [if_neg (by omega)]
      rfl
    · split
      · rfl
      · rw [if_neg (by omega)]
        exact ih _ (by omega) _ (by omega) rfl

theorem scale?_of_mul {x : Float} {e : ℕ} (small : e ≤ 308)
    (finite : (x * powerOfTen e).isInf = false) : (scale? x e).isSome := by
  rw [scale?, if_pos (by omega), if_pos (by omega)]
  simp only [Int.natAbs_natCast, finite]
  rfl

/-- The middle of the two largest numbers of 53 places, in units of `2 ^ k`. -/
def middle (k : ℕ) : ℕ :=
  (Nat.pow 2 54 - 3) * Nat.pow 2 k

theorem cast_middle (k : ℕ) : (middle k : ℚ) = 18014398509481981 * 2 ^ (k : ℤ) := by
  simp only [middle, Nat.pow_eq]
  push_cast
  norm_num

/-- The middle of the two largest floats. -/
def beneathLargest : ℕ :=
  middle 970

/-- The largest digits for a power of ten and the power itself have a product in range. -/
def scalable (e : ℕ) : Bool :=
  let digits := nearestFloat (min (Nat.pow 10 19) (beneathLargest / Nat.pow 10 e))
  let power := nearestFloat (Nat.pow 10 e)
  Nat.ble digits largest && Nat.ble power largest && Nat.ble (digits * power) largest

theorem scalable_all : (List.range 309).all scalable := by decide +kernel

theorem nearestFloat_largest : nearestFloat largest = largest := by decide +kernel

theorem exponent_lt {e a b n : ℕ} (power : 10 ^ e ≤ n) (below : n < (10 ^ a) ^ b) : e < a * b := by
  rw [← Nat.pow_mul] at below
  exact (Nat.pow_lt_pow_iff_right (by decide)).mp (power.trans_lt below)

theorem beneathLargest_lt : beneathLargest < (10 ^ 103) ^ 3 := by decide +kernel

theorem scale?_digits {digits e : ℕ} (pos : 0 < digits) (few : digits ≤ 10 ^ 19)
    (below : digits * 10 ^ e ≤ beneathLargest) :
    e < 309 ∧ (scale? (Float.ofNat digits) e).isSome := by
  have small : e < 309 := by
    have power : 10 ^ e ≤ beneathLargest := (Nat.le_mul_of_pos_left _ pos).trans below
    exact exponent_lt power beneathLargest_lt
  have checked := List.all_eq_true.mp scalable_all e (List.mem_range.mpr small)
  simp only [scalable, Bool.and_eq_true, Nat.ble_eq, Nat.pow_eq] at checked
  obtain ⟨⟨digitsFit, powerFits⟩, productFits⟩ := checked
  have bounded : digits * 10 ^ 0 ≤ min (10 ^ 19) (beneathLargest / 10 ^ e) := by
    rw [Nat.pow_zero, Nat.mul_one, Nat.le_min, Nat.le_div_iff_mul_le (Nat.pow_pos (by decide))]
    exact ⟨few, below⟩
  have significand : UpTo _ (Float.ofNat digits).toModel.unpack :=
    upTo_ofScientific pos bounded (Nat.zero_le _) digitsFit
  have power : UpTo _ (powerOfTen e).toModel.unpack :=
    upTo_ofScientific Nat.one_pos (Nat.one_mul _).le (by omega) powerFits
  have product := mul_not_isInf significand power productFits nearestFloat_largest.le
  exact ⟨small, scale?_of_mul (by omega) product⟩

theorem add_half_le_beneathLargest {m : ℕ} {q : ℤ} (full : m < 2 ^ 53) (high : q ≤ 971)
    (notLargest : ¬ (m = 9007199254740991 ∧ q = 971)) :
    ((4 : ℚ) * m + 2) * 2 ^ (q - 2) ≤ beneathLargest := by
  have bound : (beneathLargest : ℚ) = 18014398509481981 * 2 ^ (972 - q) * 2 ^ (q - 2) := by
    have places : 972 - q + (q - 2) = (970 : ℕ) := by omega
    rw [mul_assoc, ← zpow_add₀ (by norm_num), places]
    exact cast_middle 970
  rw [bound]
  gcongr
  rcases eq_or_lt_of_le high with rfl | lower
  · have digits : (m : ℚ) ≤ 9007199254740990 := by exact_mod_cast (by omega : m ≤ 9007199254740990)
    norm_num
    linarith
  · have digits : (m : ℚ) ≤ 9007199254740991 := by exact_mod_cast (by omega : m ≤ 9007199254740991)
    have four : (2 : ℚ) ^ (2 : ℤ) ≤ 2 ^ (972 - q) := zpow_le_zpow_right₀ (by norm_num) (by omega)
    norm_num at four
    linarith

theorem shortest_largest : shortest .even 9007199254740991 971 = ⟨17976931348623157, 292⟩ := by
  decide +kernel

theorem scale?_largest : (scale? (Float.ofNat 17976931348623157) (292 : ℕ)).isSome :=
  scale?_of_mul (by decide) (by decide +kernel)

/-- The digits and the exponent of a written float can be read. -/
structure Readable (d : Digits) : Prop where
  positive : 0 < d.digits
  few : d.digits ≤ 10 ^ 19
  exponent : d.exponent < 309
  scaled : (scale? (Float.ofNat d.digits) d.exponent).isSome

theorem readable_shortest {m : ℕ} {q : ℤ} (pos : 0 < m) (full : m < 2 ^ 53) (low : -1074 ≤ q)
    (high : q ≤ 971) : Readable (shortest .even m q) := by
  have log : m.log2 < 53 := (Nat.log2_lt pos.ne').mpr full
  obtain ⟨positive, few, value⟩ := shortest_size .even pos (q := q) (by omega) (by omega)
  by_cases top : m = 9007199254740991 ∧ q = 971
  · obtain ⟨rfl, rfl⟩ := top
    rw [shortest_largest]
    exact ⟨by decide, by decide, by decide, scale?_largest⟩
  generalize shortest .even m q = d at positive few value
  rcases lt_or_ge d.exponent 0 with negative | natural
  · exact ⟨positive, few, by omega, scale?_of_neg _ negative⟩
  · obtain ⟨e, exponent⟩ := Int.eq_ofNat_of_zero_le natural
    have scaled : ((d.digits * 10 ^ e : ℕ) : ℚ) ≤ beneathLargest := by
      calc ((d.digits * 10 ^ e : ℕ) : ℚ) = d.value := by
            rw [Digits.value, exponent, zpow_natCast]
            push_cast
            rfl
        _ ≤ (4 * m + 2) * 2 ^ (q - 2) := value
        _ ≤ beneathLargest := add_half_le_beneathLargest full high top
    obtain ⟨small, isSome⟩ := scale?_digits positive few (by exact_mod_cast scaled)
    exact ⟨positive, few, by omega, by rwa [exponent]⟩

end FlowGauge.Json
