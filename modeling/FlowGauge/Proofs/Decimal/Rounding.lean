import Mathlib

/-! Upper bounds on floats that are at least one, through rounding and multiplication.

A result is rounded to the nearest float, so what is at most `n` stays at most the float nearest to
`n`. The statements are about mantissas and exponents: `UpTo b` holds of the unpacked floats between
one and `b`. -/
namespace FlowGauge.Decimal
open Float.Model Float.Model.UnpackedFloat

/-- A positive number of full precision, at least one and at most `bound`. -/
def UpTo (bound : ℕ) (u : UnpackedFloat) : Prop :=
  ∃ m e, ∃ pos : 0 < m, u = .finite .positive m e pos ∧ m.log2 = 52 ∧ -52 ≤ e ∧
    (m : ℚ) * 2 ^ e ≤ bound

/-- The multiple of the last of 53 binary places that is nearest to `n`, the larger one of two. -/
def nearestFloat (n : ℕ) : ℕ :=
  let k := n.log2 - 52
  (2 * n + 2 ^ k) / 2 ^ (k + 1) * 2 ^ k

/-- The largest float. -/
def largest : ℕ :=
  (Nat.pow 2 53 - 1) * Nat.pow 2 971

/-! ### Shifting out binary places -/

/-- The quotient by a power of two, with what its rounding needs of the places shifted out. -/
def shiftedOut (m k : ℕ) : ExtendedMantissa :=
  ExtendedMantissa.mk m false false >>> k

theorem shiftedOut_succ (m k : ℕ) : shiftedOut m (k + 1) = (shiftedOut m k).shiftRightOne := rfl

theorem mantissa_shiftedOut (m k : ℕ) : (shiftedOut m k).mantissa = m / 2 ^ k := by
  induction k with
  | zero => exact (Nat.div_one m).symm
  | succ k ih =>
    rw [shiftedOut_succ, ExtendedMantissa.shiftRightOne, ih, Nat.div_div_eq_div_mul, Nat.pow_succ]

/-- The first place shifted out tells whether at least one half is lost. -/
theorem roundBit_shiftedOut {m k : ℕ} (little : 2 * (m % 2 ^ k) < 2 ^ k) :
    (shiftedOut m k).roundBit = false := by
  cases k with
  | zero => rfl
  | succ k =>
    rw [Nat.mod_pow_succ, Nat.pow_succ] at little
    have even : m / 2 ^ k % 2 = 0 := by
      by_contra odd
      rw [show m / 2 ^ k % 2 = 1 by omega] at little
      omega
    simp [shiftedOut_succ, ExtendedMantissa.shiftRightOne, mantissa_shiftedOut, even]

theorem roundedMantissa_bounds (em : ExtendedMantissa) :
    em.mantissa ≤ em.roundedMantissa ∧ em.roundedMantissa ≤ em.mantissa + 1 ∧
      (em.roundBit = false → em.roundedMantissa = em.mantissa) := by
  obtain ⟨m, round, sticky⟩ := em
  cases round <;> cases sticky <;>
    simp [ExtendedMantissa.roundedMantissa, ExtendedMantissa.accuracy, Accuracy.roundToNearestEven]
  omega

/-- A quotient below `K` and a half is not rounded beyond `K`. -/
theorem rounded_shiftedOut_le {m k K : ℕ} (below : 2 * m < (2 * K + 1) * 2 ^ k) :
    (shiftedOut m k).roundedMantissa ≤ K := by
  obtain ⟨-, step, exact⟩ := roundedMantissa_bounds (shiftedOut m k)
  rw [mantissa_shiftedOut] at step exact
  have parts : 2 ^ k * (m / 2 ^ k) + m % 2 ^ k = m := Nat.div_add_mod m (2 ^ k)
  rcases Nat.lt_trichotomy (m / 2 ^ k) K with less | equal | more
  · omega
  · have little : 2 * (m % 2 ^ k) < 2 ^ k := by
      rw [equal] at parts
      linarith
    rw [exact (roundBit_shiftedOut little), equal]
  · have : 2 ^ k * (K + 1) ≤ 2 ^ k * (m / 2 ^ k) := Nat.mul_le_mul_left _ more
    linarith [Nat.zero_le (m % 2 ^ k), Nat.two_pow_pos k]

theorem le_rounded_shiftedOut {m k K : ℕ} (above : K * 2 ^ k ≤ m) :
    K ≤ (shiftedOut m k).roundedMantissa := by
  have quotient : K ≤ m / 2 ^ k := (Nat.le_div_iff_mul_le (by positivity)).mpr above
  have step := (roundedMantissa_bounds (shiftedOut m k)).1
  rw [mantissa_shiftedOut] at step
  omega

theorem shiftToTargetExponent_full {m : ℕ} {e : ℤ} (full : 52 ≤ m.log2)
    (one : 0 ≤ (m.log2 : ℤ) + e) :
    shiftToTargetExponent .binary64 m e .exact =
      (shiftedOut m (m.log2 - 52), e + (m.log2 - 52 : ℕ)) := by
  have least : Format.minExponent .binary64 = -1074 := rfl
  have places : (Format.mantissaBits .binary64 : ℤ) = 53 := rfl
  have target : Format.targetExponent .binary64 (totalExponent m e) = m.log2 + e - 52 := by
    simp only [Format.targetExponent, totalExponent, least, places]
    omega
  have amount : (m.log2 + e - 52 - e).toNat = m.log2 - 52 := by omega
  simp only [shiftToTargetExponent, shiftToExponent, target, amount]
  rfl

/-- A number of at least 53 places is rounded to 53. -/
theorem roundWithAccuracy_full {m : ℕ} {e : ℤ} (full : 52 ≤ m.log2)
    (one : 0 ≤ (m.log2 : ℤ) + e) :
    let k := m.log2 - 52
    let r := (shiftedOut m k).roundedMantissa
    ∃ m' e', ∃ pos : 0 < m', roundWithAccuracy .binary64 .positive m e .exact =
        .finite .positive m' e' pos ∧
      m'.log2 = 52 ∧ -52 ≤ e' ∧ (m' : ℚ) * 2 ^ e' = r * 2 ^ (e + k) := by
  intro k r
  have log : m.log2 = 52 + k := by omega
  have nonzero : m ≠ 0 := by rintro rfl; simp at full
  have atLeast : 2 ^ 52 ≤ r := by
    apply le_rounded_shiftedOut
    rw [← Nat.pow_add, ← log]
    exact Nat.log2_self_le nonzero
  have atMost : r ≤ 2 ^ 53 := by
    apply rounded_shiftedOut_le
    have : m < 2 ^ 53 * 2 ^ k := by
      rw [← Nat.pow_add, show 53 + k = m.log2 + 1 by omega]
      exact Nat.lt_log2_self
    linarith [Nat.two_pow_pos k]
  have rounds {final : ℕ} {e' : ℤ} (pos : 0 < final)
      (second : shiftToTargetExponent .binary64 r (e + k) .exact = (⟨final, false, false⟩, e')) :
      roundWithAccuracy .binary64 .positive m e .exact = .finite .positive final e' pos := by
    have first : shiftToTargetExponent .binary64 m e .exact = (shiftedOut m k, e + k) :=
      shiftToTargetExponent_full full one
    have again : (shiftToTargetExponent .binary64 (shiftedOut m k).roundedMantissa (e + k) .exact) =
      (⟨final, false, false⟩, e') := second
    simp only [roundWithAccuracy, first, again, pos.ne', dite_false]
  -- Rounding up may carry into one more place; the last place is zero then.
  rcases Nat.eq_or_lt_of_le atMost with carry | within
  · have log53 : r.log2 = 53 := by rw [carry]; exact Nat.log2_two_pow
    refine ⟨2 ^ 52, e + k + 1, by positivity, rounds _ ?_, Nat.log2_two_pow, by omega, ?_⟩
    · rw [shiftToTargetExponent_full (by omega) (by omega), log53, carry]
      rfl
    · rw [carry, zpow_add₀ (by norm_num) (e + k)]
      push_cast
      ring
  · have log52 : r.log2 = 52 := (Nat.log2_eq_iff (by omega)).mpr ⟨atLeast, within⟩
    refine ⟨r, e + k, by omega, rounds _ ?_, log52, by omega, rfl⟩
    rw [shiftToTargetExponent_full (by omega) (by omega), log52]
    simp [shiftedOut, HShiftRight.hShiftRight, Nat.repeat]

/-- The quotient that `nearestFloat` takes falls short of the exact one by less than a half. -/
theorem two_mul_lt_nearest (n k : ℕ) :
    2 * n < (2 * ((2 * n + 2 ^ k) / 2 ^ (k + 1)) + 1) * 2 ^ k := by
  have parts := Nat.lt_mul_div_succ (2 * n + 2 ^ k) (Nat.two_pow_pos (k + 1))
  rw [Nat.pow_succ] at parts ⊢
  linarith

theorem le_nearest_of_lt {m n : ℕ} {e : ℤ} (below : (m : ℚ) * 2 ^ e ≤ n)
    (coarser : (m.log2 : ℤ) + e < 52 + (n.log2 - 52 : ℕ)) : (m : ℚ) * 2 ^ e ≤ nearestFloat n := by
  rcases Nat.le_total n.log2 52 with small | large
  · have exact : nearestFloat n = n := by
      rw [nearestFloat, Nat.sub_eq_zero_of_le small]
      omega
    rwa [exact]
  · obtain ⟨k, log⟩ : ∃ k, n.log2 = 52 + k := ⟨n.log2 - 52, by omega⟩
    have nonzero : n ≠ 0 := by rintro rfl; simp at large
    have size : 2 ^ 52 * 2 ^ k ≤ n := by
      rw [← Nat.pow_add, ← log]
      exact Nat.log2_self_le nonzero
    have full : 2 ^ 52 ≤ (2 * n + 2 ^ k) / 2 ^ (k + 1) := by
      rw [Nat.le_div_iff_mul_le (by positivity), pow_succ 2 k]
      linarith [Nat.two_pow_pos k]
    rw [log, Nat.add_sub_cancel_left] at coarser
    calc (m : ℚ) * 2 ^ e ≤ 2 ^ (m.log2 + 1) * 2 ^ e := by
          gcongr
          exact_mod_cast Nat.lt_log2_self.le
      _ = 2 ^ ((m.log2 : ℤ) + 1 + e) := by
          rw [← zpow_natCast, ← zpow_add₀ (by norm_num)]
          push_cast
          rfl
      _ ≤ 2 ^ ((52 : ℤ) + k) := zpow_le_zpow_right₀ (by norm_num) (by omega)
      _ = 2 ^ 52 * 2 ^ k := by
          rw [zpow_add₀ (by norm_num)]
          norm_cast
      _ ≤ nearestFloat n := by
          rw [nearestFloat, log, Nat.add_sub_cancel_left]
          exact_mod_cast Nat.mul_le_mul_right (2 ^ k) full

theorem log2_add_le {m n : ℕ} {e : ℤ} (nonzero : m ≠ 0) (below : (m : ℚ) * 2 ^ e ≤ n) :
    (m.log2 : ℤ) + e ≤ n.log2 := by
  by_contra beyond
  have : (n : ℚ) < m * 2 ^ e := by
    calc (n : ℚ) < 2 ^ (n.log2 + 1) := by exact_mod_cast Nat.lt_log2_self
      _ = 2 ^ ((n.log2 : ℤ) + 1) := by norm_cast
      _ ≤ 2 ^ ((m.log2 : ℤ) + e) := zpow_le_zpow_right₀ (by norm_num) (by omega)
      _ = 2 ^ m.log2 * 2 ^ e := by rw [zpow_add₀ (by norm_num), zpow_natCast]
      _ ≤ m * 2 ^ e := by
        gcongr
        exact_mod_cast Nat.log2_self_le nonzero
  linarith

/-- Places that were shifted out, put back. -/
theorem zpow_shifted (a k : ℕ) (e : ℤ) : (a : ℚ) * 2 ^ (e + k) = (a * 2 ^ k : ℕ) * 2 ^ e := by
  rw [zpow_add₀ (by norm_num), zpow_natCast]
  push_cast
  ring

/-- The number and the bound are rounded at the same place. -/
theorem rounded_le_of_same_place {m n k : ℕ} {e : ℤ} (below : (m : ℚ) * 2 ^ e ≤ n)
    (same : ((n.log2 - 52 : ℕ) : ℤ) = e + k) :
    (shiftedOut m k).roundedMantissa ≤ (2 * n + 2 ^ (n.log2 - 52)) / 2 ^ (n.log2 - 52 + 1) := by
  have half := two_mul_lt_nearest n (n.log2 - 52)
  generalize (2 * n + 2 ^ (n.log2 - 52)) / 2 ^ (n.log2 - 52 + 1) = K at half ⊢
  apply rounded_shiftedOut_le
  have ulp : (0 : ℚ) < 2 ^ e := by positivity
  have : ((2 * m : ℕ) : ℚ) * 2 ^ e < ((2 * K + 1) * 2 ^ k : ℕ) * 2 ^ e := by
    calc ((2 * m : ℕ) : ℚ) * 2 ^ e ≤ (2 * n : ℕ) := by push_cast; linarith
      _ < ((2 * K + 1) * 2 ^ (n.log2 - 52) : ℕ) := by exact_mod_cast half
      _ = ((2 * K + 1 : ℕ) : ℚ) * 2 ^ (e + k) := by
        push_cast
        rw [← zpow_natCast 2 (n.log2 - 52), same]
      _ = ((2 * K + 1) * 2 ^ k : ℕ) * 2 ^ e := zpow_shifted _ k e
  exact_mod_cast lt_of_mul_lt_mul_right this ulp.le

/-- The number is smaller than all that is rounded where the bound is. -/
theorem rounded_le_of_lower_place {m n k K : ℕ} {e : ℤ} (below : (m : ℚ) * 2 ^ e ≤ n)
    (lower : (m.log2 : ℤ) + e < 52 + (n.log2 - 52 : ℕ))
    (nearest : (nearestFloat n : ℚ) = K * 2 ^ (e + k)) :
    (shiftedOut m k).roundedMantissa ≤ K := by
  apply rounded_shiftedOut_le
  have ulp : (0 : ℚ) < 2 ^ e := by positivity
  have : (m : ℚ) * 2 ^ e ≤ (K * 2 ^ k : ℕ) * 2 ^ e := by
    rw [← zpow_shifted, ← nearest]
    exact le_nearest_of_lt below lower
  have : m ≤ K * 2 ^ k := by exact_mod_cast le_of_mul_le_mul_right this ulp
  linarith [Nat.two_pow_pos k]

/-- A number that is at most `n` is rounded to one that is at most the float nearest to `n`. -/
theorem upTo_round {m n : ℕ} {e : ℤ} (full : 52 ≤ m.log2) (one : 0 ≤ (m.log2 : ℤ) + e)
    (below : (m : ℚ) * 2 ^ e ≤ n) :
    UpTo (nearestFloat n) (roundWithAccuracy .binary64 .positive m e .exact) := by
  obtain ⟨m', e', pos, shape, full', low, value⟩ := roundWithAccuracy_full full one
  refine ⟨m', e', pos, shape, full', low, ?_⟩
  obtain ⟨k, log⟩ : ∃ k, m.log2 = 52 + k := ⟨m.log2 - 52, by omega⟩
  rw [log, Nat.add_sub_cancel_left] at value
  rw [value]
  have within := log2_add_le (by rintro rfl; simp at full) below
  -- The last place of the rounded number is `j` places below that of the bound.
  obtain ⟨j, place⟩ : ∃ j : ℕ, ((n.log2 - 52 : ℕ) : ℤ) = e + k + j :=
    ⟨((n.log2 - 52 : ℕ) - (e + k)).toNat, by omega⟩
  obtain ⟨K, multiple⟩ : ∃ K, K = (2 * n + 2 ^ (n.log2 - 52)) / 2 ^ (n.log2 - 52 + 1) := ⟨_, rfl⟩
  have nearest : (nearestFloat n : ℚ) = (K * 2 ^ j : ℕ) * 2 ^ (e + k) := by
    rw [nearestFloat, ← multiple, ← zpow_shifted, ← place, zpow_natCast]
    push_cast
    rfl
  have rounded : (shiftedOut m k).roundedMantissa ≤ K * 2 ^ j := by
    rcases Nat.eq_zero_or_pos j with rfl | lower
    · rw [Nat.pow_zero, Nat.mul_one, multiple]
      exact rounded_le_of_same_place below (by omega)
    · exact rounded_le_of_lower_place below (by omega) nearest
  rw [nearest]
  gcongr

theorem implicit_append {m : ℕ} (full : m.log2 = 52) (pos : 0 < m) :
    (1#1 ++ BitVec.ofNat 52 m).toNat = m := by
  obtain ⟨low, high⟩ := (Nat.log2_eq_iff pos.ne').mp full
  rw [BitVec.toNat_append, ← Nat.shiftLeft_add_eq_or_of_lt (BitVec.isLt _), BitVec.toNat_ofNat]
  show 2 ^ 52 + m % 2 ^ 52 = m
  omega

theorem unpack_pack_full {m : ℕ} {e : ℤ} (pos : 0 < m) (full : m.log2 = 52) (low : -52 ≤ e)
    (high : e ≤ 971) :
    (Float.Model.pack (.finite .positive m e pos)).unpack = .finite .positive m e pos := by
  obtain ⟨b, biased⟩ : ∃ b : ℕ, e = (b : ℤ) - 1075 := ⟨(e + 1075).toNat, by omega⟩
  have stored : (BitVec.ofNat 11 b).toNat = b := by
    rw [BitVec.toNat_ofNat]
    omega
  have notAllOnes : BitVec.ofNat 11 b ≠ -1#11 := by
    intro same
    have := congrArg BitVec.toNat same
    rw [stored] at this
    have : b = 2047 := this
    omega
  have notZero : BitVec.ofNat 11 b ≠ 0#11 := by
    intro same
    have := congrArg BitVec.toNat same
    rw [stored] at this
    have : b = 0 := this
    omega
  have components : UnpackedFloat.pack .binary64 (.finite .positive m e pos) =
      packComponents .binary64 .positive (BitVec.ofNat 11 b) (BitVec.ofNat 52 m) := by
    have exponent : (e + Format.exponentBias .binary64 +
        Format.mantissaBitsWithoutImplicit .binary64).toNat = b := by
      show (e + 1023 + 52).toNat = b
      omega
    have small : ¬ 2 ^ Format.exponentBits .binary64 ≤ b + 1 := by
      show ¬ 2 ^ 11 ≤ b + 1
      omega
    have places : m.log2 + 1 = Format.mantissaBits .binary64 := by rw [full]; rfl
    simp only [UnpackedFloat.pack, exponent, if_neg small, if_pos places]
  show UnpackedFloat.unpack .binary64 (UnpackedFloat.pack .binary64 _) = _
  simp only [components, UnpackedFloat.unpack, unpackMantissa_packComponents,
    unpackExponent_packComponents, unpackSign_packComponents, if_neg notAllOnes, if_neg notZero,
    stored, implicit_append full pos]
  congr 1
  show (b : ℤ) - (1023 + 52) = e
  omega

theorem UpTo.stored {b : ℕ} {u : UnpackedFloat} (h : UpTo b u) (fits : b ≤ largest) :
    UpTo b (Float.Model.pack u).unpack := by
  obtain ⟨m, e, pos, rfl, full, low, below⟩ := h
  have within : (m.log2 : ℤ) + e ≤ largest.log2 :=
    log2_add_le pos.ne' (below.trans (by exact_mod_cast fits))
  have size : largest.log2 = 1023 := by decide +kernel
  exact ⟨m, e, pos, unpack_pack_full pos full low (by omega), full, low, below⟩

theorem UpTo.isInf {b : ℕ} {u : UnpackedFloat} (h : UpTo b u) : u.isInf = false := by
  obtain ⟨m, e, pos, rfl, -⟩ := h
  rfl

/-! ### Multiplication and decimal numbers -/

theorem UpTo.mul {a b n : ℕ} {u v : UnpackedFloat} (hu : UpTo a u) (hv : UpTo b v)
    (below : a * b ≤ n) : UpTo (nearestFloat n) (UnpackedFloat.mul .binary64 u v) := by
  obtain ⟨m, e, pos, rfl, full, low, le⟩ := hu
  obtain ⟨m', e', pos', rfl, full', low', le'⟩ := hv
  have product : 104 ≤ (m * m').log2 := by
    rw [Nat.le_log2 (by positivity)]
    calc 2 ^ 104 = 2 ^ 52 * 2 ^ 52 := by norm_num
      _ ≤ m * m' := Nat.mul_le_mul ((Nat.log2_eq_iff pos.ne').mp full).1
          ((Nat.log2_eq_iff pos'.ne').mp full').1
  refine upTo_round (by omega) (by omega) ?_
  calc ((m * m' : ℕ) : ℚ) * 2 ^ (e + e') = m * 2 ^ e * (m' * 2 ^ e') := by
        rw [zpow_add₀ (by norm_num)]
        push_cast
        ring
    _ ≤ a * b := by gcongr
    _ ≤ n := by exact_mod_cast below

theorem nearestFloat_of_lt {n : ℕ} (small : n < 2 ^ 53) : nearestFloat n = n := by
  have log : n.log2 - 52 = 0 := by
    rcases Nat.eq_zero_or_pos n with rfl | pos
    · rfl
    · have := (Nat.log2_lt pos.ne').mpr small
      omega
  rw [nearestFloat, log]
  omega

/-- Rounding at most doubles a number. -/
theorem nearestFloat_le (n : ℕ) : nearestFloat n ≤ 2 * n := by
  show (2 * n + 2 ^ (n.log2 - 52)) / 2 ^ (n.log2 - 52 + 1) * 2 ^ (n.log2 - 52) ≤ 2 * n
  have quotient := Nat.div_mul_le_self (2 * n + 2 ^ (n.log2 - 52)) (2 ^ (n.log2 - 52 + 1))
  rw [Nat.pow_succ, mul_comm _ 2, ← mul_assoc] at quotient
  rw [Nat.pow_succ, mul_comm _ 2]
  rcases Nat.eq_zero_or_pos (n.log2 - 52) with whole | places
  · rw [whole] at quotient ⊢
    omega
  · have pos : n ≠ 0 := by rintro rfl; cases places
    have last : 2 ^ (n.log2 - 52) ≤ n :=
      (Nat.pow_le_pow_right (by norm_num) (Nat.sub_le _ _)).trans (Nat.log2_self_le pos)
    nlinarith

theorem nearestFloat_word {n : ℕ} (word : n < 2 ^ 64) : nearestFloat n ≤ largest :=
  calc nearestFloat n ≤ 2 * n := nearestFloat_le n
    _ ≤ 2 ^ 65 := by omega
    _ ≤ largest := by decide +kernel

theorem upTo_toFloat {n : ℕ} (pos : 0 < n) (word : n < 2 ^ 64) :
    UpTo (nearestFloat n) n.toUInt64.toFloat.toModel.unpack := by
  obtain ⟨k, missing⟩ : ∃ k, k = 52 - n.log2 := ⟨_, rfl⟩
  have whole : n.toUInt64.toNat = n := Nat.mod_eq_of_lt word
  have shifted : (n * 2 ^ k).log2 = n.log2 + k := by
    rw [Nat.log2_eq_iff (by positivity), Nat.pow_add, Nat.add_right_comm, Nat.pow_add]
    exact ⟨Nat.mul_le_mul_right _ (Nat.log2_self_le pos.ne'),
      Nat.mul_lt_mul_of_pos_right Nat.lt_log2_self (Nat.two_pow_pos k)⟩
  have converted : UnpackedFloat.ofUInt64 .binary64 n.toUInt64 =
      roundWithAccuracy .binary64 .positive (n * 2 ^ k) (-k) .exact := by
    have target : (-Format.targetExponent .binary64 (totalExponent n 0)).toNat = k := by
      have least : Format.minExponent .binary64 = -1074 := rfl
      have width : (Format.mantissaBits .binary64 : ℤ) = 53 := rfl
      simp only [Format.targetExponent, totalExponent, least, width]
      omega
    have above : compare (n : ℤ) 0 = .gt := Int.compare_eq_gt.mpr (by exact_mod_cast pos)
    simp only [UnpackedFloat.ofUInt64, UnpackedFloat.ofNat, UnpackedFloat.ofInt, whole,
      UnpackedFloat.normalize, above, UnpackedFloat.round, Int.toNat_natCast, decreaseExponent,
      Int.zero_sub, target, Nat.shiftLeft_eq]
  have rounded : UpTo (nearestFloat n) (UnpackedFloat.ofUInt64 .binary64 n.toUInt64) := by
    rw [converted]
    refine upTo_round (by omega) (by omega) (le_of_eq ?_)
    rw [zpow_neg, zpow_natCast]
    push_cast
    exact mul_inv_cancel_right₀ (by positivity) _
  exact rounded.stored (nearestFloat_word word)

/-- The check of `UpTo`. -/
def upTo (bound : ℕ) : UnpackedFloat → Bool
  | .finite .positive m e _ =>
    m.log2 = 52 && -52 ≤ e && m * 2 ^ e.toNat ≤ bound * 2 ^ (-e).toNat
  | _ => false

theorem upTo_of_check {b : ℕ} {u : UnpackedFloat} (checked : upTo b u) : UpTo b u := by
  match u, checked with
  | .finite .positive m e pos, checked =>
    simp only [upTo, Bool.and_eq_true, decide_eq_true_eq] at checked
    obtain ⟨⟨full, low⟩, below⟩ := checked
    refine ⟨m, e, pos, rfl, full, low, ?_⟩
    have scaled : (2 : ℚ) ^ e * 2 ^ (-e).toNat = 2 ^ e.toNat := by
      rw [← zpow_natCast, ← zpow_natCast, ← zpow_add₀ (by norm_num)]
      congr 1
      omega
    have : (m : ℚ) * 2 ^ e * 2 ^ (-e).toNat ≤ b * 2 ^ (-e).toNat := by
      rw [mul_assoc, scaled]
      exact_mod_cast below
    exact le_of_mul_le_mul_right this (by positivity)

/-- These powers of ten are floats. -/
theorem upTo_tabled {e : ℕ} (h : e < Float.exactlyRepresentablePowersOfTen.size) :
    UpTo (10 ^ e) Float.exactlyRepresentablePowersOfTen[e].toModel.unpack := by
  have checked : ∀ e, (h : e < Float.exactlyRepresentablePowersOfTen.size) →
      upTo (10 ^ e) Float.exactlyRepresentablePowersOfTen[e].toModel.unpack := by decide +kernel
  exact upTo_of_check (checked e h)

/-- A decimal number that is at least one and at most `n`. -/
theorem upTo_ofScientific {digits e n : ℕ} (pos : 0 < digits) (below : digits * 10 ^ e ≤ n)
    (small : e ≤ 2048) (fits : nearestFloat n ≤ largest) :
    UpTo (nearestFloat n) (Float.ofScientific digits false e).toModel.unpack := by
  unfold Float.ofScientific
  split
  · next exact =>
    have converted := upTo_toFloat pos (exact.1.trans (by norm_num))
    rw [nearestFloat_of_lt exact.1] at converted
    exact (converted.mul (upTo_tabled (Nat.lt_succ_of_le exact.2)) below).stored fits
  · have positive : 0 < digits <<< 53 * 10 ^ e := by
      rw [Nat.shiftLeft_eq]
      positivity
    have places : 53 ≤ (digits <<< 53 * 10 ^ e).log2 := by
      rw [Nat.le_log2 positive.ne', Nat.shiftLeft_eq]
      nlinarith [Nat.one_le_pow e 10 (by norm_num)]
    have converted : UnpackedFloat.ofScientific .binary64 digits e =
        roundWithAccuracy .binary64 .positive (digits <<< 53 * 10 ^ e) (-53) .exact := by
      have range : ¬ (e : ℤ) > 2 ^ Format.exponentBits .binary64 := by
        show ¬ (e : ℤ) > 2 ^ 11
        omega
      have range' : ¬ (e : ℤ) < -(2 ^ Format.exponentBits .binary64 + digits.log2) := by
        show ¬ (e : ℤ) < -(2 ^ 11 + digits.log2)
        omega
      simp only [UnpackedFloat.ofScientific, dif_neg pos.ne', if_neg range, if_neg range',
        if_pos (Int.natCast_nonneg e), Int.toNat_natCast]
      rfl
    have rounded : UpTo (nearestFloat n) (UnpackedFloat.ofScientific .binary64 digits e) := by
      rw [converted]
      refine upTo_round (by omega) (by omega) ?_
      calc ((digits <<< 53 * 10 ^ e : ℕ) : ℚ) * 2 ^ (-53 : ℤ) = (digits * 10 ^ e : ℕ) := by
            have scale : (2 : ℚ) ^ (-53 : ℤ) = (2 ^ 53)⁻¹ := by norm_num
            rw [Nat.shiftLeft_eq, Nat.mul_right_comm, scale]
            push_cast
            exact mul_inv_cancel_right₀ (by positivity) _
        _ ≤ n := by exact_mod_cast below
    exact rounded.stored fits

theorem upTo_ofNat {n : ℕ} (pos : 0 < n) (word : n < 2 ^ 64) :
    UpTo (nearestFloat n) (Float.ofNat n).toModel.unpack :=
  upTo_ofScientific pos (by simp) (by norm_num) (nearestFloat_word word)

/-- What is one at least can be divided by. -/
theorem UpTo.beq_zero {b : ℕ} {x : Float} (h : UpTo b x.toModel.unpack) : (x == 0) = false := by
  obtain ⟨m, e, pos, shape, -⟩ := h
  have zero : (0 : Float).toModel.unpack = .zero .positive := rfl
  show (x.toModel.unpack.compare (0 : Float).toModel.unpack == some .eq) = false
  rw [shape, zero]
  rfl

theorem mul_not_isInf {a b n : ℕ} {x y : Float} (hx : UpTo a x.toModel.unpack)
    (hy : UpTo b y.toModel.unpack) (below : a * b ≤ n) (fits : nearestFloat n ≤ largest) :
    (x * y).isInf = false :=
  ((hx.mul hy below).stored fits).isInf

end FlowGauge.Decimal
