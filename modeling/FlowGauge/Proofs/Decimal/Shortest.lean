import FlowGauge.Decimal.Shortest
import Mathlib.Algebra.Order.Field.Power
import Mathlib.Data.Rat.Cast.Order
import Mathlib.Tactic.Linarith
import Mathlib.Tactic.NormNum
import Mathlib.Tactic.Positivity
import Mathlib.Tactic.Ring

/-! The size of the shortest decimal of a number: it is positive, it has at most nineteen digits or
is the power of ten after them, and it is above the number by half a binary place at most. -/
namespace FlowGauge.Decimal

/-- The number that digits and an exponent stand for. -/
def Digits.value (d : Digits) : ℚ :=
  d.digits * 10 ^ d.exponent

namespace Shortest

theorem pow_toNat {a : ℚ} (nonzero : a ≠ 0) (z : ℤ) : a ^ z.toNat = a ^ (-z).toNat * a ^ z := by
  rw [← zpow_natCast, ← zpow_natCast, ← zpow_add₀ nonzero]
  congr 1
  omega

/-- The parts of a ruler are a quarter of the last binary place and a grid step, in one unit. -/
theorem ruler_unit (q g : ℤ) : ∃ unit : ℚ, 0 < unit ∧
    ((ruler q g).scale : ℚ) = unit * 2 ^ (q - 2) ∧ ((ruler q g).step : ℚ) = unit * 10 ^ g := by
  refine ⟨2 ^ (2 - q).toNat * 10 ^ (-g).toNat, by positivity, ?_, ?_⟩
  · have power := pow_toNat (by norm_num : (2 : ℚ) ≠ 0) (q - 2)
    rw [neg_sub] at power
    simp only [ruler, Nat.pow_eq]
    push_cast
    rw [power]
    ring
  · simp only [ruler, Nat.pow_eq]
    push_cast
    rw [pow_toNat (by norm_num : (10 : ℚ) ≠ 0) g]
    ring

theorem scale_pos (q g : ℤ) : 0 < (ruler q g).scale :=
  Nat.mul_pos (Nat.pow_pos (by decide)) (Nat.pow_pos (by decide))

theorem step_pos (q g : ℤ) : 0 < (ruler q g).step :=
  Nat.mul_pos (Nat.pow_pos (by decide)) (Nat.pow_pos (by decide))

/-- A grid point with `a` quarters of the last binary place at most. -/
theorem place_le_iff {q g : ℤ} {a d : ℕ} :
    d * (ruler q g).step ≤ a * (ruler q g).scale ↔ (d : ℚ) * 10 ^ g ≤ a * 2 ^ (q - 2) := by
  obtain ⟨unit, pos, scale, step⟩ := ruler_unit q g
  rw [← mul_le_mul_iff_of_pos_left pos, ← @Nat.cast_le ℚ, Nat.cast_mul, Nat.cast_mul, scale,
    step, mul_left_comm unit, mul_left_comm unit]

theorem quarters (m : ℕ) (q : ℤ) : ((4 * m : ℕ) : ℚ) * 2 ^ (q - 2) = m * 2 ^ q := by
  rw [zpow_sub₀ (by norm_num)]
  push_cast
  ring

theorem below_le (m : ℕ) (q g : ℤ) : (below m q g : ℚ) * 10 ^ g ≤ m * 2 ^ q := by
  rw [← quarters, ← place_le_iff]
  exact Nat.div_mul_le_self _ _

theorem below_pos {m : ℕ} {q g : ℤ} (large : (10 : ℚ) ^ g ≤ m * 2 ^ q) : 0 < below m q g := by
  apply Nat.div_pos _ (step_pos q g)
  rw [← Nat.one_mul (ruler q g).step, place_le_iff, quarters]
  simpa using large

theorem digits_of_identifies {m : ℕ} {q g : ℤ} {d : ℕ} (pos : 0 < m) (hit : identifies m q g d) :
    0 < d ∧ (d : ℚ) * 10 ^ g ≤ (4 * m + 2) * 2 ^ (q - 2) := by
  have ends : lowest m q * (ruler q g).scale ≤ d * (ruler q g).step ∧
      d * (ruler q g).step ≤ highest m * (ruler q g).scale := by
    simp only [identifies] at hit
    split at hit
    · simpa using hit
    · simp only [Bool.and_eq_true, decide_eq_true_eq] at hit
      exact ⟨hit.1.le, hit.2.le⟩
  refine ⟨Nat.pos_of_ne_zero ?_, ?_⟩
  · rintro rfl
    have low : 0 < lowest m q := by
      unfold lowest
      split <;> omega
    have := Nat.mul_pos low (scale_pos q g)
    omega
  · have := place_le_iff.mp ends.2
    rw [highest] at this
    exact_mod_cast this

theorem identifies_of_onGrid {tie : Tie} {m : ℕ} {q g : ℤ} {d : Digits}
    (hit : onGrid tie m q g = some d) : d.exponent = g ∧ identifies m q g d.digits := by
  have either : nearer tie m q g (below m q g) = below m q g ∨
      nearer tie m q g (below m q g) = below m q g + 1 := by
    unfold nearer
    grind
  simp only [onGrid] at hit
  split at hit
  · next lower upper =>
    cases hit
    refine ⟨rfl, ?_⟩
    rcases either with same | next
    · rwa [same]
    · rwa [next]
  · next lower _ =>
    cases hit
    exact ⟨rfl, lower⟩
  · next _ upper =>
    cases hit
    exact ⟨rfl, upper⟩
  · cases hit

/-- With `k = i - 1073`, a step of the coarsest grid of the numbers from `2 ^ (k - 1)` to `2 ^ k` is
larger than they are, and one of the grid nineteen below it is not. -/
def enclosed (i : ℕ) : Bool :=
  let k : ℤ := i - 1073
  let c := k * 30103 / 100000 + 1
  let two := Nat.pow 2 k.toNat * Nat.pow 10 (-c).toNat
  let ten := Nat.pow 10 c.toNat * Nat.pow 2 (-k).toNat
  Nat.ble two ten && Nat.ble (2 * ten) (Nat.pow 10 19 * two)

theorem enclosed_all : (List.range 2098).all enclosed := by decide +kernel

theorem two_pow_enclosed {k : ℤ} (low : -1073 ≤ k) (high : k ≤ 1024) :
    let c := k * 30103 / 100000 + 1
    (2 : ℚ) ^ k ≤ 10 ^ c ∧ (10 : ℚ) ^ (c - 19) ≤ 2 ^ (k - 1) := by
  intro c
  obtain ⟨i, place⟩ : ∃ i : ℕ, k = i - 1073 := ⟨(k + 1073).toNat, by omega⟩
  have checked := List.all_eq_true.mp enclosed_all i (List.mem_range.mpr (by omega))
  simp only [enclosed, ← place, Bool.and_eq_true, Nat.ble_eq, Nat.pow_eq] at checked
  have unit : (0 : ℚ) < 2 ^ (-k).toNat * 10 ^ (-c).toNat := by positivity
  have two : ((2 ^ k.toNat * 10 ^ (-c).toNat : ℕ) : ℚ) =
      2 ^ (-k).toNat * 10 ^ (-c).toNat * 2 ^ k := by
    push_cast
    rw [pow_toNat (by norm_num : (2 : ℚ) ≠ 0) k]
    ring
  have ten : ((10 ^ c.toNat * 2 ^ (-k).toNat : ℕ) : ℚ) =
      2 ^ (-k).toNat * 10 ^ (-c).toNat * 10 ^ c := by
    push_cast
    rw [pow_toNat (by norm_num : (10 : ℚ) ≠ 0) c]
    ring
  have coarse : (2 : ℚ) ^ k ≤ 10 ^ c := by
    rw [← mul_le_mul_iff_of_pos_left unit, ← two, ← ten]
    exact_mod_cast checked.1
  have fine : 2 * (10 : ℚ) ^ c ≤ 10 ^ 19 * 2 ^ k := by
    rw [← mul_le_mul_iff_of_pos_left unit, mul_left_comm, ← ten, mul_left_comm, ← two]
    exact_mod_cast checked.2
  refine ⟨coarse, ?_⟩
  rw [zpow_sub₀ (by norm_num), zpow_sub₀ (by norm_num),
    div_le_div_iff₀ (by norm_num) (by norm_num)]
  norm_num at fine ⊢
  linarith

theorem mem_grids {m : ℕ} {q g : ℤ} : g ∈ grids m q → coarsest m q - 19 ≤ g := by
  simp only [grids, List.mem_map, List.mem_range]
  rintro ⟨i, small, rfl⟩
  omega

end Shortest

open Shortest

/-- The shortest decimal of a positive number from `2 ^ -1074` to `2 ^ 1024`. -/
theorem shortest_size (tie : Tie) {m : ℕ} {q : ℤ} (pos : 0 < m)
    (low : -1073 ≤ (m.log2 : ℤ) + 1 + q) (high : (m.log2 : ℤ) + 1 + q ≤ 1024) :
    0 < (shortest tie m q).digits ∧ (shortest tie m q).digits ≤ 10 ^ 19 ∧
      (shortest tie m q).value ≤ (4 * m + 2) * 2 ^ (q - 2) := by
  have two : (2 : ℚ) ≠ 0 := by norm_num
  have quarter : (0 : ℚ) < 2 ^ (q - 2) := by positivity
  have whole : (2 : ℚ) ^ q = 4 * 2 ^ (q - 2) := by
    rw [zpow_sub₀ two]
    ring
  obtain ⟨coarse, fine⟩ := two_pow_enclosed low high
  have least : (2 : ℚ) ^ ((m.log2 : ℤ) + 1 + q - 1) ≤ m * 2 ^ q := by
    rw [add_right_comm, add_sub_cancel_right, zpow_add₀ two, zpow_natCast]
    gcongr
    exact_mod_cast Nat.log2_self_le pos.ne'
  have most : ((4 : ℚ) * m + 2) * 2 ^ (q - 2) ≤ 2 ^ ((m.log2 : ℤ) + 1 + q) := by
    have next : (m : ℚ) + 1 ≤ 2 ^ (m.log2 + 1) := by exact_mod_cast Nat.lt_log2_self
    calc ((4 : ℚ) * m + 2) * 2 ^ (q - 2) ≤ (m + 1) * 2 ^ q := by
          rw [whole]
          linarith
      _ ≤ 2 ^ (m.log2 + 1) * 2 ^ q := by gcongr
      _ = 2 ^ ((m.log2 : ℤ) + 1 + q) := by
          rw [zpow_add₀ two]
          norm_cast
  have found : 0 < (shortest tie m q).digits ∧
      (shortest tie m q).value ≤ (4 * m + 2) * 2 ^ (q - 2) ∧
      coarsest m q - 19 ≤ (shortest tie m q).exponent := by
    unfold shortest
    cases search : (grids m q).findSome? (onGrid tie m q) with
    | some d =>
      obtain ⟨g, member, hit⟩ := List.exists_of_findSome?_eq_some search
      obtain ⟨rfl, identified⟩ := identifies_of_onGrid hit
      obtain ⟨positive, le⟩ := digits_of_identifies pos identified
      exact ⟨positive, le, mem_grids member⟩
    | none =>
      refine ⟨below_pos (fine.trans least), (below_le m q _).trans ?_, le_rfl⟩
      rw [whole]
      linarith
  obtain ⟨positive, le, exponent⟩ := found
  refine ⟨positive, ?_, le⟩
  have digits : ((shortest tie m q).digits : ℚ) * 10 ^ (coarsest m q - 19) ≤
      10 ^ 19 * 10 ^ (coarsest m q - 19) := by
    calc ((shortest tie m q).digits : ℚ) * 10 ^ (coarsest m q - 19)
        ≤ (shortest tie m q).digits * 10 ^ (shortest tie m q).exponent := by
          gcongr
          norm_num
      _ ≤ 10 ^ coarsest m q := (le.trans most).trans coarse
      _ = 10 ^ 19 * 10 ^ (coarsest m q - 19) := by
          rw [zpow_sub₀ (by norm_num)]
          norm_num
          ring
  exact_mod_cast le_of_mul_le_mul_right digits (by positivity)

end FlowGauge.Decimal
