import FlowGauge.Text.Natural
import Mathlib.Data.List.Induction
import Mathlib.Tactic.Ring

namespace FlowGauge.Text

/-- Decimal digits, at least one, and the number they spell. -/
inductive Spells : List Char → Nat → Prop
  | digit {c : Char} (decimal : isDecimalDigit c = true) : Spells [c] (c.toNat - '0'.toNat)
  | next {cs : List Char} {n : Nat} {c : Char} (front : Spells cs n)
      (decimal : isDecimalDigit c = true) : Spells (cs ++ [c]) (n * 10 + (c.toNat - '0'.toNat))

/-- Digits behind a plus sign or without one. -/
def Numeral (cs : List Char) (n : Nat) : Prop :=
  Spells cs n ∨ ∃ digits, cs = '+' :: digits ∧ Spells digits n

theorem decimalValue_append (cs ds : List Char) :
    decimalValue (cs ++ ds) = ds.foldl (fun n c => n * 10 + digit c) (decimalValue cs) :=
  List.foldl_append

theorem decimalValue_concat (cs : List Char) (c : Char) :
    decimalValue (cs ++ [c]) = decimalValue cs * 10 + (c.toNat - '0'.toNat) :=
  decimalValue_append cs [c]

theorem spells_iff {cs : List Char} {n : Nat} :
    Spells cs n ↔ cs ≠ [] ∧ cs.all isDecimalDigit = true ∧ decimalValue cs = n := by
  constructor
  · intro spelled
    induction spelled with
    | digit decimal => simp [decimal, decimalValue, digit]
    | next front decimal ih =>
      obtain ⟨-, digits, value⟩ := ih
      refine ⟨by simp, by simp [digits, decimal], ?_⟩
      rw [decimalValue_concat, value]
  · rintro ⟨nonempty, digits, rfl⟩
    induction cs using List.reverseRecOn with
    | nil => exact absurd rfl nonempty
    | append_singleton cs c ih =>
      rw [List.all_append, Bool.and_eq_true] at digits
      have last : isDecimalDigit c = true := by simpa using digits.2
      rw [decimalValue_concat]
      cases cs with
      | nil => simpa [decimalValue, digit] using Spells.digit last
      | cons d cs => exact .next (ih (by simp) digits.1) last

theorem Spells.head {cs : List Char} {n : Nat} (h : Spells cs n) {c : Char}
    (first : cs.head? = some c) : isDecimalDigit c = true := by
  obtain ⟨-, digits, -⟩ := spells_iff.mp h
  exact List.all_eq_true.mp digits c (List.mem_of_mem_head? first)

theorem natural?_eq_some_iff {cs : List Char} {n : Nat} : natural? cs = some n ↔ Numeral cs n := by
  have digits : natural? cs = some n ↔ Spells (unsigned cs) n := by
    rw [natural?, spells_iff, Option.ite_none_right_eq_some, Option.some.injEq, and_assoc]
  rw [digits]
  constructor
  · intro spelled
    unfold unsigned at spelled
    split at spelled
    · exact .inr ⟨_, rfl, spelled⟩
    · exact .inl spelled
  · rintro (spelled | ⟨digits, rfl, spelled⟩)
    · -- A digit is no plus sign, so nothing is taken from the front.
      unfold unsigned
      split
      · exact absurd (spelled.head rfl) (by decide)
      · exact spelled
    · exact spelled

theorem naturalUpTo?_eq_some_iff {max n : Nat} {cs : List Char} :
    naturalUpTo? max cs = some n ↔ n ≤ max ∧ Numeral cs n := by
  rw [naturalUpTo?, Option.filter_eq_some_iff, natural?_eq_some_iff, decide_eq_true_eq, and_comm]

theorem isDecimalDigit_of_mem_toDigits {n : Nat} {c : Char} (member : c ∈ Nat.toDigits 10 n) :
    isDecimalDigit c = true := by
  have digit := Nat.isDigit_of_mem_toDigits (by decide) (by decide) member
  simpa [isDecimalDigit, Char.isDigit, Char.le_def] using digit

theorem decimalValue_toDigits (n : Nat) : decimalValue (Nat.toDigits 10 n) = n := by
  have value := Nat.ofDigitChars_ten_toDigits (n := n)
  simpa [Nat.ofDigitChars, decimalValue, digit, Nat.mul_comm] using value

theorem isDecimalDigit_zeros (n : Nat) : ∀ c ∈ List.replicate n '0', isDecimalDigit c = true := by
  intro c member
  rw [(List.mem_replicate.mp member).2]
  rfl

theorem decimalValue_zeros (n : Nat) (ds : List Char) :
    decimalValue (List.replicate n '0' ++ ds) = decimalValue ds := by
  induction n with
  | zero => rfl
  | succ n ih => exact ih

theorem digit_le {c : Char} (h : isDecimalDigit c = true) : digit c ≤ 9 := by
  simp only [isDecimalDigit, Bool.and_eq_true, decide_eq_true_eq] at h
  have nine : c.toNat ≤ 57 := Char.le_def.mp h.2
  unfold digit
  omega

theorem foldl_digits_lt (n : Nat) {cs : List Char} (all : ∀ c ∈ cs, isDecimalDigit c = true) :
    cs.foldl (fun n c => n * 10 + digit c) n < (n + 1) * 10 ^ cs.length := by
  induction cs generalizing n with
  | nil => simp
  | cons c cs ih =>
    have last := digit_le (all c List.mem_cons_self)
    calc cs.foldl (fun n c => n * 10 + digit c) (n * 10 + digit c)
        < (n * 10 + digit c + 1) * 10 ^ cs.length :=
          ih _ fun c member => all c (List.mem_cons_of_mem _ member)
      _ ≤ (n + 1) * 10 * 10 ^ cs.length := Nat.mul_le_mul_right _ (by omega)
      _ = (n + 1) * 10 ^ (c :: cs).length := by rw [List.length_cons, Nat.pow_succ']; ring

theorem decimalValue_lt {ds : List Char} (all : ∀ c ∈ ds, isDecimalDigit c = true) :
    decimalValue ds < 10 ^ ds.length := by
  simpa [decimalValue] using foldl_digits_lt 0 all

end FlowGauge.Text
