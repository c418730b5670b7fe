import FlowGauge.Text.Blank
import Mathlib.Data.List.Basic
import Mathlib.Data.List.TakeWhile

/-! What is left of a text that is cleared of blanks at its ends.

`Clears` says what clearing leaves without a look at how it is done, and there is only one such
text. -/
namespace FlowGauge.Text

/-- `cs` is `t` between blanks, and `t` neither begins nor ends with one. -/
def Clears (cs t : List Char) : Prop :=
  ∃ before after, cs = before ++ t ++ after ∧ (∀ c ∈ before, isBlank c = true) ∧
    (∀ c ∈ after, isBlank c = true) ∧ (∀ c ∈ t.head?, isBlank c = false) ∧
    ∀ c ∈ t.getLast?, isBlank c = false

theorem head?_dropWhile_isBlank {cs : List Char} {c : Char}
    (h : c ∈ (cs.dropWhile isBlank).head?) : isBlank c = false := by
  have first := List.head?_dropWhile_not isBlank cs
  rw [Option.mem_def.mp h] at first
  exact first

/-- Where nothing blank comes first, nothing is dropped. -/
theorem dropWhile_append_of_head {before t : List Char} (blank : ∀ c ∈ before, isBlank c = true)
    (visible : ∀ c ∈ t.head?, isBlank c = false) : (before ++ t).dropWhile isBlank = t := by
  rw [List.dropWhile_append_of_pos blank]
  cases t with
  | nil => rfl
  | cons c t =>
    have first : isBlank c = false := visible c rfl
    rw [List.dropWhile_cons_of_neg (by simp [first])]

theorem clears_trimmed (cs : List Char) : Clears cs (trimmed cs) := by
  have front : cs.takeWhile isBlank ++ cs.dropWhile isBlank = cs := List.takeWhile_append_dropWhile
  let tail := ((cs.dropWhile isBlank).reverse.takeWhile isBlank).reverse
  have back : trimmed cs ++ tail = cs.dropWhile isBlank := by
    rw [trimmed, ← List.reverse_append, List.takeWhile_append_dropWhile, List.reverse_reverse]
  refine ⟨cs.takeWhile isBlank, tail, ?_, ?_, ?_, ?_, ?_⟩
  · rw [List.append_assoc, back, front]
  · intro c member
    exact List.mem_takeWhile_imp member
  · intro c member
    exact List.mem_takeWhile_imp (List.mem_reverse.mp member)
  · intro c first
    have front : c ∈ (cs.dropWhile isBlank).head? := by
      rw [← back]
      exact List.mem_head?_append_of_mem_head? first
    exact head?_dropWhile_isBlank front
  · intro c last
    rw [trimmed, List.getLast?_reverse] at last
    exact head?_dropWhile_isBlank last

theorem Clears.trimmed_eq {cs t : List Char} (h : Clears cs t) : trimmed cs = t := by
  obtain ⟨before, after, rfl, blankBefore, blankAfter, first, last⟩ := h
  cases t with
  | nil =>
    rw [trimmed_eq_nil_iff, List.all_eq_true]
    intro c member
    rw [List.append_nil] at member
    exact (List.mem_append.mp member).elim (blankBefore c) (blankAfter c)
  | cons d t =>
    have front : (before ++ (d :: t ++ after)).dropWhile isBlank = d :: t ++ after :=
      dropWhile_append_of_head blankBefore first
    rw [trimmed, List.append_assoc, front, List.reverse_append, dropWhile_append_of_head]
    · exact List.reverse_reverse _
    · intro c member
      exact blankAfter c (List.mem_reverse.mp member)
    · intro c member
      rw [List.head?_reverse] at member
      exact last c member

theorem trimmed_eq_iff {cs t : List Char} : trimmed cs = t ↔ Clears cs t := by
  constructor
  · rintro rfl
    exact clears_trimmed cs
  · exact Clears.trimmed_eq

end FlowGauge.Text
