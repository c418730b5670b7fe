import FlowGauge.Clock
import Mathlib.Data.List.Infix

/-! When clocks that are moved by hand never go back.

A clock promises as much, and does not keep it: a target below the time shown is complained of only
after it has taken effect, and a sum beyond 64 bits starts again from zero without any complaint.
Nothing else makes a reading smaller than an earlier one of the same clock or a clone of it. -/
namespace FlowGauge

namespace Tick

/-- Whether a tick takes a clock that shows `now` back. -/
def Reverts (t : Tick) (now : Instant) : Prop :=
  match t with
  | advance seconds nanos =>
    UInt64.size ≤ now.toNat + (seconds * 1000000000 + nanos) % UInt64.size
  | set target => target < now

theorem apply_lt_iff (t : Tick) (now : Instant) : t.apply now < now ↔ t.Reverts now := by
  cases t with
  | set target => exact Iff.rfl
  | advance seconds nanos =>
    have word := now.toNat_lt
    rw [apply, Reverts, UInt64.size, UInt64.lt_iff_toNat_lt, UInt64.toNat_add, Nat.toUInt64_eq,
      UInt64.toNat_ofNat']
    omega

theorem le_apply_iff (t : Tick) (now : Instant) : now ≤ t.apply now ↔ ¬t.Reverts now := by
  rw [← apply_lt_iff, UInt64.not_lt]

end Tick

namespace Clocks

/-- The clocks after some steps. -/
def after (c : Clocks) (steps : List Step) : Clocks :=
  steps.foldl step c

theorem after_append (c : Clocks) (a b : List Step) : c.after (a ++ b) = (c.after a).after b :=
  List.foldl_append

/-- Two clocks that show the same one of the times, as a clock and its clones do. -/
def Clones (c : Clocks) (i j : Nat) : Prop :=
  ∃ k, c.shows[i]? = some k ∧ c.shows[j]? = some k

/-- What a step does to one of the times. -/
def Step.tick? (c : Clocks) (k : Nat) : Step → Option Tick
  | .move clock tick => if c.shows[clock]? = some k then some tick else none
  | _ => none

/-- A clock that is there goes on to show the same one of the times. -/
theorem shows_step {c : Clocks} {i k : Nat} (h : c.shows[i]? = some k) (step : Step) :
    (c.step step).shows[i]? = some k := by
  obtain ⟨bound, -⟩ := List.getElem?_eq_some_iff.mp h
  cases step with
  | new => simp [Clocks.step, List.getElem?_append_left bound, h]
  | clone clock =>
    simp only [Clocks.step]
    split
    · simp [List.getElem?_append_left bound, h]
    · exact h
  | move clock tick =>
    simp only [Clocks.step]
    split <;> exact h

theorem times_step {c : Clocks} {k : Nat} {now : Instant} (h : c.times[k]? = some now)
    (step : Step) :
    (c.step step).times[k]? = some (((step.tick? c k).map (Tick.apply · now)).getD now) := by
  obtain ⟨bound, -⟩ := List.getElem?_eq_some_iff.mp h
  cases step with
  | new => simp [Clocks.step, Step.tick?, List.getElem?_append_left bound, h]
  | clone clock =>
    simp only [Clocks.step, Step.tick?]
    split <;> exact h
  | move clock tick =>
    simp only [Clocks.step, Step.tick?]
    cases shown : c.shows[clock]? with
    | none => exact h
    | some i =>
      by_cases here : i = k <;> simp [here, h]

theorem shows_after {c : Clocks} {i k : Nat} (h : c.shows[i]? = some k) (steps : List Step) :
    (c.after steps).shows[i]? = some k := by
  induction steps generalizing c with
  | nil => exact h
  | cons step rest ih => exact ih (shows_step h step)

/-- What a clock shows, its clones show. -/
theorem Clones.shows {steps : List Step} {origin i k : Nat} {c : Clocks}
    (h : (c.after steps).Clones origin i) {part : List Step} (isPart : part <+: steps)
    (shown : (c.after part).shows[i]? = some k) : (c.after steps).shows[origin]? = some k := by
  obtain ⟨rest, rfl⟩ := isPart
  obtain ⟨k', first, second⟩ := h
  rw [after_append, shows_after shown rest] at second
  rw [first, second]

/-- If no step reverts one of the times, it does not fall. -/
theorem times_after_le {c : Clocks} {k : Nat} {now : Instant} (h : c.times[k]? = some now)
    {steps : List Step}
    (forward : ∀ part step, part ++ [step] <+: steps → ∀ tick ∈ step.tick? (c.after part) k,
      ∀ t ∈ (c.after part).times[k]?, ¬tick.Reverts t) :
    ∃ later, (c.after steps).times[k]? = some later ∧ now ≤ later := by
  induction steps generalizing c now with
  | nil => exact ⟨now, h, UInt64.le_refl now⟩
  | cons step rest ih =>
    have next := times_step h step
    have first : now ≤ ((step.tick? c k).map (Tick.apply · now)).getD now := by
      cases ticks : step.tick? c k with
      | none => exact UInt64.le_refl now
      | some tick =>
        exact (tick.le_apply_iff now).mpr (forward [] step (by simp) tick ticks now h)
    obtain ⟨later, found, rises⟩ := ih next fun part step' isPart =>
      forward (step :: part) step' (by simpa using isPart)
    exact ⟨later, found, UInt64.le_trans first rises⟩

theorem read?_eq_some_iff {c : Clocks} {i : Nat} {now : Instant} :
    c.read? i = some now ↔ ∃ k, c.shows[i]? = some k ∧ c.times[k]? = some now :=
  Option.bind_eq_some_iff

/-- A move shows on the clock that was moved. -/
theorem read?_move {c : Clocks} {i : Nat} {now : Instant} (h : c.read? i = some now) (tick : Tick) :
    (c.step (.move i tick)).read? i = some (tick.apply now) := by
  obtain ⟨k, shown, time⟩ := read?_eq_some_iff.mp h
  have next := times_step time (.move i tick)
  rw [Step.tick?, if_pos shown] at next
  exact read?_eq_some_iff.mpr ⟨k, shows_step shown _, next⟩

/-- **When a clock never falls.** Take a clock, with all its clones, and any steps on any clocks. No
reading of one of them is ever smaller than an earlier one, of the same or of another, if and only
if no move of one of them sets it below the time it shows or carries it beyond 64 bits. Whether such
a move is complained of makes no difference. -/
theorem readings_never_fall_iff (steps : List Step) (clock : Nat) :
    let final := single.after steps
    (∀ early late, early <+: late → late <+: steps →
      ∀ i j, final.Clones clock i → final.Clones clock j →
      ∀ x ∈ (single.after early).read? i, ∀ y ∈ (single.after late).read? j, x ≤ y) ↔
    ∀ part i tick, part ++ [.move i tick] <+: steps → final.Clones clock i →
      ∀ now ∈ (single.after part).read? i, ¬tick.Reverts now := by
  intro final
  constructor
  · intro rises part i tick isPart clones now shown
    have moved : (single.after (part ++ [.move i tick])).read? i = some (tick.apply now) := by
      rw [after_append]
      exact read?_move shown tick
    exact (tick.le_apply_iff now).mp
      (rises part _ (List.prefix_append part _) isPart i i clones clones now shown _ moved)
  · rintro forward early late ⟨more, rfl⟩ ⟨rest, rfl⟩ i j ofI ofJ x before y now
    -- Both clocks show the time of `clock`, so it is enough that this one time does not fall.
    obtain ⟨k, shown, time⟩ := read?_eq_some_iff.mp before
    obtain ⟨k', shown', time'⟩ := read?_eq_some_iff.mp now
    have origin := ofI.shows ⟨more ++ rest, by simp⟩ shown
    have origin' := ofJ.shows ⟨rest, rfl⟩ shown'
    obtain rfl : k = k' := Option.some.inj (origin.symm.trans origin')
    have unreverted : ∀ part step, part ++ [step] <+: more →
        ∀ tick ∈ step.tick? ((single.after early).after part) k,
        ∀ t ∈ ((single.after early).after part).times[k]?, ¬tick.Reverts t := by
      rintro part step ⟨tail, rfl⟩ tick ticks t current
      cases step with
      | new | clone => cases ticks
      | move clock' _ =>
        obtain ⟨moved, ⟨⟩⟩ := Option.ite_none_right_eq_some.mp ticks
        rw [← after_append] at moved current
        have whole : early ++ (part ++ [.move clock' tick] ++ tail) ++ rest =
            early ++ part ++ (.move clock' tick :: (tail ++ rest)) := by simp
        have still := shows_after moved (.move clock' tick :: (tail ++ rest))
        rw [← after_append, ← whole] at still
        exact forward (early ++ part) clock' tick ⟨tail ++ rest, by simp⟩ ⟨k, origin, still⟩ t
          (read?_eq_some_iff.mpr ⟨k, moved, current⟩)
    obtain ⟨last, found, rises⟩ := times_after_le time unreverted
    rw [after_append, found] at time'
    exact Option.some.inj time' ▸ rises

/-- A clock at five seconds shows two after its clone is set to two, whatever is complained of. -/
theorem reading_falls :
    ¬∀ (steps : List Step) (early late : List Step), early <+: late → late <+: steps →
      ∀ i j, (single.after steps).Clones i j →
      ∀ x ∈ (single.after early).read? i, ∀ y ∈ (single.after late).read? j, x ≤ y := by
  intro rises
  have setBack : (5000000000 : Instant) ≤ 2000000000 :=
    rises [.clone 0, .move 0 (.advance 5 0), .move 1 (.set 2000000000)]
      [.clone 0, .move 0 (.advance 5 0)] _ (by decide) (List.prefix_refl _) 0 1 ⟨0, by decide⟩ _
      (by decide) _ (by decide)
  exact absurd setBack (by decide)

end Clocks

end FlowGauge
