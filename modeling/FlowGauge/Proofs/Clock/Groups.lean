import FlowGauge.Proofs.Clock.Monotone
import FlowGauge.Proofs.Entries
import Mathlib.Data.List.Induction
import Mathlib.Logic.Relation

/-! Clocks by their groups: a clock with its clones, the clones of these, and so on.

The groups are read off the steps that make clones, and so is what a clock shows: the moves made
through the clocks of its group, one after the other, starting from zero. That clocks share a time
in a store of times does not come into it; `clones_iff_kin` says that they do so exactly if they are
of one group. -/
namespace FlowGauge

namespace Tick

/-- The time in numbers: it starts again from zero at the end of the 64 bits. -/
def next (now : Nat) : Tick → Nat
  | advance seconds nanos => (now + (seconds * 1000000000 + nanos)) % UInt64.size
  | set target => target.toNat

theorem toNat_apply (t : Tick) (now : Instant) : (t.apply now).toNat = next now.toNat t := by
  cases t with
  | set target => rfl
  | advance seconds nanos =>
    rw [apply, next, UInt64.toNat_add, Nat.toUInt64_eq, UInt64.toNat_ofNat', UInt64.size,
      Nat.add_mod_mod]

/-- The time after some moves of a clock that starts at zero. -/
def total (ticks : List Tick) : Nat :=
  ticks.foldl next 0

theorem total_concat (ticks : List Tick) (t : Tick) :
    total (ticks ++ [t]) = next (total ticks) t := by
  rw [total, List.foldl_append, List.foldl_cons, List.foldl_nil, total]

end Tick

namespace Clocks

/-- How many clocks there are after a step. Of a clock that is not there, no clone is made. -/
def born (n : Nat) : Step → Nat
  | .new => n + 1
  | .clone clock => if clock < n then n + 1 else n
  | .move .. => n

/-- How many clocks there are after some steps. The first is there from the start. -/
def count (steps : List Step) : Nat :=
  steps.foldl born 1

/-- One of the steps makes `clock` as a clone of `origin`. -/
def Cloned (steps : List Step) (origin clock : Nat) : Prop :=
  ∃ part, part ++ [.clone origin] <+: steps ∧ origin < count part ∧ clock = count part

/-- Clocks of one group. -/
def Kin (steps : List Step) : Nat → Nat → Prop :=
  Relation.EqvGen (Cloned steps)

/-- The moves that are made, each with the clock it is made through, if there are `n` clocks at
first. Through a clock that is not there, none is made. -/
def moves (n : Nat) : List Step → List (Nat × Tick)
  | [] => []
  | .move clock tick :: rest =>
    if clock < n then (clock, tick) :: moves n rest else moves n rest
  | step :: rest => moves (born n step) rest

theorem count_concat (steps : List Step) (step : Step) :
    count (steps ++ [step]) = born (count steps) step := by
  rw [count, List.foldl_append, List.foldl_cons, List.foldl_nil, count]

theorem length_step (c : Clocks) (step : Step) :
    (c.step step).shows.length = born c.shows.length step := by
  cases step with
  | new => simp [Clocks.step, born]
  | clone clock =>
    simp only [Clocks.step, born]
    split
    · next k shown =>
      obtain ⟨bound, -⟩ := List.getElem?_eq_some_iff.mp shown
      simp [bound]
    · next absent =>
      rw [if_neg (Nat.not_lt.mpr (List.getElem?_eq_none_iff.mp absent))]
  | move clock tick =>
    simp only [Clocks.step, born]
    split <;> rfl

theorem length_after (steps : List Step) : (single.after steps).shows.length = count steps := by
  induction steps using List.reverseRecOn with
  | nil => rfl
  | append_singleton steps step ih =>
    rw [after_append, count_concat, ← ih]
    exact length_step _ step

theorem shows_of_lt {steps : List Step} {i : Nat} (bound : i < count steps) :
    ∃ k, (single.after steps).shows[i]? = some k :=
  ⟨_, List.getElem?_eq_getElem (by rwa [length_after])⟩

theorem lt_of_shows {steps : List Step} {i k : Nat}
    (h : (single.after steps).shows[i]? = some k) : i < count steps := by
  obtain ⟨bound, -⟩ := List.getElem?_eq_some_iff.mp h
  rwa [length_after] at bound

/-- A time is there before a step, or is a new one that starts at zero. -/
theorem times_of_step {c : Clocks} {step : Step} {k : Nat} {t : Instant}
    (h : (c.step step).times[k]? = some t) :
    (∃ now, c.times[k]? = some now) ∨ step = .new ∧ k = c.times.length ∧ t = 0 := by
  cases step with
  | new =>
    exact (getElem?_concat_eq_some_iff.mp h).imp (⟨t, ·⟩) (⟨rfl, ·⟩)
  | clone clock =>
    simp only [Clocks.step] at h
    split at h <;> exact .inl ⟨t, h⟩
  | move clock tick =>
    simp only [Clocks.step] at h
    split at h
    · obtain ⟨bound, -⟩ := List.getElem?_eq_some_iff.mp h
      rw [List.length_modify] at bound
      exact .inl ⟨_, List.getElem?_eq_getElem bound⟩
    · exact .inl ⟨t, h⟩

/-- Which time a clock shows after a step, it or the clock that it is cloned from showed before,
unless the clock is new and the time with it. -/
theorem shows_of_step {steps : List Step} {step : Step} {i k : Nat}
    (h : ((single.after steps).step step).shows[i]? = some k) :
    (∃ j, Kin (steps ++ [step]) j i ∧ (single.after steps).shows[j]? = some k) ∨
    step = .new ∧ i = count steps ∧ k = (single.after steps).times.length := by
  cases step with
  | new =>
    rcases getElem?_concat_eq_some_iff.mp h with shown | ⟨last, fresh⟩
    · exact .inl ⟨i, .refl i, shown⟩
    · exact .inr ⟨rfl, last.trans (length_after steps), fresh⟩
  | clone origin =>
    simp only [Clocks.step] at h
    split at h
    · next k' shared =>
      rcases getElem?_concat_eq_some_iff.mp h with shown | ⟨last, rfl⟩
      · exact .inl ⟨i, .refl i, shown⟩
      · have cloned : Cloned (steps ++ [.clone origin]) origin i :=
          ⟨steps, List.prefix_refl _, lt_of_shows shared, last.trans (length_after steps)⟩
        exact .inl ⟨origin, .rel _ _ cloned, shared⟩
    · exact .inl ⟨i, .refl i, h⟩
  | move clock tick =>
    simp only [Clocks.step] at h
    split at h <;> exact .inl ⟨i, .refl i, h⟩

theorem length_times_step (c : Clocks) (step : Step) :
    c.times.length ≤ (c.step step).times.length := by
  cases step with
  | new => simp [Clocks.step]
  | clone clock =>
    simp only [Clocks.step]
    split <;> exact Nat.le_refl _
  | move clock tick =>
    simp only [Clocks.step]
    split <;> simp

/-- Every clock shows a time that is there. -/
theorem time_of_shows {steps : List Step} {i k : Nat}
    (h : (single.after steps).shows[i]? = some k) :
    k < (single.after steps).times.length := by
  induction steps using List.reverseRecOn generalizing i with
  | nil =>
    obtain ⟨bound, rfl⟩ := List.getElem?_eq_some_iff.mp h
    simp [after, single]
  | append_singleton steps step ih =>
    rw [after_append] at h ⊢
    rcases shows_of_step h with ⟨j, -, shown⟩ | ⟨rfl, -, rfl⟩
    · exact Nat.lt_of_lt_of_le (ih shown) (length_times_step _ step)
    · show _ < ((single.after steps).step .new).times.length
      simp [Clocks.step]

/-- A clock that is there shows a time that is there. -/
theorem stored_of_lt {steps : List Step} {i : Nat} (there : i < count steps) :
    ∃ k now, (single.after steps).shows[i]? = some k ∧
      (single.after steps).times[k]? = some now := by
  obtain ⟨k, shown⟩ := shows_of_lt there
  exact ⟨k, _, shown, List.getElem?_eq_getElem (time_of_shows shown)⟩

/-! ### Groups share a time -/

theorem Kin.append {steps : List Step} {i j : Nat} (h : Kin steps i j) (more : List Step) :
    Kin (steps ++ more) i j := by
  refine Relation.EqvGen.mono ?_ i j h
  rintro origin clock ⟨part, isPart, there, made⟩
  exact ⟨part, isPart.trans (List.prefix_append steps more), there, made⟩

theorem kin_of_clones {steps : List Step} {i j : Nat} (h : (single.after steps).Clones i j) :
    Kin steps i j := by
  induction steps using List.reverseRecOn generalizing i j with
  | nil =>
    obtain ⟨k, shownI, shownJ⟩ := h
    have first {i : Nat} (shown : (single.after []).shows[i]? = some k) : i = 0 :=
      Nat.lt_one_iff.mp (lt_of_shows shown)
    rw [first shownI, first shownJ]
    exact .refl 0
  | append_singleton steps step ih =>
    rw [after_append] at h
    obtain ⟨k, shownI, shownJ⟩ := h
    -- A time that came with a new clock is shown by no clock from before.
    rcases shows_of_step shownI with ⟨i', kinI, oldI⟩ | ⟨-, rfl, fresh⟩
    · rcases shows_of_step shownJ with ⟨j', kinJ, oldJ⟩ | ⟨-, -, fresh⟩
      · have before : Kin (steps ++ [step]) i' j' := (ih ⟨k, oldI, oldJ⟩).append [step]
        exact (kinI.symm _ _).trans _ _ _ (before.trans _ _ _ kinJ)
      · exact absurd (time_of_shows oldI) (by omega)
    · rcases shows_of_step shownJ with ⟨j', -, oldJ⟩ | ⟨-, rfl, -⟩
      · exact absurd (time_of_shows oldJ) (by omega)
      · exact .refl _

theorem Cloned.clones {steps : List Step} {origin clock : Nat} (h : Cloned steps origin clock) :
    (single.after steps).Clones origin clock := by
  obtain ⟨part, ⟨rest, rfl⟩, there, rfl⟩ := h
  obtain ⟨k, shown⟩ := shows_of_lt there
  have made : (single.after (part ++ [.clone origin])).shows[count part]? = some k := by
    rw [after_append, ← length_after]
    show ((single.after part).step (.clone origin)).shows[_]? = some k
    simp [Clocks.step, shown]
  rw [after_append]
  refine ⟨k, shows_after ?_ rest, shows_after made rest⟩
  rw [after_append]
  exact shows_after shown _

theorem eq_or_clones_of_kin {steps : List Step} {i j : Nat} (h : Kin steps i j) :
    i = j ∨ (single.after steps).Clones i j := by
  induction h with
  | rel i j cloned => exact .inr cloned.clones
  | refl i => exact .inl rfl
  | symm i j _ ih => exact ih.imp Eq.symm fun ⟨k, shownI, shownJ⟩ => ⟨k, shownJ, shownI⟩
  | trans i j l _ _ ih₁ ih₂ =>
    rcases ih₁ with rfl | ⟨k, shownI, shownJ⟩
    · exact ih₂
    · rcases ih₂ with rfl | ⟨k', shownJ', shownL⟩
      · exact .inr ⟨k, shownI, shownJ⟩
      · obtain rfl : k = k' := Option.some.inj (shownJ.symm.trans shownJ')
        exact .inr ⟨k, shownI, shownL⟩

/-- Clocks show the same one of the times exactly if they are of one group. -/
theorem clones_iff_kin {steps : List Step} {i j : Nat} (there : i < count steps) :
    (single.after steps).Clones i j ↔ Kin steps i j := by
  constructor
  · exact kin_of_clones
  · intro kin
    rcases eq_or_clones_of_kin kin with rfl | clones
    · obtain ⟨k, shown⟩ := shows_of_lt there
      exact ⟨k, shown, shown⟩
    · exact clones

instance (c : Clocks) (i j : Nat) : Decidable (c.Clones i j) :=
  decidable_of_iff ((c.shows[i]?).isSome = true ∧ c.shows[j]? = c.shows[i]?) <| by
    rw [Option.isSome_iff_exists]
    constructor
    · rintro ⟨⟨k, shown⟩, same⟩
      exact ⟨k, shown, same.trans shown⟩
    · rintro ⟨k, shownI, shownJ⟩
      exact ⟨⟨k, shownI⟩, shownJ.trans shownI.symm⟩

instance (steps : List Step) (i j : Nat) : Decidable (Kin steps i j) :=
  decidable_of_iff (i = j ∨ (single.after steps).Clones i j) <| by
    constructor
    · rintro (rfl | clones)
      · exact .refl i
      · exact kin_of_clones clones
    · exact eq_or_clones_of_kin

/-- The moves that are made through the clocks of one group, in their order. -/
def ticksOf (steps : List Step) (i : Nat) : List Tick :=
  ((moves 1 steps).filter fun m => Kin steps i m.1).map Prod.snd

/-! ### Moves of a time -/

theorem moves_append (n : Nat) (a b : List Step) :
    moves n (a ++ b) = moves n a ++ moves (a.foldl born n) b := by
  induction a generalizing n with
  | nil => rfl
  | cons step rest ih =>
    cases step with
    | new | clone => exact ih _
    | move clock tick =>
      simp only [List.cons_append, moves, List.foldl_cons, born]
      split
      · rw [ih, List.cons_append]
      · exact ih n

theorem le_born (n : Nat) (step : Step) : n ≤ born n step := by
  cases step with
  | new => exact Nat.le_succ n
  | clone clock =>
    simp only [born]
    split <;> omega
  | move clock tick => exact Nat.le_refl n

theorem mem_moves_lt {steps : List Step} {m : Nat × Tick} (member : m ∈ moves 1 steps) :
    m.1 < count steps := by
  induction steps using List.reverseRecOn with
  | nil => cases member
  | append_singleton steps step ih =>
    have grown := le_born (count steps) step
    rw [count_concat]
    rw [moves_append] at member
    rcases List.mem_append.mp member with earlier | now
    · exact Nat.lt_of_lt_of_le (ih earlier) grown
    · cases step with
      | new | clone => cases now
      | move clock tick =>
        change m ∈ moves (count steps) [.move clock tick] at now
        simp only [moves] at now
        split at now
        · next there =>
          rw [List.mem_singleton.mp now]
          exact there
        · cases now

/-- The moves that are made through the clocks that show one of the times. -/
def ticksAt (steps : List Step) (k : Nat) : List Tick :=
  ((moves 1 steps).filter fun m => (single.after steps).shows[m.1]? = some k).map Prod.snd

theorem shows_after_step {steps : List Step} {i : Nat} (there : i < count steps) (step : Step) :
    (single.after (steps ++ [step])).shows[i]? = (single.after steps).shows[i]? := by
  obtain ⟨k, shown⟩ := shows_of_lt there
  rw [after_append, shown]
  exact shows_after shown [step]

theorem ticksAt_concat (steps : List Step) (step : Step) (k : Nat) :
    ticksAt (steps ++ [step]) k =
      ticksAt steps k ++ (step.tick? (single.after steps) k).toList := by
  -- The moves so far were made through clocks that were there, and these show what they showed.
  have kept : ∀ m ∈ moves 1 steps,
      decide ((single.after (steps ++ [step])).shows[m.1]? = some k) =
        decide ((single.after steps).shows[m.1]? = some k) := by
    intro m member
    rw [shows_after_step (mem_moves_lt member)]
  rw [ticksAt, moves_append, List.filter_append, List.map_append, List.filter_congr kept, ticksAt]
  congr 1
  show ((moves (count steps) [step]).filter _).map Prod.snd = _
  cases step with
  | new | clone => rfl
  | move clock tick =>
    simp only [moves, Step.tick?]
    split
    · next there =>
      rw [List.filter_singleton, shows_after_step there]
      by_cases shown : (single.after steps).shows[clock]? = some k <;> simp [shown]
    · next absent =>
      have none : (single.after steps).shows[clock]? ≠ some k := fun shown =>
        absent (lt_of_shows shown)
      rw [if_neg none]
      rfl

theorem ticksAt_fresh (steps : List Step) :
    ticksAt steps (single.after steps).times.length = [] := by
  have unshown : ∀ m ∈ moves 1 steps,
      ¬decide ((single.after steps).shows[m.1]? = some (single.after steps).times.length) := by
    intro m _ shown
    exact absurd (time_of_shows (of_decide_eq_true shown)) (Nat.lt_irrefl _)
  rw [ticksAt, List.filter_eq_nil_iff.mpr unshown, List.map_nil]

/-- The store keeps in each time what the moves of its clocks come to. -/
theorem toNat_time {steps : List Step} {k : Nat} {t : Instant}
    (h : (single.after steps).times[k]? = some t) : t.toNat = Tick.total (ticksAt steps k) := by
  induction steps using List.reverseRecOn generalizing k t with
  | nil =>
    obtain ⟨bound, rfl⟩ := List.getElem?_eq_some_iff.mp h
    obtain rfl : k = 0 := Nat.lt_one_iff.mp bound
    rfl
  | append_singleton steps step ih =>
    rw [after_append] at h
    rw [ticksAt_concat]
    -- A time from before takes the tick of the step, if any; for a new one there was no move yet.
    rcases times_of_step h with ⟨now, before⟩ | ⟨rfl, rfl, rfl⟩
    · have moved : ((single.after steps).after [step]).times[k]? = _ := times_step before step
      rw [moved] at h
      cases ticks : step.tick? (single.after steps) k with
      | none =>
        simp only [ticks, Option.map_none, Option.getD_none, Option.some.injEq] at h
        rw [← h, ih before, Option.toList_none, List.append_nil]
      | some tick =>
        simp only [ticks, Option.map_some, Option.getD_some, Option.some.injEq] at h
        rw [← h, Tick.toNat_apply, ih before, Option.toList_some, Tick.total_concat]
    · rw [ticksAt_fresh]
      rfl

theorem ticksAt_eq_ticksOf {steps : List Step} {i k : Nat}
    (shown : (single.after steps).shows[i]? = some k) : ticksAt steps k = ticksOf steps i := by
  have same : ∀ m ∈ moves 1 steps, decide ((single.after steps).shows[m.1]? = some k) =
      decide (Kin steps i m.1) := by
    intro m member
    rw [decide_eq_decide, ← clones_iff_kin (lt_of_shows shown)]
    constructor
    · intro shown'
      exact ⟨k, shown, shown'⟩
    · rintro ⟨k', first, second⟩
      obtain rfl : k = k' := Option.some.inj (shown.symm.trans first)
      exact second
  rw [ticksAt, List.filter_congr same, ticksOf]

theorem filterMap_getElem?_range {α : Type} (xs : List α) :
    (List.range xs.length).filterMap (xs[·]?) = xs := by
  induction xs with
  | nil => rfl
  | cons x xs ih =>
    rw [List.length_cons, List.range_succ_eq_map, List.filterMap_cons, List.filterMap_map]
    exact congrArg (x :: ·) ih

/-- All clocks are read in the order in which they were made. -/
theorem readings_eq (c : Clocks) :
    c.readings = (List.range c.shows.length).filterMap c.read? := by
  calc c.readings
      = ((List.range c.shows.length).filterMap (c.shows[·]?)).filterMap (c.times[·]?) := by
        rw [filterMap_getElem?_range]
        rfl
    _ = (List.range c.shows.length).filterMap c.read? := List.filterMap_filterMap

/-- A clock shows what the moves of its group come to. -/
theorem toNat_read {steps : List Step} {i : Nat} (there : i < count steps) :
    ∃ now, (single.after steps).read? i = some now ∧
      now.toNat = Tick.total (ticksOf steps i) := by
  obtain ⟨k, now, shown, time⟩ := stored_of_lt there
  refine ⟨now, read?_eq_some_iff.mpr ⟨k, shown, time⟩, ?_⟩
  rw [toNat_time time, ticksAt_eq_ticksOf shown]

/-- A step that moves no clock of its group leaves a reading as it is. -/
theorem read_frame {steps : List Step} {i : Nat} (there : i < count steps) {step : Step}
    (elsewhere : ∀ clock tick, step = .move clock tick → ¬Kin steps i clock) :
    (single.after (steps ++ [step])).read? i = (single.after steps).read? i := by
  obtain ⟨k, now, shown, time⟩ := stored_of_lt there
  have untouched : step.tick? (single.after steps) k = none := by
    cases step with
    | new | clone => rfl
    | move clock tick =>
      refine if_neg fun shown' => elsewhere clock tick rfl ?_
      exact (clones_iff_kin there).mp ⟨k, shown, shown'⟩
  have still := times_step time step
  rw [untouched] at still
  rw [after_append, read?_eq_some_iff.mpr ⟨k, shown, time⟩]
  exact read?_eq_some_iff.mpr ⟨k, shows_step shown step, still⟩

/-- A clone shows what its group shows. -/
theorem read_clone {steps : List Step} {i : Nat} (there : i < count steps) :
    (single.after (steps ++ [.clone i])).read? (count steps) = (single.after steps).read? i := by
  obtain ⟨k, shown⟩ := shows_of_lt there
  rw [after_append, ← length_after]
  show ((single.after steps).step (.clone i)).read? _ = _
  simp [read?, Clocks.step, shown]

/-- A new clock starts at zero. -/
theorem read_new (steps : List Step) :
    (single.after (steps ++ [.new])).read? (count steps) = some 0 := by
  rw [after_append, ← length_after]
  show ((single.after steps).step .new).read? _ = _
  simp [read?, Clocks.step]

/-- **Clones share their time, and other clocks have their own.** Whatever steps there are on any
number of clocks: each clock that is there shows what the moves through the clocks of its group come
to, one after the other and from zero, and a clock that is not there shows nothing. All are read in
the order in which they were made. No step but a move through its group makes a difference to a
clock. A clone starts with what its group shows and a new clock at zero. A clock that is set shows
the target, also where this is complained of, which is exactly if the target is earlier than what
the clock showed. -/
theorem groups_share_time (steps : List Step) :
    (∀ i, ((single.after steps).read? i).map UInt64.toNat =
      if i < count steps then some (Tick.total (ticksOf steps i)) else none) ∧
    (single.after steps).readings =
      (List.range (count steps)).filterMap (single.after steps).read? ∧
    (∀ i step, i < count steps →
      (∀ clock tick, step = .move clock tick → ¬Kin steps i clock) →
      (single.after (steps ++ [step])).read? i = (single.after steps).read? i) ∧
    (∀ i, i < count steps →
      (single.after (steps ++ [.clone i])).read? (count steps) = (single.after steps).read? i) ∧
    (single.after (steps ++ [.new])).read? (count steps) = some 0 ∧
    (∀ i target, i < count steps →
      (single.after (steps ++ [.move i (.set target)])).read? i = some target ∧
      ((single.after steps).backwards (.move i (.set target)) = true ↔
        ∃ now, (single.after steps).read? i = some now ∧ target < now)) := by
  refine ⟨?_, ?_, fun i step there => read_frame there, fun i => read_clone, read_new steps, ?_⟩
  · intro i
    split
    · next there =>
      obtain ⟨now, shown, value⟩ := toNat_read there
      rw [shown, Option.map_some, value]
    · next absent =>
      have none : (single.after steps).shows[i]? = none := by
        rw [List.getElem?_eq_none_iff, length_after]
        exact Nat.not_lt.mp absent
      rw [read?, none]
      rfl
  · rw [readings_eq, length_after]
  · intro i target there
    obtain ⟨now, shown, -⟩ := toNat_read there
    constructor
    · rw [after_append]
      exact read?_move shown (.set target)
    · simp [backwards, shown, Tick.backwards]

/-- A clone of a clone is moved with the first clock, another clock is not. -/
example :
    let steps : List Step := [.clone 0, .move 0 (.advance 5 0), .new, .clone 1,
      .move 2 (.set 7), .move 3 (.set 4)]
    ticksOf steps 0 = [.advance 5 0, .set 4] ∧ ticksOf steps 2 = [.set 7] ∧
      (single.after steps).readings = [4, 4, 7, 4] := by
  decide

end Clocks

end FlowGauge
