import FlowGauge.Proofs.Stage.Blocks
import FlowGauge.Stage.Filter
import FlowGauge.Stage.TumblingWindow

/-! Observing a stage does not touch its data.

`unwatched` runs an operator by itself. A stage that feeds the same elements to the operator, with
any sampler, host and configuration, and with anything done to the sampler between two elements,
leaves the operator in the same state and puts out the same. -/
namespace FlowGauge

/-- What is done with a stage: an element goes through it, its sampler is called from outside, or
the host changes. -/
inductive Move (α σ : Type) where
  | push (element : α)
  | callback (c : Callback)
  | surround (around : σ)

def Move.element? {α σ : Type} : Move α σ → Option α
  | push element => some element
  | _ => none

def elements {α σ : Type} (moves : List (Move α σ)) : List α :=
  moves.filterMap Move.element?

section Simulation
variable {ω α β σ : Type} [Operator ω α β]

/-- An operator makes of an element what `bare` does, and never fails, whoever watches. -/
def Unaffected (bare : ω → α → ω × List β) : Prop :=
  ∀ (σ : Type) (host : Host σ) (operator : ω) (element : α) (hosted : Hosted σ),
    let done := Operator.process host operator element hosted
    done.result = .ok () ∧ done.operator = (bare operator element).1 ∧
      done.produced = (bare operator element).2

def unwatched (bare : ω → α → ω × List β) (operator : ω) : List α → ω × List β
  | [] => (operator, [])
  | element :: rest =>
    let (next, produced) := bare operator element
    let (last, later) := unwatched bare next rest
    (last, produced ++ later)

namespace Stage
variable [Shaped α] [Shaped β]

/-- The moves in order. A push that fails does not end the run. -/
def feed (host : Host σ) (stage : Stage ω σ) (out : List β) : List (Move α σ) → Stage ω σ × List β
  | [] => (stage, out)
  | .push element :: rest =>
    let pushed := stage.push host element out
    pushed.stage.feed host pushed.out rest
  | .callback c :: rest => (stage.report host c).2.feed host out rest
  | .surround around :: rest =>
    { stage with hosted := { stage.hosted with around := around } }.feed host out rest

theorem push_unaffected {bare : ω → α → ω × List β} (unaffected : Unaffected bare)
    (host : Host σ) (stage : Stage ω σ) (element : α) (out : List β) :
    (stage.push host element out).stage.operator = (bare stage.operator element).1 ∧
    (stage.push host element out).out = out ++ (bare stage.operator element).2 := by
  cases observed : stage.hosted.report host (.input (Shaped.shape element) stage.config) with
  | mk result hosted =>
    obtain ⟨succeeds, operator, produced⟩ := unaffected σ host stage.operator element hosted
    simp only [push, observed, succeeds]
    exact ⟨operator, by rw [produced]⟩

theorem feed_unwatched {bare : ω → α → ω × List β} (unaffected : Unaffected bare)
    (host : Host σ) (stage : Stage ω σ) (out : List β) (moves : List (Move α σ)) :
    (stage.feed host out moves).1.operator =
      (unwatched bare stage.operator (elements moves)).1 ∧
    (stage.feed host out moves).2 =
      out ++ (unwatched bare stage.operator (elements moves)).2 := by
  induction moves generalizing stage out with
  | nil => exact ⟨rfl, (List.append_nil out).symm⟩
  | cons move rest ih =>
    cases move with
    | callback c => exact ih (stage.report host c).2 out
    | surround around => exact ih { stage with hosted := { stage.hosted with around := around } } out
    | push element =>
      obtain ⟨operator, produced⟩ := push_unaffected unaffected host stage element out
      obtain ⟨last, later⟩ := ih (stage.push host element out).stage (stage.push host element out).out
      rw [operator] at last later
      refine ⟨last, later.trans ?_⟩
      rw [produced, List.append_assoc]
      rfl

end Stage

end Simulation

namespace Filter
variable {α : Type}

def bare (f : Filter α) (element : α) : Filter α × List α :=
  if f.keep element then ({ f with passed := f.passed + 1 }, [element])
  else ({ f with dropped := f.dropped + 1 }, [])

theorem unaffected : Unaffected (bare (α := α)) := by
  intro σ host f element hosted
  by_cases kept : f.keep element = true <;> simp [Operator.process, process, bare, kept]

theorem unwatched_eq (f : Filter α) (xs : List α) :
    unwatched bare f xs =
      ({ f with
          passed := f.passed + xs.countP f.keep
          dropped := f.dropped + xs.countP fun x => !f.keep x },
        xs.filter f.keep) := by
  induction xs generalizing f with
  | nil => rfl
  | cons x rest ih =>
    by_cases kept : f.keep x = true <;>
      simp [unwatched, bare, ih, kept, Nat.add_assoc, Nat.add_comm 1]

end Filter

namespace TumblingWindow
variable {α β : Type}

def bare (w : TumblingWindow α β) (element : α) : TumblingWindow α β × List β :=
  let pending := w.pending ++ [element]
  if pending.length < w.size then ({ w with pending := pending }, [])
  else ({ w with pending := [], fired := w.fired + 1 }, [w.aggregate pending])

/-- A sequence has a length, so no sampler refuses a full window. -/
theorem report_sequence {σ : Type} (host : Host σ) (hosted : Hosted σ) (length : Nat) :
    (hosted.report host (.window (.sequence length))).1 = .ok () := by
  cases off : hosted.sampler.disabled <;>
    simp [Hosted.report, Sampler.step, Sampler.reportWindow, off, Sampler.idle,
      WindowState.length]

theorem unaffected : Unaffected (bare (α := α) (β := β)) := by
  intro σ host w element hosted
  by_cases filling : (w.pending ++ [element]).length < w.size
  · simp only [Operator.process, process, bare, if_pos filling, and_self]
  · have accepted := report_sequence host hosted (w.pending ++ [element]).length
    simp only [Operator.process, process, bare, if_neg filling]
    split
    · next refused => rw [refused] at accepted; cases accepted
    · exact ⟨rfl, rfl, rfl⟩

/-- A window that has gathered some elements. -/
def gathered (name : String) (size : Nat) (aggregate : List α → β) (xs : List α) :
    TumblingWindow α β :=
  { new name size aggregate with
    pending := remainder (max size 1) xs
    fired := xs.length / max size 1 }

theorem gathered_nil (name : String) (size : Nat) (aggregate : List α → β) :
    gathered name size aggregate [] = new name size aggregate := by
  simp [gathered, new, remainder]

theorem bare_gathered (name : String) (size : Nat) (aggregate : List α → β) (xs : List α) (x : α) :
    bare (gathered name size aggregate xs) x =
      (gathered name size aggregate (xs ++ [x]),
        if (remainder (max size 1) xs).length + 1 < max size 1 then []
        else [aggregate (remainder (max size 1) xs ++ [x])]) := by
  have positive : 0 < max size 1 := by omega
  simp only [bare, gathered, new, List.length_append, List.length_singleton,
    remainder_concat positive]
  split
  · next short =>
    have count := div_concat_short short x
    rw [List.length_append, List.length_singleton] at count
    rw [count]
  · next full =>
    have count := (div_concat_full positive full x).1
    rw [List.length_append, List.length_singleton] at count
    rw [count]

theorem unwatched_gathered (name : String) (size : Nat) (aggregate : List α → β)
    (past xs : List α) :
    let run := unwatched bare (gathered name size aggregate past) xs
    run.1 = gathered name size aggregate (past ++ xs) ∧
    (blocks (max size 1) past).map aggregate ++ run.2 =
      (blocks (max size 1) (past ++ xs)).map aggregate := by
  induction xs generalizing past with
  | nil => simp [unwatched]
  | cons x rest ih =>
    obtain ⟨last, later⟩ := ih (past ++ [x])
    rw [List.append_assoc, List.singleton_append] at last later
    simp only [unwatched, bare_gathered]
    refine ⟨last, later ▸ ?_⟩
    rw [blocks_concat (by omega)]
    split <;> simp

theorem unwatched_new (name : String) (size : Nat) (aggregate : List α → β) (xs : List α) :
    unwatched bare (new name size aggregate) xs =
      (gathered name size aggregate xs, (blocks (max size 1) xs).map aggregate) := by
  have none : blocks (max size 1) ([] : List α) = [] := by simp [blocks]
  have run := unwatched_gathered name size aggregate [] xs
  rw [gathered_nil, none] at run
  exact Prod.ext run.1 run.2

end TumblingWindow

namespace Stage
variable {α β σ : Type} [Shaped α] [Shaped β]

theorem feed_eq_of_elements {ω τ : Type} [Operator ω α β] {bare : ω → α → ω × List β}
    (unaffected : Unaffected bare) (host : Host σ) (host' : Host τ) {stage : Stage ω σ}
    {stage' : Stage ω τ} (operator : stage'.operator = stage.operator) (out : List β)
    {moves : List (Move α σ)} {moves' : List (Move α τ)}
    (same : elements moves' = elements moves) :
    (stage'.feed host' out moves').1.operator = (stage.feed host out moves).1.operator ∧
    (stage'.feed host' out moves').2 = (stage.feed host out moves).2 := by
  obtain ⟨last, later⟩ := feed_unwatched unaffected host stage out moves
  obtain ⟨last', later'⟩ := feed_unwatched unaffected host' stage' out moves'
  rw [operator, same, ← last] at last'
  rw [operator, same, ← later] at later'
  exact ⟨last', later'⟩

/-- **The data is the same.** Whoever hosts the sampler, in whatever state it is and whatever is
done to it between two elements, a filter puts out the elements that it keeps and counts both kinds,
and a window puts out the aggregates of the complete blocks and holds the rest. Any other host,
sampler and configuration, given the same elements, leaves the same operator and the same output. -/
theorem feed_unaffected (host : Host σ) (hosted : Hosted σ) (config : JobConfig)
    (moves : List (Move α σ)) :
    (∀ (f : Filter α) (out : List α),
      let fed := feed host ⟨f, hosted, config⟩ out moves
      fed.2 = out ++ (elements moves).filter f.keep ∧
      fed.1.operator =
        { f with
          passed := f.passed + (elements moves).countP f.keep
          dropped := f.dropped + (elements moves).countP fun x => !f.keep x }) ∧
    (∀ (name : String) (size : Nat) (aggregate : List α → β) (out : List β),
      let n := max size 1
      let fed := feed host ⟨TumblingWindow.new name size aggregate, hosted, config⟩ out moves
      fed.2 = out ++ (blocks n (elements moves)).map aggregate ∧
      fed.1.operator =
        { TumblingWindow.new name size aggregate with
          pending := remainder n (elements moves)
          fired := (blocks n (elements moves)).length } ∧
      (blocks n (elements moves)).flatten ++ remainder n (elements moves) = elements moves ∧
      (∀ block ∈ blocks n (elements moves), block.length = n) ∧
      (remainder n (elements moves)).length < n) ∧
    ∀ (τ : Type) (host' : Host τ) (hosted' : Hosted τ) (config' : JobConfig)
      (moves' : List (Move α τ)), elements moves' = elements moves →
      (∀ (f : Filter α) (out : List α),
        let fed := feed host ⟨f, hosted, config⟩ out moves
        let fed' := feed host' ⟨f, hosted', config'⟩ out moves'
        fed'.1.operator = fed.1.operator ∧ fed'.2 = fed.2) ∧
      ∀ (w : TumblingWindow α β) (out : List β),
        let fed := feed host ⟨w, hosted, config⟩ out moves
        let fed' := feed host' ⟨w, hosted', config'⟩ out moves'
        fed'.1.operator = fed.1.operator ∧ fed'.2 = fed.2 := by
  refine ⟨fun f out => ?_, fun name size aggregate out => ?_,
    fun τ host' hosted' config' moves' same => ⟨fun f out => ?_, fun w out => ?_⟩⟩
  · obtain ⟨last, later⟩ := feed_unwatched Filter.unaffected host ⟨f, hosted, config⟩ out moves
    rw [Filter.unwatched_eq] at last later
    exact ⟨later, last⟩
  · obtain ⟨last, later⟩ := feed_unwatched TumblingWindow.unaffected host
      ⟨TumblingWindow.new name size aggregate, hosted, config⟩ out moves
    rw [TumblingWindow.unwatched_new] at last later
    have fired : (blocks (max size 1) (elements moves)).length =
        (elements moves).length / max size 1 := by
      rw [blocks, List.length_map, List.length_range]
    have held : (remainder (max size 1) (elements moves)).length < max size 1 := by
      rw [length_remainder]
      exact Nat.mod_lt _ (by omega)
    exact ⟨later, fired ▸ last, flatten_blocks _ _, fun _ => length_of_mem_blocks, held⟩
  · exact feed_eq_of_elements Filter.unaffected host host' rfl out same
  · exact feed_eq_of_elements TumblingWindow.unaffected host host' rfl out same

end Stage

end FlowGauge
