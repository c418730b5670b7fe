import FlowGauge.Proofs.Sampler.Run

/-! Once the window is open, an input counts and nothing else about it matters.

`Retold` pairs two runs that differ only in the inputs that find the window open: in their values,
in their configurations, resolved or not, and in what an opener would have answered. The sampler
cannot tell two such runs apart. -/
namespace FlowGauge

namespace Sampler

/-- The second run makes the calls of the first one, with other inputs where the window is open. Of
the surroundings such an input has only the time of the window check and the outcome of handing the
summary over in common with the one it replaces. -/
inductive Retold : Sampler → List Call → List Call → Prop
  | nil (s : Sampler) : Retold s [] []
  | same {s : Sampler} (call : Call) {rest others : List Call}
      (later : Retold (s.take call).sampler rest others) : Retold s (call :: rest) (call :: others)
  | input {s : Sampler} (begun : s.phase ≠ .uninitialized) (shape shape' : Shape)
      (config config' : JobConfig) {a b : Answers} (sameTime : a.checkedAt = b.checkedAt)
      (sameDelivery : a.delivery = b.delivery) {rest others : List Call}
      (later : Retold (s.take ⟨.input shape config, a⟩).sampler rest others) :
      Retold s (⟨.input shape config, a⟩ :: rest) (⟨.input shape' config', b⟩ :: others)

theorem checkWindow_congr (s : Sampler) {a b : Answers} (sameTime : a.checkedAt = b.checkedAt)
    (sameDelivery : a.delivery = b.delivery) : s.checkWindow a = s.checkWindow b := by
  unfold checkWindow
  rw [sameTime, sameDelivery]

/-- Without an opening neither the configuration nor the value is looked at, also by a sampler that
is disabled or closed. -/
theorem take_input_begun {s : Sampler} (begun : s.phase ≠ .uninitialized) (shape shape' : Shape)
    (config config' : JobConfig) {a b : Answers} (sameTime : a.checkedAt = b.checkedAt)
    (sameDelivery : a.delivery = b.delivery) :
    s.take ⟨.input shape config, a⟩ = s.take ⟨.input shape' config', b⟩ := by
  have checked : s.takeInput a = s.takeInput b :=
    s.countInput.checkWindow_congr sameTime sameDelivery
  simp only [take, step, reportInput, if_neg begun, checked]

theorem run_retold {s : Sampler} {run other : List Call} (retold : s.Retold run other) :
    s.outcomes other = s.outcomes run ∧ s.after other = s.after run := by
  induction retold with
  | nil s => exact ⟨rfl, rfl⟩
  | same call later ih =>
    obtain ⟨outcomes, last⟩ := ih
    exact ⟨congrArg (_ :: ·) outcomes, last⟩
  | input begun shape shape' config config' sameTime sameDelivery later ih =>
    obtain ⟨outcomes, last⟩ := ih
    have alike := take_input_begun begun shape shape' config config' sameTime sameDelivery
    constructor
    · rw [Sampler.outcomes, Sampler.outcomes, ← alike, outcomes]
    · rw [after_cons, after_cons, ← alike, last]

/-- **Only the opening input is looked at.** If two runs of a sampler differ only in the values and
configurations of inputs that find the window open, each call of the one comes to the same as its
counterpart in the other: the result, the sampler it leaves (phase, counts, widths and the mode of
the sink included) and what is opened, handed over and logged. -/
theorem later_inputs_indifferent {s : Sampler} {run other : List Call}
    (retold : s.Retold run other) :
    s.outcomes other = s.outcomes run ∧ s.after other = s.after run ∧
      s.effects other = s.effects run := by
  obtain ⟨outcomes, last⟩ := run_retold retold
  refine ⟨outcomes, last, ?_⟩
  rw [effects, effects, outcomes]

/-- The second run asks for a store without a connection, once while the sampler is disabled and
once with the input that closes the window. -/
theorem later_inputs_indifferent_of_broken_job :
    let broken : JobConfig := ⟨true, none⟩
    let fresh := new .filter [("id", .text "node")] .builtIn
    let opening : List Call :=
      [⟨.input (.tuple 2) .localOnly, .willing 5⟩, ⟨.disable true, .willing 6⟩]
    let run : List Call := opening ++
      [⟨.input .plain .localOnly, .willing 7⟩, ⟨.disable false, .willing 8⟩,
        ⟨.input (.tuple 2) .localOnly, .willing 32000000005⟩]
    let other : List Call := opening ++
      [⟨.input (.tuple 9) broken, .willing 7⟩, ⟨.disable false, .willing 8⟩,
        ⟨.input (.array 4) broken, .willing 32000000005⟩]
    fresh.Retold run other ∧ (fresh.after other).phase = .closed ∧
      (fresh.after other).sinkMode = some .localLog ∧ fresh.outcomes other = fresh.outcomes run ∧
      fresh.after other = fresh.after run ∧ fresh.effects other = fresh.effects run := by
  intro broken fresh opening run other
  have retold : fresh.Retold run other := by
    subst fresh run other opening
    apply Retold.same
    apply Retold.same
    apply Retold.input (by decide) _ _ _ _ rfl rfl
    apply Retold.same
    apply Retold.input (by decide) _ _ _ _ rfl rfl
    exact .nil _
  have closed : (fresh.after other).phase = .closed := by
    subst fresh other opening broken
    rfl
  have inLog : (fresh.after other).sinkMode = some .localLog := by
    subst fresh other opening broken
    rfl
  exact ⟨retold, closed, inLog, later_inputs_indifferent retold⟩

end Sampler

end FlowGauge
