import FlowGauge.Proofs.Sampler.Auxiliary
import FlowGauge.Proofs.Sampler.Closing

/-! What one report adds to the counts.

An input may open the window that it is counted in, so whether it was counted is known after it.
Whether the reports that follow it are counted is known before them. -/
namespace FlowGauge

/-- A report on the element that was put in last. -/
def Callback.follows (c : Callback) : Bool :=
  c.isOutput || c.isAuxiliary

theorem Callback.switch?_of_follows {c : Callback} (follows : c.follows = true) :
    c.switch? = none := by
  cases c with
  | disable => cases follows
  | input | output | join | window => rfl

namespace Sampler

/-- Inputs and outputs that are reported now are counted. -/
def counting (s : Sampler) : Bool :=
  !s.disabled && s.phase ≠ .uninitialized

theorem counting_iff (s : Sampler) :
    s.counting = true ↔ s.disabled = false ∧ s.phase ≠ .uninitialized := by
  simp [counting]

theorem checkWindow_counting {s : Sampler} (on : s.disabled = false)
    (begun : s.phase ≠ .uninitialized) (a : Answers) :
    (s.checkWindow a).sampler.counting = true := by
  rw [counting_iff, (s.checkWindow_keeps a).1]
  exact ⟨on, checkWindow_begun begun a⟩

theorem course_input {s : Sampler} {a : Answers} {shape : Shape} {config : JobConfig} {o : Outcome}
    (h : Course s a (.input shape config) o) :
    o.sampler.inputs = s.inputs + (if o.sampler.counting then 1 else 0) ∧
      o.sampler.outputs = s.outputs := by
  cases h with
  | skipped off => simp [idle, counting, off]
  | refused shape config fault on unopened => simp [counting, unopened]
  | @opening shape config mode sink on unopened opens resolved obtained outcome checked =>
    subst checked
    let t := (s.opened shape mode sink a.openedAt).countInput
    obtain ⟨-, inputs, outputs⟩ := t.checkWindow_keeps a
    have counted : (t.checkWindow a).sampler.counting = true :=
      checkWindow_counting (s := t) on (by simp [t, opened, countInput]) a
    rw [counted, inputs, outputs]
    exact ⟨rfl, rfl⟩
  | input shape config on begun =>
    obtain ⟨-, inputs, outputs⟩ := s.countInput.checkWindow_keeps a
    rw [checkWindow_counting (s := s.countInput) on begun, inputs, outputs]
    exact ⟨rfl, rfl⟩

theorem course_follows {s : Sampler} {a : Answers} {c : Callback} {o : Outcome}
    (h : Course s a c o) (follows : c.follows = true) :
    o.sampler.inputs = s.inputs ∧ o.sampler.counting = s.counting ∧
      o.sampler.outputs = s.outputs + if s.counting && c.isOutput then 1 else 0 := by
  cases h with
  | switched | refused | opening | input => cases follows
  | skipped off => simp [idle, counting, off]
  | joined | measured | misreported =>
    rw [show Callback.isOutput _ = false from rfl, Bool.and_false]
    exact ⟨rfl, rfl, rfl⟩
  | early shape on unopened => simp [idle, counting, unopened]
  | output shape on begun =>
    obtain ⟨-, inputs, outputs⟩ := (s.countOutput shape).checkWindow_keeps a
    have before : s.counting = true := (counting_iff s).mpr ⟨on, begun⟩
    rw [checkWindow_counting (s := s.countOutput shape) on begun, before, inputs, outputs]
    exact ⟨rfl, rfl, rfl⟩

/-- The call that closes the window has counted an input by then, and leaves a filter with the
share of outputs in what it has counted. -/
theorem closing_measures (kind : NodeKind) (seed : List (String × Scalar)) (opener : Opener)
    (run : List Call) (call : Call) :
    let s := (new kind seed opener).after run
    let t := (s.take call).sampler
    s.phase ≠ .closed → t.phase = .closed →
      1 ≤ t.inputs ∧ (kind = .filter →
        t.summary.realSelectivity = some (Float.ofNat t.outputs / Float.ofNat t.inputs)) := by
  intro s t unclosed closes
  have tally : Tally kind seed opener (heard false run) s := Tally.new.after run
  have closing : s.ClosesOn call := (course_closes (s.take_course call)).mp ⟨unclosed, closes⟩
  obtain ⟨u, elapsed, checks, observing, due, -⟩ := (s.closesOn_iff call).mp closing
  have counted : Tally kind seed opener (heard false run ++ [call]) u := checks.tally tally
  obtain ⟨-, left⟩ := checks.take
  obtain ⟨sink, closed, -⟩ :=
    u.close_sampler (call.answers.checkedAt.since u.start) call.answers.delivery
  rw [checkWindow_closes observing due, closed] at left
  have result : t = _ := left
  rw [result]
  refine ⟨counted.inputs_pos checks.begun, ?_⟩
  intro filter
  simp only [finalSummary, counted.selectivity, gather, filter, Selectivity.compute]
  rfl

end Sampler

end FlowGauge
