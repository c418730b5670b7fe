import FlowGauge.Proofs.Sampler.Emission
import FlowGauge.Proofs.Sampler.History

/-! What becomes of a summary after its window has closed.

The rates, the selectivity and the description stand from then on. The width of the outputs does
not: a closed sampler still writes the width of every output that it hears. -/
namespace FlowGauge

namespace Summary

/-- The summary with the width of the last of some later outputs. -/
def overwritten (summary : Summary) (outputs : List Shape) : Summary :=
  { summary with
    tupleWidthOut := (outputs.getLast?.map Shape.recorded).getD summary.tupleWidthOut }

theorem overwritten_overwritten (summary : Summary) (a b : List Shape) :
    (summary.overwritten a).overwritten b = summary.overwritten (a ++ b) := by
  unfold overwritten
  cases last : b.getLast? <;> simp [List.getLast?_append, last]

theorem overwritten_eq_self_iff (summary : Summary) (outputs : List Shape) :
    summary.overwritten outputs = summary ↔
      ∀ last ∈ outputs.getLast?, last.recorded = summary.tupleWidthOut := by
  obtain ⟨description, widthIn, widthOut, inputRate, outputRate, selectivity⟩ := summary
  unfold overwritten
  cases outputs.getLast? <;> simp

end Summary

namespace Sampler

/-- `t` is what a closed `s` becomes when it hears `calls`: it goes on counting, and of its summary
it overwrites one width. -/
structure Lingers (s : Sampler) (calls : List Call) (t : Sampler) : Prop where
  summary : t.summary = s.summary.overwritten (outputShapes calls)
  inputs : t.inputs = s.inputs + (inputShapes calls).length
  outputs : t.outputs = s.outputs + (outputShapes calls).length

theorem Lingers.trans {s t u : Sampler} {a b : List Call} (first : s.Lingers a t)
    (second : t.Lingers b u) : s.Lingers (a ++ b) u where
  summary := by
    rw [second.summary, first.summary, outputShapes_append, Summary.overwritten_overwritten]
  inputs := by
    rw [second.inputs, first.inputs, inputShapes_append, List.length_append, Nat.add_assoc]
  outputs := by
    rw [second.outputs, first.outputs, outputShapes_append, List.length_append, Nat.add_assoc]

theorem course_lingers {s : Sampler} {a : Answers} {c : Callback} {o : Outcome}
    (h : Course s a c o) (closed : s.phase = .closed) :
    s.Lingers (heard s.disabled [⟨c, a⟩]) o.sampler := by
  cases h with
  | skipped off isReport =>
    rw [heard_off off isReport]
    exact ⟨rfl, rfl, rfl⟩
  | switched value => exact ⟨rfl, rfl, rfl⟩
  | joined left right matched on =>
    rw [heard_report on rfl]
    exact ⟨rfl, rfl, rfl⟩
  | measured on | misreported on =>
    rw [heard_report on rfl]
    exact ⟨rfl, rfl, rfl⟩
  | early shape on unopened | refused shape config fault on unopened
  | opening shape on unopened => simp [closed] at unopened
  | output shape on =>
    rw [heard_report on rfl, checkWindow_closed (s := s.countOutput shape) closed]
    exact ⟨rfl, rfl, rfl⟩
  | input shape config on =>
    rw [heard_report on rfl, checkWindow_closed (s := s.countInput) closed]
    exact ⟨rfl, rfl, rfl⟩

theorem after_lingers {s : Sampler} (closed : s.phase = .closed) (run : List Call) :
    s.Lingers (heard s.disabled run) (s.after run) := by
  induction run generalizing s with
  | nil => exact ⟨rfl, rfl, rfl⟩
  | cons call rest ih =>
    have course := s.take_course call
    rw [s.heard_cons]
    exact (course_lingers course closed).trans (ih (course_closed course closed).1)

/-- A single call reports at most one output, so the width stands if and only if that output has
it. -/
theorem take_summary_eq_iff {s : Sampler} (closed : s.phase = .closed) (call : Call) :
    (s.take call).sampler.summary = s.summary ↔
      ∀ shape ∈ outputShapes (heard s.disabled [call]),
        shape.recorded = s.summary.tupleWidthOut := by
  have single : outputShapes (heard s.disabled [call]) = [] ∨
      ∃ shape, outputShapes (heard s.disabled [call]) = [shape] := by
    cases switch : call.callback.switch? with
    | some value => exact .inl (by rw [heard_switch switch]; rfl)
    | none =>
      cases off : s.disabled with
      | true => exact .inl (by rw [heard_off rfl switch]; rfl)
      | false =>
        rw [heard_report rfl switch]
        cases output : call.output? <;> simp [outputShapes, output]
  rw [(course_lingers (s.take_course call) closed).summary, Summary.overwritten_eq_self_iff]
  rcases single with none | ⟨shape, one⟩
  · rw [none]; simp
  · rw [one]; simp

theorem summary_stands_iff {s : Sampler} (closed : s.phase = .closed) (run : List Call) :
    (∀ part, part <+: run → (s.after part).summary = s.summary) ↔
      ∀ shape ∈ outputShapes (heard s.disabled run), shape.recorded = s.summary.tupleWidthOut := by
  induction run generalizing s with
  | nil => simp [heard, outputShapes]
  | cons call rest ih =>
    have ih := ih (course_closed (s.take_course call) closed).1
    have step := take_summary_eq_iff closed call
    rw [s.heard_cons, outputShapes_append]
    simp only [List.forall_mem_append, ← step]
    -- Once the first call leaves the summary as it was, both sides are about the rest alone.
    constructor
    · intro stands
      have same : (s.take call).sampler.summary = s.summary := stands [call] (by simp)
      refine ⟨same, same ▸ ih.mp fun part early => ?_⟩
      exact (stands (call :: part) (by simpa using early)).trans same.symm
    · rintro ⟨same, widths⟩ part early
      cases part with
      | nil => rfl
      | cons head part =>
        obtain ⟨rfl, begins⟩ := List.cons_prefix_cons.mp early
        exact (ih.mpr (same ▸ widths) part begins).trans same

/-- **What is final in a summary.** After its window has closed a sampler counts on, and its summary
keeps everything except the width of the outputs, which becomes that of the last output heard. The
summary is the same all through a run if and only if every output heard has the width that the
window closed with. -/
theorem summary_after_closing {s : Sampler} (closed : s.phase = .closed) (run : List Call) :
    (s.after run).summary =
      { s.summary with
        tupleWidthOut :=
          ((outputShapes (heard s.disabled run)).getLast?.map Shape.recorded).getD
            s.summary.tupleWidthOut } ∧
    (s.after run).inputs = s.inputs + (inputShapes (heard s.disabled run)).length ∧
    (s.after run).outputs = s.outputs + (outputShapes (heard s.disabled run)).length ∧
    ((∀ part, part <+: run → (s.after part).summary = s.summary) ↔
      ∀ shape ∈ outputShapes (heard s.disabled run),
        shape.recorded = s.summary.tupleWidthOut) := by
  have lingers := after_lingers closed run
  exact ⟨lingers.summary, lingers.inputs, lingers.outputs, summary_stands_iff closed run⟩

/-- Closed by an output of one field, and then told of one with three. -/
theorem summary_after_closing_of_wider_output :
    let run : List Call :=
      [⟨.input (.tuple 2) .localOnly, .willing 0⟩, ⟨.output (.tuple 1), .willing 31000000000⟩]
    let later : List Call := [⟨.output (.tuple 3), .willing 31000000000⟩]
    let s := (new .filter [("id", .text "node")] .host).after run
    s.phase = .closed ∧ s.summary.tupleWidthOut = 1 ∧
      (s.after later).summary = { s.summary with tupleWidthOut := 3 } := by
  intro run later s
  have closed : s.phase = .closed := by
    subst s run
    rfl
  have width : s.summary.tupleWidthOut = 1 := by
    subst s run
    rfl
  have enabled : s.disabled = false := by
    subst s run
    rfl
  have outputs : outputShapes (heard s.disabled later) = [.tuple 3] := by
    rw [enabled]
    rfl
  have lingers := (summary_after_closing closed later).1
  rw [outputs] at lingers
  exact ⟨closed, width, lingers⟩

/-- So the summary of a closed sampler is not final. -/
theorem summary_not_final :
    ¬∀ (kind : NodeKind) (seed : List (String × Scalar)) (opener : Opener) (run later : List Call),
      ((new kind seed opener).after run).phase = .closed →
        (((new kind seed opener).after run).after later).summary =
          ((new kind seed opener).after run).summary := by
  intro final
  have same := final .filter [("id", .text "node")] .host
    [⟨.input (.tuple 2) .localOnly, .willing 0⟩, ⟨.output (.tuple 1), .willing 31000000000⟩]
    [⟨.output (.tuple 3), .willing 31000000000⟩] rfl
  have widths : (3 : Int64) = 1 := congrArg Summary.tupleWidthOut same
  exact absurd widths (by decide)

end Sampler

end FlowGauge
