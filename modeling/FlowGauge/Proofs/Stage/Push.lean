import FlowGauge.Proofs.Sampler.Run
import FlowGauge.Stage.Operator

/-! What a stage reports of one element, and which fault it returns.

The input is reported before the operator works, and each element put out after it, in order and
also after a report has failed. The operator's own fault is returned before any fault of observing,
and of those the first one. -/
namespace FlowGauge

/-- The first fault among some results. -/
def firstFault (results : List (Except Fault Unit)) : Except Fault Unit :=
  (results.find? fun result => !result.isOk).getD (.ok ())

namespace Hosted
variable {σ : Type}

/-- Callbacks made one after the other, each with what the host says when it comes to it. -/
def calls (host : Host σ) (h : Hosted σ) : List Callback → List Call
  | [] => []
  | c :: rest => ⟨c, host.answers h.around⟩ :: (h.report host c).2.calls host rest

/-- The sampler and the host after these callbacks. -/
def hear (host : Host σ) (h : Hosted σ) (callbacks : List Callback) : Hosted σ :=
  callbacks.foldl (fun h c => (h.report host c).2) h

/-- What each of these callbacks returns. -/
def results (host : Host σ) (h : Hosted σ) (callbacks : List Callback) :
    List (Except Fault Unit) :=
  (h.sampler.outcomes (h.calls host callbacks)).map Outcome.result

theorem length_results (host : Host σ) (h : Hosted σ) (callbacks : List Callback) :
    (h.results host callbacks).length = callbacks.length := by
  induction callbacks generalizing h with
  | nil => rfl
  | cons c rest ih => exact congrArg (· + 1) (ih (h.report host c).2)

end Hosted

namespace Stage

theorem firstFault_cons (result : Except Fault Unit) (later : List (Except Fault Unit)) :
    firstFault (result :: later) = first result (firstFault later) := by
  cases result <;> rfl

theorem first_assoc (a b c : Except Fault Unit) : first (first a b) c = first a (first b c) := by
  cases a <;> rfl

variable {ω α β σ : Type}

/-- The loop over the outputs hears each of them, and keeps the fault that it had before. -/
theorem reportOutputs_eq [Shaped β] (host : Host σ) (produced : List β)
    (result : Except Fault Unit) (hosted : Hosted σ) :
    let outputs := produced.map fun b => Callback.output (Shaped.shape b)
    reportOutputs host produced (result, hosted) =
      (firstFault (result :: hosted.results host outputs), hosted.hear host outputs) := by
  induction produced generalizing result hosted with
  | nil => cases result <;> rfl
  | cons b rest ih =>
    intro outputs
    let reported := hosted.report host (.output (Shaped.shape b))
    have later := ih (first result reported.1) reported.2
    calc
      reportOutputs host (b :: rest) (result, hosted)
        = reportOutputs host rest (first result reported.1, reported.2) := rfl
      _ = (firstFault (result :: hosted.results host outputs), hosted.hear host outputs) := by
        rw [later, firstFault_cons, first_assoc, ← firstFault_cons, ← firstFault_cons]
        rfl

/-- **One element.** One input is reported, and then the operator works. If it fails, its fault is
returned whatever was observed, and no output is reported. Otherwise each element that it puts out
is reported once and in order, whether or not a report before it has failed, and the first fault of
all these reports is returned. In either case what was out before stays as it is and has no part in
what is reported, and what the operator has put out comes after it. -/
theorem push_reports [Operator ω α β] [Shaped α] [Shaped β] (host : Host σ) (stage : Stage ω σ)
    (element : α) (out : List β) :
    let observed := stage.hosted.report host (.input (Shaped.shape element) stage.config)
    let done := Operator.process host stage.operator element observed.2
    let outputs := done.produced.map fun b => Callback.output (Shaped.shape b)
    let pushed := stage.push host element out
    (pushed.stage.operator = done.operator ∧ pushed.stage.config = stage.config) ∧
    (match done.result with
      | .error fault => pushed.result = .error fault ∧ pushed.stage.hosted = done.hosted
      | .ok () =>
        pushed.result = firstFault (observed.1 :: done.hosted.results host outputs) ∧
        pushed.stage.hosted = done.hosted.hear host outputs ∧
        (done.hosted.results host outputs).length = done.produced.length) ∧
    pushed.out = out ++ done.produced ∧
    ∀ other : List β, (stage.push host element other).result = pushed.result ∧
      (stage.push host element other).stage = pushed.stage := by
  intro observed done outputs pushed
  have pushes (out : List β) : stage.push host element out =
      match done.result with
      | .error fault =>
        ⟨.error fault, { stage with operator := done.operator, hosted := done.hosted },
          out ++ done.produced⟩
      | .ok () =>
        ⟨firstFault (observed.1 :: done.hosted.results host outputs),
          { stage with operator := done.operator, hosted := done.hosted.hear host outputs },
          out ++ done.produced⟩ := by
    simp only [push, reportOutputs_eq]
    rfl
  simp only [pushed, pushes]
  cases done.result with
  | error fault => simp
  | ok => simp [Hosted.length_results, outputs]

end Stage

end FlowGauge
