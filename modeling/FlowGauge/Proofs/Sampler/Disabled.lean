import FlowGauge.Proofs.Sampler.Events

/-! What a sampler is told while it is disabled leaves no trace.

`audible` deletes those reports from a run, by the switch alone. The calls that remain find the
samplers that they found before, and so come to what they came to before. -/
namespace FlowGauge

/-- A run without the reports made while the sampler is disabled. The switch itself stays in it. -/
def audible (off : Bool) : List Call → List Call
  | [] => []
  | call :: rest =>
    match call.callback.switch? with
    | some value => call :: audible value rest
    | none => if off then audible off rest else call :: audible off rest

namespace Event

def muted (e : Event) : Bool :=
  e.found.disabled && e.call.callback.switch?.isNone

theorem muted_iff (e : Event) :
    e.muted = true ↔ e.found.disabled = true ∧ e.call.callback.switch? = none := by
  simp [muted]

end Event

namespace Sampler

/-- The calls of a run, answered by surroundings that know what has been done to them before. What
else they go by, such as the time, they have from the call. -/
def answered (respond : List Effect → Call → Answers) (s : Sampler) (done : List Effect) :
    List Call → List Call
  | [] => []
  | call :: rest =>
    let call := { call with answers := respond done call }
    let outcome := s.take call
    call :: outcome.sampler.answered respond (done ++ outcome.effects) rest

theorem course_muted {s : Sampler} {a : Answers} {c : Callback} {o : Outcome}
    (h : Course s a c o) (off : s.disabled = true) (report : c.switch? = none) : o = s.idle := by
  cases h with
  | skipped => rfl
  | switched value => cases report
  | joined left right matched on | measured on | misreported on | early shape on | output shape on
  | refused shape config fault on | opening shape on | input shape config on => simp [off] at on

theorem outcome_muted {e : Event} (muted : e.muted = true) : e.outcome = e.found.idle := by
  obtain ⟨off, report⟩ := e.muted_iff.mp muted
  exact course_muted (e.found.take_course e.call) off report

theorem inert_muted (e : Event) (muted : e.muted = true) :
    e.outcome.sampler = e.found ∧ e.outcome.effects = [] := by
  rw [outcome_muted muted]
  exact ⟨rfl, rfl⟩

/-- Which call is deleted next is decided by the sampler that it finds. -/
theorem audible_cons (s : Sampler) (call : Call) (rest : List Call) :
    audible s.disabled (call :: rest) =
      if (Event.mk s call).muted then audible (s.take call).sampler.disabled rest
      else call :: audible (s.take call).sampler.disabled rest := by
  rw [course_disabled (s.take_course call)]
  cases switch : call.callback.switch? with
  | some value => simp [audible, Event.muted, switch]
  | none => cases off : s.disabled <;> simp [audible, Event.muted, switch, off]

theorem audible_eq_without (s : Sampler) (run : List Call) :
    audible s.disabled run = s.without Event.muted run := by
  induction run generalizing s with
  | nil => rfl
  | cons call rest ih => rw [audible_cons, without_cons, ih (s.take call).sampler]

/-- Without the muted calls the others follow one another as before. -/
theorem run_audible (s : Sampler) (run : List Call) :
    (s.events (audible s.disabled run) = (s.events run).filter fun e => !e.muted) ∧
      s.after (audible s.disabled run) = s.after run := by
  obtain ⟨events, last, -⟩ := s.run_without Event.muted run fun e _ => inert_muted e
  rw [audible_eq_without]
  exact ⟨events, last⟩

theorem effects_audible (s : Sampler) (run : List Call) :
    s.effects (audible s.disabled run) = s.effects run := by
  obtain ⟨-, -, effects⟩ := s.run_without Event.muted run fun e _ => inert_muted e
  rw [audible_eq_without, effects]

/-- Surroundings cannot tell the two runs apart, so they answer the calls that remain alike. -/
theorem answered_audible (respond : List Effect → Call → Answers) (s : Sampler)
    (done : List Effect) (run : List Call) :
    s.answered respond done (audible s.disabled run) =
      audible s.disabled (s.answered respond done run) := by
  induction run generalizing s done with
  | nil => rfl
  | cons call rest ih =>
    let given : Call := { call with answers := respond done call }
    have ih := ih (s.take given).sampler (done ++ (s.take given).effects)
    have next : (s.take call).sampler.disabled = (s.take given).sampler.disabled := by
      rw [course_disabled (s.take_course call), course_disabled (s.take_course given)]
    have alike : (Event.mk s given).muted = (Event.mk s call).muted := rfl
    rw [audible_cons, answered, audible_cons, alike, next]
    cases muted : (Event.mk s call).muted with
    | true =>
      have idle : s.take given = s.idle := outcome_muted (alike.trans muted)
      rw [idle] at ih ⊢
      simpa [Sampler.idle] using ih
    | false => simpa [answered] using ih

/-- **No trace.** Every report made while the sampler is disabled succeeds, changes nothing and does
nothing, whatever it reports and whatever the surroundings would answer. Without these reports a
run leaves the same sampler, its other calls come to the same, and the same is done to the opener,
the sink and the log. -/
theorem disabled_leaves_no_trace (s : Sampler) (run : List Call) :
    (∀ e ∈ s.events run, e.muted = true → e.outcome = ⟨.ok (), e.found, []⟩) ∧
    s.after (audible s.disabled run) = s.after run ∧
    s.outcomes (audible s.disabled run) =
      ((s.events run).filter fun e => !e.muted).map Event.outcome ∧
    s.effects (audible s.disabled run) = s.effects run ∧
    ∀ respond : List Effect → Call → Answers,
      s.answered respond [] (audible s.disabled run) =
        audible s.disabled (s.answered respond [] run) := by
  obtain ⟨events, last⟩ := s.run_audible run
  refine ⟨?_, last, ?_, s.effects_audible run, ?_⟩
  · intro e _ muted
    exact outcome_muted muted
  · rw [outcomes_eq, events]
  · intro respond
    exact s.answered_audible respond [] run

end Sampler

end FlowGauge
