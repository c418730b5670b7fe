import FlowGauge.Proofs.Sampler.Run

/-! The events of a run: its calls, each with the sampler that it finds.

A call that changes nothing and does nothing can be left out. `run_without` says what that makes of
the other calls: nothing. -/
namespace FlowGauge

/-- A call in a run, with the sampler as the call finds it. -/
structure Event where
  found : Sampler
  call : Call

def Event.outcome (e : Event) : Outcome :=
  e.found.take e.call

namespace Sampler

def events (s : Sampler) : List Call → List Event
  | [] => []
  | call :: rest => ⟨s, call⟩ :: (s.take call).sampler.events rest

/-- What each call of a run comes to, read off its events. -/
theorem outcomes_eq (s : Sampler) (run : List Call) :
    s.outcomes run = (s.events run).map Event.outcome := by
  induction run generalizing s with
  | nil => rfl
  | cons call rest ih => exact congrArg (s.take call :: ·) (ih (s.take call).sampler)

theorem after_append (s : Sampler) (a b : List Call) : s.after (a ++ b) = (s.after a).after b :=
  List.foldl_append

/-- The sampler that a call of a run finds is the one that the calls before it have left. -/
theorem mem_events {s : Sampler} {run : List Call} {e : Event} (member : e ∈ s.events run) :
    ∃ earlier later, run = earlier ++ e.call :: later ∧ e.found = s.after earlier := by
  induction run generalizing s with
  | nil => cases member
  | cons call rest ih =>
    rcases List.mem_cons.mp member with rfl | member
    · exact ⟨[], rest, rfl, rfl⟩
    · obtain ⟨earlier, later, split, found⟩ := ih member
      exact ⟨call :: earlier, later, congrArg (call :: ·) split, found⟩

/-- The calls of a run without those at some of its events. -/
def without (drop : Event → Bool) (s : Sampler) (run : List Call) : List Call :=
  ((s.events run).filter fun e => !drop e).map Event.call

theorem without_cons (drop : Event → Bool) (s : Sampler) (call : Call) (rest : List Call) :
    s.without drop (call :: rest) =
      if drop ⟨s, call⟩ then (s.take call).sampler.without drop rest
      else call :: (s.take call).sampler.without drop rest := by
  cases dropped : drop ⟨s, call⟩ <;> simp [without, events, dropped]

theorem without_of_call (drop : Call → Bool) (s : Sampler) (run : List Call) :
    s.without (fun e => drop e.call) run = run.filter fun call => !drop call := by
  induction run generalizing s with
  | nil => rfl
  | cons call rest ih =>
    rw [without_cons, ih, List.filter_cons]
    cases drop call <;> rfl

/-- Without calls that change nothing and do nothing the others find the samplers that they found
before, and the same is left and done. -/
theorem run_without (drop : Event → Bool) (s : Sampler) (run : List Call)
    (inert : ∀ e ∈ s.events run, drop e = true →
      e.outcome.sampler = e.found ∧ e.outcome.effects = []) :
    (s.events (s.without drop run) = (s.events run).filter fun e => !drop e) ∧
      s.after (s.without drop run) = s.after run ∧
      s.effects (s.without drop run) = s.effects run := by
  induction run generalizing s with
  | nil => exact ⟨rfl, rfl, rfl⟩
  | cons call rest ih =>
    obtain ⟨here, later⟩ := List.forall_mem_cons.mp inert
    obtain ⟨events, last, effects⟩ := ih _ later
    rw [without_cons, Sampler.events, List.filter_cons, after_cons, effects_cons]
    by_cases dropped : drop ⟨s, call⟩ = true
    · -- The call is left out, so what follows has to start from `s` itself.
      obtain ⟨same, silent⟩ : (s.take call).sampler = s ∧ (s.take call).effects = [] :=
        here dropped
      rw [same] at events last effects ⊢
      simp only [dropped, Bool.not_true, Bool.false_eq_true, ↓reduceIte, silent, List.nil_append]
      exact ⟨events, last, effects⟩
    · have kept : s.events (call :: (s.take call).sampler.without drop rest) =
          ⟨s, call⟩ :: ((s.take call).sampler.events rest).filter fun e => !drop e :=
        congrArg (Event.mk s call :: ·) events
      simp only [dropped, Bool.not_false, Bool.false_eq_true, ↓reduceIte]
      exact ⟨kept, last, congrArg ((s.take call).effects ++ ·) effects⟩

end Sampler

end FlowGauge
