import FlowGauge.Proofs.Sampler.Account
import Mathlib.Data.List.TakeWhile

/-! An opening succeeds or changes nothing, and is tried again with every input until it succeeds.

What a host's opener does inside is its own affair: each call of it is answered as the host likes.
How often it is called is not. `upToOpening` reads the inputs that call it off a run. -/
namespace FlowGauge

/-- Why an input opens no window: its configuration is at fault, or whoever opens the sink. -/
inductive Opener.Refuses (config : JobConfig) (a : Answers) (fault : Fault) : Opener → Prop
  | misconfigured (opener : Opener) (unresolved : config.resolveSinkMode = .error fault) :
      Refuses config a fault opener
  | host {mode : SinkMode} (resolved : config.resolveSinkMode = .ok mode)
      (failed : a.opening = .error fault) : Refuses config a fault .host
  | builtIn {mode : SinkMode} (resolved : config.resolveSinkMode = .ok mode)
      (failed : Sink.ofJob config = .error fault) : Refuses config a fault .builtIn

/-- What a call asks of a host's opener if it finds the window unopened: an input whose
configuration resolves asks for one sink. -/
def Call.requests (opener : Opener) (call : Call) : List JobConfig :=
  match opener, call.callback with
  | .host, .input _ config => if config.resolveSinkMode.isOk then [config] else []
  | _, _ => []

/-- The configurations that a host has been asked to open a sink for. -/
def asked (effects : List Effect) : List JobConfig :=
  effects.filterMap fun
    | .openerCalled config => some config
    | _ => none

/-- The calls up to and including the first one that opens the window. -/
def upToOpening (opener : Opener) : List Call → List Call
  | [] => []
  | call :: rest => call :: if call.opens opener then [] else upToOpening opener rest

@[simp] theorem asked_nil : asked [] = [] := rfl

@[simp] theorem asked_append (a b : List Effect) : asked (a ++ b) = asked a ++ asked b :=
  List.filterMap_append

@[simp] theorem asked_logged (event : LogEvent) (rest : List Effect) :
    asked (.logged event :: rest) = asked rest := rfl

@[simp] theorem asked_map_openerCalled (configs : List JobConfig) :
    asked (configs.map .openerCalled) = configs := by
  induction configs with
  | nil => rfl
  | cons config rest ih => exact congrArg (config :: ·) ih

@[simp] theorem asked_emit (sink : Sink) (summary : Summary) (delivery : Except Fault Unit) :
    asked (sink.emit summary delivery).effects = [] := by
  cases sink <;> rfl

namespace Sampler

theorem openerCalls_eq (s : Sampler) (shape : Shape) (config : JobConfig) (a : Answers) :
    s.openerCalls config a =
      (Call.requests s.opener ⟨.input shape config, a⟩).map Effect.openerCalled := by
  unfold openerCalls obtainSink Call.requests
  cases resolved : config.resolveSinkMode <;> cases s.opener <;>
    simp [resolved, Except.isOk, Except.toBool]

theorem asked_openerCalls (s : Sampler) (shape : Shape) (config : JobConfig) (a : Answers) :
    asked (s.openerCalls config a) = Call.requests s.opener ⟨.input shape config, a⟩ := by
  rw [s.openerCalls_eq shape, asked_map_openerCalled]

theorem asked_checkWindow (s : Sampler) (a : Answers) : asked (s.checkWindow a).effects = [] := by
  by_cases closes : s.phase = .observing ∧ s.due a.checkedAt = true
  · rw [checkWindow_closes closes.1 closes.2]
    simp only [close, deliver, asked_logged]
    split
    · rfl
    · split
      · rfl
      · exact asked_emit _ _ _
  · rw [checkWindow_idle closes]
    rfl

theorem openWindow_refuses {s : Sampler} {config : JobConfig} {a : Answers} {fault : Fault}
    (refuses : s.opener.Refuses config a fault) (shape : Shape) :
    s.openWindow shape config a = ⟨.error fault, s, s.openerCalls config a⟩ := by
  unfold openWindow openerCalls obtainSink
  generalize s.opener = opener at refuses
  cases refuses with
  | misconfigured _ unresolved => rw [unresolved]
  | host resolved failed => simp only [resolved, failed]
  | builtIn resolved failed => simp only [resolved, failed]

theorem take_refuses {s : Sampler} {config : JobConfig} {a : Answers} {fault : Fault}
    (unopened : s.phase = .uninitialized) (on : s.disabled = false)
    (refuses : s.opener.Refuses config a fault) (shape : Shape) :
    s.take ⟨.input shape config, a⟩ = ⟨.error fault, s, s.openerCalls config a⟩ := by
  have refusal := openWindow_refuses refuses shape
  simp only [take, step, reportInput, on, unopened, Bool.false_eq_true, ↓reduceIte, refusal]

theorem course_asked {s : Sampler} {a : Answers} {c : Callback} {o : Outcome}
    (h : Course s a c o) :
    asked o.effects =
      if s.disabled = false ∧ s.phase = .uninitialized then Call.requests s.opener ⟨c, a⟩
      else [] := by
  have silent {c : Callback} (other : ∀ shape config, c ≠ .input shape config) :
      Call.requests s.opener ⟨c, a⟩ = [] := by
    cases c with
    | input shape config => exact absurd rfl (other shape config)
    | output | join | window | disable => cases s.opener <;> rfl
  cases h with
  | skipped off isReport => simp [idle, off]
  | switched | joined | measured | misreported | early => rw [silent (by simp)]; simp [idle]
  | output shape on begun => simp [asked_checkWindow, begun]
  | input shape config on begun => simp [asked_checkWindow, begun]
  | refused shape config fault on unopened opens =>
    rw [if_pos ⟨on, unopened⟩]
    exact s.asked_openerCalls shape config a
  | opening shape on unopened opens resolved obtained checked =>
    subst checked
    rw [if_pos ⟨on, unopened⟩]
    simp [asked_checkWindow, s.asked_openerCalls shape]

/-- What a callback heard by a sampler with no window comes to: either the window opens, or nothing
that a later opening depends on is different. -/
theorem course_unopened {s : Sampler} {a : Answers} {c : Callback} {o : Outcome}
    (h : Course s a c o) (unopened : s.phase = .uninitialized) :
    if s.disabled = false ∧ Call.opens s.opener ⟨c, a⟩ = true then
      o.sampler.phase ≠ .uninitialized
    else o.sampler.phase = .uninitialized ∧ o.sampler.opener = s.opener := by
  cases h with
  | skipped off isReport => simp [idle, off, unopened]
  | switched | joined | measured | misreported | early =>
    rw [if_neg (fun opens => by cases opens.2)]
    exact ⟨unopened, rfl⟩
  | output shape on begun | input shape config on begun => exact absurd unopened begun
  | refused shape config fault on _ opens =>
    have shut : ¬(s.disabled = false ∧ Call.opens s.opener ⟨.input shape config, a⟩ = true) := by
      simp [Call.opens, opens]
    rw [if_neg shut]
    exact ⟨unopened, rfl⟩
  | opening shape on _ opens resolved obtained checked =>
    subst checked
    rw [if_pos ⟨on, opens⟩]
    exact checkWindow_begun (by simp [opened, countInput]) a

/-- A call that is not heard asks for nothing and opens nothing. -/
theorem course_unheard {s : Sampler} {a : Answers} {c : Callback} {o : Outcome}
    (h : Course s a c o) (unheard : heard s.disabled [⟨c, a⟩] = [])
    (unopened : s.phase = .uninitialized) :
    asked o.effects = [] ∧ o.sampler.phase = .uninitialized ∧ o.sampler.opener = s.opener := by
  cases h with
  | skipped | switched | joined | measured | misreported | early => exact ⟨rfl, unopened, rfl⟩
  | output shape on | input shape config on | refused shape config fault on
  | opening shape on =>
    rw [heard_report on rfl] at unheard
    cases unheard

theorem asked_begun {s : Sampler} (begun : s.phase ≠ .uninitialized) (run : List Call) :
    asked (s.effects run) = [] := by
  induction run generalizing s with
  | nil => rfl
  | cons call rest ih =>
    have course := s.take_course call
    have silent : asked (s.take call).effects = [] := by
      rw [course_asked course]
      exact if_neg fun unopened => begun unopened.2
    rw [effects_cons, asked_append, silent, ih (course_begun course begun), List.nil_append]

/-- The host is asked once by each input that is heard with a configuration that resolves, until the
window opens. -/
theorem asked_effects {s : Sampler} (unopened : s.phase = .uninitialized) (run : List Call) :
    asked (s.effects run) =
      (upToOpening s.opener (heard s.disabled run)).flatMap (Call.requests s.opener) := by
  induction run generalizing s with
  | nil => rfl
  | cons call rest ih =>
    have course := s.take_course call
    have now := course_asked course
    have next := course_unopened course unopened
    rw [effects_cons, asked_append, s.heard_cons]
    -- A call that is not heard is not in the history either, so only one that is heard matters.
    by_cases hears : s.disabled = false ∧ call.callback.switch? = none
    · rw [if_pos ⟨hears.1, unopened⟩] at now
      rw [now, heard_report hears.1 hears.2, List.singleton_append, upToOpening, List.flatMap_cons]
      by_cases opens : call.opens s.opener = true
      · rw [if_pos ⟨hears.1, opens⟩] at next
        rw [asked_begun next, if_pos opens, List.flatMap_nil]
      · rw [if_neg fun h => opens h.2] at next
        rw [ih next.1, next.2, if_neg opens]
    · have deaf : heard s.disabled [call] = [] := heard_nothing hears
      obtain ⟨silent, still, same⟩ := course_unheard course deaf unopened
      rw [silent, deaf, ih still, same]
      rfl

theorem unopened_iff (kind : NodeKind) (seed : List (String × Scalar)) (opener : Opener)
    (run : List Call) :
    ((new kind seed opener).after run).phase = .uninitialized ↔
      ∀ call ∈ heard false run, call.opens opener = false := by
  have tally : Tally kind seed opener (heard false run) _ := Tally.new.after run
  rw [tally.unopened, sinceOpening, List.dropWhile_eq_nil_iff]
  simp

/-- **All or nothing, until it is all.** As long as no call has opened the window, a fresh sampler
is unopened. An input that it hears then and that cannot open the window returns the very fault, and
leaves the sampler as it was; a host's opener is called once by it if the configuration resolves.
Over a whole run the opener is called by each input heard with a configuration that resolves, in
order, up to the first that opens the window, and by no other call. -/
theorem opening_atomic_and_retried (kind : NodeKind) (seed : List (String × Scalar))
    (opener : Opener) (run : List Call) :
    let fresh := new kind seed opener
    let s := fresh.after run
    (s.phase = .uninitialized ↔ ∀ call ∈ heard false run, call.opens opener = false) ∧
    (s.phase = .uninitialized → s.disabled = false →
      ∀ shape config a fault, opener.Refuses config a fault →
        let call : Call := ⟨.input shape config, a⟩
        s.take call = ⟨.error fault, s, (call.requests opener).map .openerCalled⟩) ∧
    (∀ call, asked (s.take call).effects =
      if s.disabled = false ∧ s.phase = .uninitialized then call.requests opener else []) ∧
    asked (fresh.effects run) =
      (upToOpening opener (heard false run)).flatMap (Call.requests opener) := by
  intro fresh s
  have tally : Tally kind seed opener (heard false run) s := Tally.new.after run
  refine ⟨unopened_iff kind seed opener run, ?_, ?_, asked_effects rfl run⟩
  · intro unopened on shape config a fault refuses call
    have same : s.opener = opener := tally.sameOpener unopened
    rw [← same] at refuses ⊢
    rw [take_refuses unopened on refuses shape, s.openerCalls_eq shape]
  · intro call
    rw [course_asked (s.take_course call)]
    by_cases unopened : s.phase = .uninitialized
    · rw [tally.sameOpener unopened]
    · simp [unopened]

end Sampler

end FlowGauge
