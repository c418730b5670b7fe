import FlowGauge.Sampler

/-! Runs of a sampler: callbacks in any order, each with whatever the surroundings answer to it.

`Course` says once what a callback can do. What holds along every run is proved by cases on it, with
`checkWindow_sampler` for what the window check does to the sampler. -/
namespace FlowGauge

/-- A callback with what the surroundings say while it runs. -/
structure Call where
  callback : Callback
  answers : Answers

/-- The time, told by a host that opens a sink and takes the summary. -/
def Answers.willing (time : Instant) : Answers :=
  ⟨time, time, .ok (.supplied "memory"), .ok ()⟩

namespace Callback

/-- What a callback sets the switch to; every other callback is a report. -/
def switch? : Callback → Option Bool
  | disable value => some value
  | _ => none

def isInput : Callback → Bool
  | input .. => true
  | _ => false

def isOutput : Callback → Bool
  | output _ => true
  | _ => false

/-- Only these look at the clock. -/
def checks (c : Callback) : Bool :=
  c.isInput || c.isOutput

end Callback

/-- Whether an input opens the window: its configuration resolves, and there is a sink for it. -/
def Opener.opens (opener : Opener) (config : JobConfig) (a : Answers) : Bool :=
  config.resolveSinkMode.isOk &&
    match opener with
    | .host => a.opening.isOk
    | .builtIn => (Sink.ofJob config).isOk

def Call.opens (opener : Opener) (call : Call) : Bool :=
  match call.callback with
  | .input _ config => opener.opens config call.answers
  | _ => false

/-- The summaries handed to a sink. -/
def handedOver (effects : List Effect) : List Summary :=
  effects.filterMap fun
    | .emitted _ summary => some summary
    | _ => none

@[simp] theorem handedOver_nil : handedOver [] = [] := rfl

@[simp] theorem handedOver_append (a b : List Effect) :
    handedOver (a ++ b) = handedOver a ++ handedOver b :=
  List.filterMap_append

@[simp] theorem handedOver_logged (event : LogEvent) (rest : List Effect) :
    handedOver (.logged event :: rest) = handedOver rest := rfl

@[simp] theorem handedOver_emit (sink : Sink) (summary : Summary) (delivery : Except Fault Unit) :
    handedOver (sink.emit summary delivery).effects = [summary] := by
  cases sink <;> rfl

namespace Sampler

def take (s : Sampler) (call : Call) : Outcome :=
  s.step call.callback call.answers

/-- The sampler after a run. -/
def after (s : Sampler) (run : List Call) : Sampler :=
  run.foldl (fun s call => (s.take call).sampler) s

/-- What each call of a run comes to. -/
def outcomes (s : Sampler) : List Call → List Outcome
  | [] => []
  | call :: rest => s.take call :: (s.take call).sampler.outcomes rest

/-- What a run does beside changing the sampler. -/
def effects (s : Sampler) (run : List Call) : List Effect :=
  (s.outcomes run).flatMap Outcome.effects

@[simp] theorem after_nil (s : Sampler) : s.after [] = s := rfl

@[simp] theorem after_cons (s : Sampler) (call : Call) (rest : List Call) :
    s.after (call :: rest) = (s.take call).sampler.after rest := rfl

@[simp] theorem effects_nil (s : Sampler) : s.effects [] = [] := rfl

@[simp] theorem effects_cons (s : Sampler) (call : Call) (rest : List Call) :
    s.effects (call :: rest) = (s.take call).effects ++ (s.take call).sampler.effects rest := rfl

/-- What every callback keeps, every run keeps. -/
theorem after_invariant {P : Sampler → Prop} (keeps : ∀ s call, P s → P (s.take call).sampler)
    {s : Sampler} (start : P s) (run : List Call) : P (s.after run) := by
  induction run generalizing s with
  | nil => exact start
  | cons call rest ih => exact ih (keeps s call start)

theorem handedOver_obtainSink (s : Sampler) (config : JobConfig) (a : Answers) :
    handedOver (s.obtainSink config a).2 = [] := by
  unfold obtainSink
  cases s.opener <;> rfl

theorem obtainSink_isOk (s : Sampler) (config : JobConfig) (a : Answers) :
    (s.obtainSink config a).1.isOk =
      match s.opener with
      | .host => a.opening.isOk
      | .builtIn => (Sink.ofJob config).isOk := by
  unfold obtainSink
  cases s.opener <;> rfl

/-- The calls of the host's opener that an input makes while the window is not open. -/
def openerCalls (s : Sampler) (config : JobConfig) (a : Answers) : List Effect :=
  match config.resolveSinkMode with
  | .error _ => []
  | .ok _ => (s.obtainSink config a).2

theorem handedOver_openerCalls (s : Sampler) (config : JobConfig) (a : Answers) :
    handedOver (s.openerCalls config a) = [] := by
  unfold openerCalls
  split
  · rfl
  · exact s.handedOver_obtainSink config a

theorem openWindow_refused {s : Sampler} {config : JobConfig} {a : Answers}
    (refused : s.opener.opens config a = false) (shape : Shape) :
    ∃ fault, s.openWindow shape config a = ⟨.error fault, s, s.openerCalls config a⟩ := by
  unfold openWindow openerCalls
  cases resolved : config.resolveSinkMode with
  | error fault => exact ⟨fault, rfl⟩
  | ok mode =>
    have unobtained : (s.obtainSink config a).1.isOk = false := by
      rw [obtainSink_isOk]
      simpa [Opener.opens, resolved, Except.isOk, Except.toBool] using refused
    cases obtained : s.obtainSink config a with
    | mk sink calls =>
      rw [obtained] at unobtained
      cases sink with
      | error fault => exact ⟨fault, rfl⟩
      | ok sink => cases unobtained

theorem openWindow_opens {s : Sampler} {config : JobConfig} {a : Answers}
    (opens : s.opener.opens config a = true) (shape : Shape) :
    ∃ mode sink, config.resolveSinkMode = .ok mode ∧ (s.obtainSink config a).1 = .ok sink ∧
      s.openWindow shape config a =
        ⟨.ok (), s.opened shape mode sink a.openedAt,
          s.openerCalls config a ++ [.logged (s.openedEvent mode sink)]⟩ := by
  unfold openWindow openerCalls
  obtain ⟨resolves, obtains⟩ := Bool.and_eq_true_iff.mp opens
  rw [← obtainSink_isOk] at obtains
  cases resolved : config.resolveSinkMode with
  | error fault => rw [resolved] at resolves; cases resolves
  | ok mode =>
    cases obtained : s.obtainSink config a with
    | mk sink calls =>
      rw [obtained] at obtains
      cases sink with
      | error fault => cases obtains
      | ok sink => exact ⟨mode, sink, rfl, rfl, rfl⟩

theorem due_iff (s : Sampler) (now : Instant) :
    s.due now = true ↔ s.start.toNat + window < now.toNat := by
  simp only [due, Instant.toNat_since, decide_eq_true_eq]
  omega

theorem checkWindow_closes {s : Sampler} {a : Answers} (observing : s.phase = .observing)
    (due : s.due a.checkedAt = true) :
    s.checkWindow a = s.close (a.checkedAt.since s.start) a.delivery := by
  simp [checkWindow, observing, due]

theorem checkWindow_idle {s : Sampler} {a : Answers}
    (stays : ¬(s.phase = .observing ∧ s.due a.checkedAt = true)) : s.checkWindow a = s.idle :=
  if_neg stays

theorem checkWindow_closed {s : Sampler} (closed : s.phase = .closed) (a : Answers) :
    s.checkWindow a = s.idle :=
  checkWindow_idle fun due => by simp [closed] at due

/-- Closing leaves its mark on the phase, on what the summary measures, and on the sink that takes
the summary. -/
theorem close_sampler (s : Sampler) (elapsed : Instant) (delivery : Except Fault Unit) :
    ∃ sink, (s.close elapsed delivery).sampler =
        { s with phase := .closed, summary := s.finalSummary elapsed, sink := sink } ∧
      (sink = s.sink ∨ ∃ before, s.sink = some before ∧
        sink = some (before.emit (s.finalSummary elapsed) delivery).sink) := by
  simp only [close, deliver]
  split
  · exact ⟨s.sink, rfl, .inl rfl⟩
  · split
    · exact ⟨s.sink, rfl, .inl rfl⟩
    · next sink present => exact ⟨_, rfl, .inr ⟨sink, present, rfl⟩⟩

theorem checkWindow_sampler (s : Sampler) (a : Answers) :
    (s.checkWindow a).sampler = s ∨
    s.phase = .observing ∧ s.due a.checkedAt = true ∧ ∃ sink,
      (s.checkWindow a).sampler =
        { s with
          phase := .closed
          summary := s.finalSummary (a.checkedAt.since s.start)
          sink := sink } ∧
      (sink = s.sink ∨ ∃ before, s.sink = some before ∧
        sink = some (before.emit (s.finalSummary (a.checkedAt.since s.start)) a.delivery).sink) := by
  by_cases closes : s.phase = .observing ∧ s.due a.checkedAt = true
  · rw [checkWindow_closes closes.1 closes.2]
    exact .inr ⟨closes.1, closes.2, s.close_sampler _ _⟩
  · rw [checkWindow_idle closes]
    exact .inl rfl

theorem checkWindow_keeps (s : Sampler) (a : Answers) :
    (s.checkWindow a).sampler.disabled = s.disabled ∧
    (s.checkWindow a).sampler.inputs = s.inputs ∧
    (s.checkWindow a).sampler.outputs = s.outputs := by
  obtain same | ⟨-, -, sink, closed, -⟩ := s.checkWindow_sampler a
  · rw [same]
    exact ⟨rfl, rfl, rfl⟩
  · rw [closed]
    exact ⟨rfl, rfl, rfl⟩

theorem observing_of {s : Sampler} (begun : s.phase ≠ .uninitialized) (unclosed : s.phase ≠ .closed) :
    s.phase = .observing := by
  cases phase : s.phase with
  | uninitialized => exact absurd phase begun
  | observing => rfl
  | closed => exact absurd phase unclosed

/-- The window check leaves an open or a closed window, and no unopened one. -/
theorem checkWindow_begun {s : Sampler} (begun : s.phase ≠ .uninitialized) (a : Answers) :
    (s.checkWindow a).sampler.phase ≠ .uninitialized := by
  obtain same | ⟨-, -, sink, closed, -⟩ := s.checkWindow_sampler a
  · rw [same]
    exact begun
  · rw [closed]
    simp

theorem handedOver_checkWindow (s : Sampler) (a : Answers) :
    handedOver (s.checkWindow a).effects =
      if s.phase = .observing ∧ s.due a.checkedAt = true ∧ s.summary.id?.isSome ∧ s.sink.isSome then
        [s.finalSummary (a.checkedAt.since s.start)]
      else [] := by
  by_cases closes : s.phase = .observing ∧ s.due a.checkedAt = true
  · have sameId : (s.finalSummary (a.checkedAt.since s.start)).id? = s.summary.id? := rfl
    rw [checkWindow_closes closes.1 closes.2]
    simp only [close, deliver, sameId, handedOver_logged]
    cases s.summary.id? <;> cases s.sink <;> simp [closes]
  · rw [checkWindow_idle closes]
    exact (if_neg fun all => closes ⟨all.1, all.2.1⟩).symm

theorem mem_handedOver_checkWindow {s : Sampler} {a : Answers} {summary : Summary}
    (handed : summary ∈ handedOver (s.checkWindow a).effects) :
    s.phase = .observing ∧ s.due a.checkedAt = true ∧
      summary = s.finalSummary (a.checkedAt.since s.start) := by
  rw [handedOver_checkWindow] at handed
  split at handed
  · next closes => exact ⟨closes.1, closes.2.1, List.mem_singleton.mp handed⟩
  · cases handed

/-- The ways a callback can go. The window is checked in three of them: by an output, by an input
that finds the window opened, and by the one that opens it. -/
inductive Course (s : Sampler) (a : Answers) : Callback → Outcome → Prop
  | skipped {report : Callback} (off : s.disabled = true) (isReport : report.switch? = none) :
      Course s a report s.idle
  | switched (value : Bool) : Course s a (.disable value) (s.setDisabled value).idle
  | joined (left right matched : Nat) (on : s.disabled = false) :
      Course s a (.join left right matched)
        (idle { s with selectivity := s.selectivity.recordJoin left right matched })
  | measured {state : WindowState} {length : Nat} (on : s.disabled = false)
      (legal : state.length = .ok length) :
      Course s a (.window state) (idle { s with selectivity := s.selectivity.recordWindow length })
  | misreported {state : WindowState} {fault : Fault} (on : s.disabled = false)
      (illegal : state.length = .error fault) : Course s a (.window state) ⟨.error fault, s, []⟩
  | early (shape : Shape) (on : s.disabled = false) (unopened : s.phase = .uninitialized) :
      Course s a (.output shape) s.idle
  | output (shape : Shape) (on : s.disabled = false) (begun : s.phase ≠ .uninitialized) :
      Course s a (.output shape) ((s.countOutput shape).checkWindow a)
  | refused (shape : Shape) (config : JobConfig) (fault : Fault) (on : s.disabled = false)
      (unopened : s.phase = .uninitialized) (opens : s.opener.opens config a = false) :
      Course s a (.input shape config) ⟨.error fault, s, s.openerCalls config a⟩
  | opening (shape : Shape) {config : JobConfig} {mode : SinkMode} {sink : Sink}
      (on : s.disabled = false) (unopened : s.phase = .uninitialized)
      (opens : s.opener.opens config a = true) (resolved : config.resolveSinkMode = .ok mode)
      (obtained : (s.obtainSink config a).1 = .ok sink) {outcome : Outcome}
      (checked : (s.opened shape mode sink a.openedAt).countInput.checkWindow a = outcome) :
      Course s a (.input shape config)
        { outcome with
          effects := (s.openerCalls config a ++ [.logged (s.openedEvent mode sink)]) ++
            outcome.effects }
  | input (shape : Shape) (config : JobConfig) (on : s.disabled = false)
      (begun : s.phase ≠ .uninitialized) :
      Course s a (.input shape config) (s.countInput.checkWindow a)

theorem take_course (s : Sampler) (call : Call) :
    Course s call.answers call.callback (s.take call) := by
  obtain ⟨callback, a⟩ := call
  cases off : s.disabled with
  | true =>
    cases callback with
    | disable value => exact .switched value
    | input | output | join | window =>
      simp only [take, step, reportInput, reportOutput, reportJoin, reportWindow, off, ↓reduceIte,
        Bool.true_or]
      exact .skipped off rfl
  | false =>
    have on : ¬s.disabled = true := by simp [off]
    cases callback with
    | disable value => exact .switched value
    | join left right matched =>
      simp only [take, step, reportJoin, if_neg on]
      exact .joined left right matched off
    | window state =>
      simp only [take, step, reportWindow, if_neg on]
      cases length : state.length with
      | error fault => exact .misreported off length
      | ok n => exact .measured off length
    | output shape =>
      by_cases unopened : s.phase = .uninitialized
      · simp only [take, step, reportOutput, off, unopened, decide_true, Bool.or_true, ↓reduceIte]
        exact .early shape off unopened
      · simp only [take, step, reportOutput, off, unopened, decide_false, Bool.or_false,
          Bool.false_eq_true, ↓reduceIte]
        exact .output shape off unopened
    | input shape config =>
      by_cases unopened : s.phase = .uninitialized
      · simp only [take, step, reportInput, off, unopened, Bool.false_eq_true, ↓reduceIte]
        cases opens : s.opener.opens config a with
        | false =>
          obtain ⟨fault, refusal⟩ := openWindow_refused opens shape
          rw [refusal]
          exact .refused shape config fault off unopened opens
        | true =>
          obtain ⟨mode, sink, resolved, obtained, opening⟩ := openWindow_opens opens shape
          rw [opening]
          exact .opening shape off unopened opens resolved obtained rfl
      · simp only [take, step, reportInput, off, unopened, Bool.false_eq_true, ↓reduceIte]
        exact .input shape config off unopened

theorem course_disabled {s : Sampler} {a : Answers} {c : Callback} {o : Outcome}
    (h : Course s a c o) : o.sampler.disabled = c.switch?.getD s.disabled := by
  cases h with
  | skipped off isReport => simp [idle, isReport]
  | switched | joined | measured | misreported | early | refused => rfl
  | output shape => exact ((s.countOutput shape).checkWindow_keeps a).1
  | input => exact (s.countInput.checkWindow_keeps a).1
  | opening shape on unopened opens resolved obtained outcome =>
    subst outcome
    exact (checkWindow_keeps _ a).1

/-- A sampler whose window has opened is never without one again. -/
theorem course_begun {s : Sampler} {a : Answers} {c : Callback} {o : Outcome}
    (h : Course s a c o) (begun : s.phase ≠ .uninitialized) :
    o.sampler.phase ≠ .uninitialized := by
  cases h with
  | skipped | switched | joined | measured | misreported => exact begun
  | early shape on unopened | refused shape config fault on unopened
  | opening shape on unopened => exact absurd unopened begun
  | output shape => exact checkWindow_begun (s := s.countOutput shape) begun a
  | input => exact checkWindow_begun (s := s.countInput) begun a

theorem after_begun {s : Sampler} (begun : s.phase ≠ .uninitialized) (run : List Call) :
    (s.after run).phase ≠ .uninitialized :=
  after_invariant (P := fun s => s.phase ≠ .uninitialized)
    (fun s call => course_begun (s.take_course call)) begun run

/-- What an open window is known by does not change any more. -/
theorem course_keeps_window {s : Sampler} {a : Answers} {c : Callback} {o : Outcome}
    (h : Course s a c o) (begun : s.phase ≠ .uninitialized) :
    o.sampler.start = s.start ∧ o.sampler.summary.description = s.summary.description := by
  have checked (t : Sampler) : (t.checkWindow a).sampler.start = t.start ∧
      (t.checkWindow a).sampler.summary.description = t.summary.description := by
    obtain same | ⟨-, -, sink, closed, -⟩ := t.checkWindow_sampler a
    · rw [same]
      exact ⟨rfl, rfl⟩
    · rw [closed]
      exact ⟨rfl, rfl⟩
  cases h with
  | skipped | switched | joined | measured | misreported => exact ⟨rfl, rfl⟩
  | early shape on unopened | refused shape config fault on unopened
  | opening shape on unopened => exact absurd unopened begun
  | output shape => exact checked (s.countOutput shape)
  | input => exact checked s.countInput

theorem course_counts {s : Sampler} {a : Answers} {c : Callback} {o : Outcome}
    (h : Course s a c o) : o.sampler.inputs + o.sampler.outputs ≤ s.inputs + s.outputs + 1 := by
  cases h with
  | skipped | switched | joined | measured | misreported | early | refused => exact Nat.le_succ _
  | output shape =>
    obtain ⟨-, inputs, outputs⟩ := (s.countOutput shape).checkWindow_keeps a
    rw [inputs, outputs]
    exact Nat.le_refl _
  | input =>
    obtain ⟨-, inputs, outputs⟩ := s.countInput.checkWindow_keeps a
    rw [inputs, outputs]
    exact Nat.le_of_eq (Nat.add_right_comm _ _ _)
  | opening shape on unopened opens resolved obtained outcome =>
    subst outcome
    simp only [checkWindow_keeps]
    exact Nat.le_of_eq (Nat.add_right_comm _ _ _)

/-- No run is too long for counts of 64 bits unless it has that many calls. -/
theorem counts_le_length (kind : NodeKind) (seed : List (String × Scalar)) (opener : Opener)
    (run : List Call) :
    ((new kind seed opener).after run).inputs + ((new kind seed opener).after run).outputs ≤
      run.length := by
  suffices grows : ∀ s : Sampler,
      (s.after run).inputs + (s.after run).outputs ≤ s.inputs + s.outputs + run.length by
    simpa [new] using grows (new kind seed opener)
  induction run with
  | nil => exact fun s => Nat.le_refl _
  | cons call rest ih =>
    intro s
    have step := course_counts (s.take_course call)
    have rest := ih (s.take call).sampler
    rw [after_cons, List.length_cons]
    omega

end Sampler

end FlowGauge
