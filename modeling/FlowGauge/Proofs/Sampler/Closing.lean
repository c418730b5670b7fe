import FlowGauge.Proofs.Decimal.Rounding
import FlowGauge.Proofs.Sampler.Opening
import FlowGauge.Proofs.Sampler.SinkChoice

/-! Closing divides by the time that has passed and by the number of inputs, and it needs the sink.

Nothing in it guards against a zero or a missing sink. It is safe because a window is only checked
when it is open and the report that asks for the check has been counted: `Checks` has the sampler at
that moment, and `Tally` what it has counted. -/
namespace FlowGauge

/-- What closing returns if there is no sink. -/
def Fault.noSink : Fault :=
  .sink "sink was never opened"

theorem WindowState.length_error {state : WindowState} {fault : Fault}
    (illegal : state.length = .error fault) : ∃ text, fault = .invalidWindowState text := by
  induction state with
  | number | sequence => cases illegal
  | mapping =>
    injection illegal with same
    exact ⟨_, same.symm⟩
  | json value =>
    cases value with
    | integer | float | list => cases illegal
    | null | bool | text | object =>
      injection illegal with same
      exact ⟨_, same.symm⟩
  | scalar value =>
    cases value with
    | integer | float => cases illegal
    | null | bool | text =>
      injection illegal with same
      exact ⟨_, same.symm⟩
  | reference inner ih => exact ih illegal

theorem JobConfig.resolveSinkMode_ne_noSink (config : JobConfig) :
    config.resolveSinkMode ≠ .error .noSink := by
  unfold resolveSinkMode
  split
  · split
    · simp [Fault.noSink]
    · next remote _ =>
      unfold RemoteSinkConfig.validate
      split
      · simp [bind, Except.bind, Fault.noSink]
      · split <;> simp [bind, Except.bind, pure, Except.pure, Fault.noSink]
  · simp

/-- Only a host can claim that the sink was never opened when it is asked to open it. -/
theorem Opener.Refuses.noSink {opener : Opener} {config : JobConfig} {a : Answers}
    (refuses : opener.Refuses config a .noSink) : a.opening = .error .noSink := by
  cases refuses with
  | misconfigured _ unresolved => exact absurd unresolved config.resolveSinkMode_ne_noSink
  | host _ failed => exact failed
  | builtIn resolved failed =>
    obtain ⟨sink, found, -, -⟩ := Sink.ofJob_decides resolved
    rw [found] at failed
    cases failed

theorem Opener.refuses_of_not_opens {opener : Opener} {config : JobConfig} {a : Answers}
    (shut : opener.opens config a = false) : ∃ fault, opener.Refuses config a fault := by
  cases resolved : config.resolveSinkMode with
  | error fault => exact ⟨fault, .misconfigured opener resolved⟩
  | ok mode =>
    cases opener with
    | builtIn => simp [opens_builtIn, resolved, Except.isOk, Except.toBool] at shut
    | host =>
      cases answer : a.opening with
      | error fault => exact ⟨fault, .host resolved answer⟩
      | ok sink => simp [Opener.opens, resolved, answer, Except.isOk, Except.toBool] at shut

/-- The first report of an open window is an input, so at least one input has been counted. -/
theorem Tally.inputs_pos {kind : NodeKind} {seed : List (String × Scalar)} {opener : Opener}
    {calls : List Call} {s : Sampler} (h : Tally kind seed opener calls s)
    (begun : s.phase ≠ .uninitialized) : 1 ≤ s.inputs := by
  cases window : sinceOpening opener calls with
  | nil => exact absurd window (h.begun begun)
  | cons first later =>
    obtain ⟨-, -, -, opens⟩ := sinceOpening_cons window
    obtain ⟨callback, answers⟩ := first
    cases callback with
    | output | join | window | disable => cases opens
    | input shape config =>
      rw [h.inputs, window]
      exact Nat.le_add_left 1 _

namespace Sampler

/-- The window check of a callback finds `t`: the window is open by then, and the report counted. -/
inductive Checks (s : Sampler) (a : Answers) : Callback → Sampler → Prop
  | output (shape : Shape) (on : s.disabled = false) (begun : s.phase ≠ .uninitialized) :
      Checks s a (.output shape) (s.countOutput shape)
  | input (shape : Shape) (config : JobConfig) (on : s.disabled = false)
      (begun : s.phase ≠ .uninitialized) : Checks s a (.input shape config) s.countInput
  | opening (shape : Shape) {config : JobConfig} {mode : SinkMode} {sink : Sink}
      (on : s.disabled = false) (unopened : s.phase = .uninitialized)
      (opens : s.opener.opens config a = true) (resolved : config.resolveSinkMode = .ok mode)
      (obtained : (s.obtainSink config a).1 = .ok sink) :
      Checks s a (.input shape config) (s.opened shape mode sink a.openedAt).countInput

/-- A call has `t` close its window, `elapsed` after it opened. -/
structure Closes (s : Sampler) (call : Call) (t : Sampler) (elapsed : Instant) : Prop where
  checks : s.Checks call.answers call.callback t
  observing : t.phase = .observing
  due : t.due call.answers.checkedAt = true
  elapsed_eq : elapsed = call.answers.checkedAt.since t.start

/-- What the check comes to is what the callback comes to, effects of an opening apart. -/
theorem Checks.take {s t : Sampler} {a : Answers} {c : Callback} (h : s.Checks a c t) :
    (s.take ⟨c, a⟩).result = (t.checkWindow a).result ∧
      (s.take ⟨c, a⟩).sampler = (t.checkWindow a).sampler := by
  cases h with
  | output shape on begun =>
    simp [Sampler.take, step, reportOutput, on, begun]
  | input shape config on begun =>
    simp [Sampler.take, step, reportInput, takeInput, on, begun]
  | opening shape on unopened opens resolved obtained =>
    obtain ⟨mode, sink, resolved', obtained', opening⟩ := openWindow_opens opens shape
    rw [resolved] at resolved'
    rw [obtained] at obtained'
    cases resolved'
    cases obtained'
    simp [Sampler.take, step, reportInput, takeInput, on, unopened, opening]

theorem Checks.tally {s t : Sampler} {a : Answers} {c : Callback} (h : s.Checks a c t)
    {kind : NodeKind} {seed : List (String × Scalar)} {opener : Opener} {calls : List Call}
    (tally : Tally kind seed opener calls s) : Tally kind seed opener (calls ++ [⟨c, a⟩]) t := by
  cases h with
  | output shape on begun => exact tally.countOutput begun shape a
  | input shape config on begun => exact tally.countInput begun shape config a
  | opening shape on unopened opens => exact tally.opened unopened opens shape _ _

theorem Checks.begun {s t : Sampler} {a : Answers} {c : Callback} (h : s.Checks a c t) :
    t.phase ≠ .uninitialized := by
  cases h with
  | output shape on begun | input shape config on begun => exact begun
  | opening => simp [opened, countInput]

theorem Checks.supplied {s t : Sampler} {a : Answers} {c : Callback} (h : s.Checks a c t)
    (supplied : s.Supplied) : t.sink.isSome = true := by
  cases h with
  | output shape on begun | input shape config on begun => exact supplied begun
  | opening => rfl

theorem Checks.counts {s t : Sampler} {a : Answers} {c : Callback} (h : s.Checks a c t) :
    t.inputs + t.outputs = s.inputs + s.outputs + 1 := by
  cases h with
  | output => rfl
  | input | opening => exact Nat.add_right_comm _ _ _

theorem closesOn_iff (s : Sampler) (call : Call) :
    s.ClosesOn call ↔ ∃ t elapsed, s.Closes call t elapsed := by
  obtain ⟨callback, a⟩ := call
  constructor
  · rintro ⟨on, closes⟩
    cases callback with
    | join | window | disable => exact closes.elim
    | output shape =>
      obtain ⟨observing, outlasts⟩ := closes
      exact ⟨_, _, .output shape on (by simp [observing]), observing, (due_iff _ _).mpr outlasts,
        rfl⟩
    | input shape config =>
      rcases closes with ⟨observing, outlasts⟩ | ⟨unopened, opens, outlasts⟩
      · exact ⟨_, _, .input shape config on (by simp [observing]), observing,
          (due_iff _ _).mpr outlasts, rfl⟩
      · obtain ⟨mode, sink, resolved, obtained, -⟩ := openWindow_opens opens shape
        exact ⟨_, _, .opening shape on unopened opens resolved obtained, rfl,
          (due_iff _ _).mpr outlasts, rfl⟩
  · rintro ⟨t, elapsed, checks, observing, due, -⟩
    have outlasts := (due_iff _ _).mp due
    cases checks with
    | output shape on => exact ⟨on, observing, outlasts⟩
    | input shape config on => exact ⟨on, .inl ⟨observing, outlasts⟩⟩
    | opening shape on unopened opens => exact ⟨on, .inr ⟨unopened, opens, outlasts⟩⟩

theorem close_result_ne_noSink {s : Sampler} (present : s.sink.isSome = true) (elapsed : Instant)
    (delivery : Except Fault Unit) : (s.close elapsed delivery).result ≠ .error .noSink := by
  obtain ⟨sink, some⟩ := Option.isSome_iff_exists.mp present
  simp only [close, deliver, some]
  split
  · simp
  · cases (sink.emit (s.finalSummary elapsed) delivery).result <;> simp [inContext, Fault.noSink]

theorem checkWindow_result_ne_noSink {s : Sampler} (present : s.sink.isSome = true) (a : Answers) :
    (s.checkWindow a).result ≠ .error .noSink := by
  by_cases closes : s.phase = .observing ∧ s.due a.checkedAt = true
  · rw [checkWindow_closes closes.1 closes.2]
    exact close_result_ne_noSink present _ _
  · rw [checkWindow_idle closes]
    simp [idle]

/-- A callback that says so has it from the host's opener. -/
theorem take_noSink {s : Sampler} (supplied : s.Supplied) {call : Call}
    (told : (s.take call).result = .error .noSink) : call.answers.opening = .error .noSink := by
  obtain ⟨callback, a⟩ := call
  have course := s.take_course ⟨callback, a⟩
  generalize taken : s.take ⟨callback, a⟩ = o at course told
  cases course with
  | skipped | switched | joined | measured | early => cases told
  | misreported on illegal =>
    obtain ⟨text, rfl⟩ := WindowState.length_error illegal
    cases told
  | output shape on begun =>
    exact absurd told (checkWindow_result_ne_noSink (s := s.countOutput shape) (supplied begun) a)
  | input shape config on begun =>
    exact absurd told (checkWindow_result_ne_noSink (s := s.countInput) (supplied begun) a)
  | opening shape on unopened opens resolved obtained checked =>
    subst checked
    exact absurd told (checkWindow_result_ne_noSink rfl a)
  | refused shape config fault on unopened opens =>
    obtain ⟨known, refuses⟩ := Opener.refuses_of_not_opens opens
    rw [take_refuses unopened on refuses shape] at taken
    cases taken
    cases told
    exact refuses.noSink

/-- **Closing is safe.** The calls that close the window are those that find it open for more than
its length, and each closes a sampler that has counted an input and has its sink: the time and the
number of inputs that it divides by are not zero, its counts fit 64 bits, and it never complains of
a sink that was not opened. A call that returns this complaint has it from the host's opener. -/
theorem closing_safe (kind : NodeKind) (seed : List (String × Scalar)) (opener : Opener)
    (run : List Call) (call : Call) (short : run.length + 1 < 2 ^ 64) :
    let s := (new kind seed opener).after run
    let o := s.take call
    (s.phase ≠ .closed ∧ o.sampler.phase = .closed ↔ ∃ t elapsed, s.Closes call t elapsed) ∧
    (∀ t elapsed, s.Closes call t elapsed →
      o.result = (t.close elapsed call.answers.delivery).result ∧
      o.sampler = (t.close elapsed call.answers.delivery).sampler ∧
      window < elapsed.toNat ∧ (elapsed.toFloat == 0) = false ∧
      1 ≤ t.inputs ∧ t.inputs < 2 ^ 64 ∧ t.outputs < 2 ^ 64 ∧
      (Float.ofNat t.inputs == 0) = false ∧
      t.sink.isSome = true ∧ o.result ≠ .error .noSink) ∧
    (o.result = .error .noSink → call.answers.opening = .error .noSink) := by
  intro s o
  have supplied : s.Supplied := after_supplied kind seed opener run
  have tally : Tally kind seed opener (heard false run) s := Tally.new.after run
  refine ⟨(course_closes (s.take_course call)).trans (s.closesOn_iff call), ?_,
    take_noSink supplied⟩
  rintro t elapsed ⟨checks, observing, due, rfl⟩
  obtain ⟨result, sampler⟩ := checks.take
  rw [checkWindow_closes observing due] at result sampler
  have present : t.sink.isSome = true := checks.supplied supplied
  have inputs : 1 ≤ t.inputs := (checks.tally tally).inputs_pos checks.begun
  have counts : t.inputs + t.outputs ≤ run.length + 1 := by
    rw [checks.counts]
    exact Nat.succ_le_succ (counts_le_length kind seed opener run)
  have long : window < (call.answers.checkedAt.since t.start).toNat := of_decide_eq_true due
  refine ⟨result, sampler, long, ?_, inputs, by omega, by omega, ?_, present, ?_⟩
  · have word (n : UInt64) : n.toNat.toUInt64 = n := UInt64.ofNat_toNat
    have positive := Decimal.upTo_toFloat (Nat.zero_lt_of_lt long) (UInt64.toNat_lt _)
    rw [word] at positive
    exact positive.beq_zero
  · exact (Decimal.upTo_ofNat inputs (by omega)).beq_zero
  · exact result ▸ close_result_ne_noSink present _ _

/-- The clock goes back before it passes the end of the window, and two outputs come before the
first input. -/
theorem closing_safe_of_late_input :
    let run : List Call :=
      [⟨.output (.tuple 1), .willing 40000000000⟩, ⟨.output (.tuple 1), .willing 50000000000⟩,
        ⟨.input (.tuple 2) .localOnly, .willing 7⟩, ⟨.output (.tuple 1), .willing 3⟩]
    let call : Call := ⟨.output (.tuple 1), .willing 30000000008⟩
    run.length + 1 < 2 ^ 64 ∧
      ∃ t elapsed, ((new .filter [] .host).after run).Closes call t elapsed ∧
        window < elapsed.toNat ∧ 1 ≤ t.inputs := by
  intro run call
  have short : run.length + 1 < 2 ^ 64 := by decide
  obtain ⟨closes, safe, -⟩ := closing_safe .filter [] .host run call short
  have closing : ((new .filter [] .host).after run).phase ≠ .closed ∧
      (((new .filter [] .host).after run).take call).sampler.phase = .closed := by
    subst run call
    exact ⟨by decide, rfl⟩
  obtain ⟨t, elapsed, found⟩ := closes.mp closing
  obtain ⟨-, -, long, -, inputs, -⟩ := safe t elapsed found
  exact ⟨short, t, elapsed, found, long, inputs⟩

end Sampler

end FlowGauge
