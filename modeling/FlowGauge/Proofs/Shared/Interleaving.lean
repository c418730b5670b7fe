import FlowGauge.Proofs.Sampler.Account
import FlowGauge.Sampler.Shared

/-! Threads that report to one sampler with an open window, each call under the lock.

Which thread's report closes the window depends on the order in which the threads get the lock. What
is counted, whether the window closes and how often the summary is handed over does not. -/
namespace FlowGauge

/-- `run` takes from the threads one call at a time, always the next of some thread. -/
inductive Interleaving {α : Type} : List (List α) → List α → Prop
  | done {threads : List (List α)} (idle : ∀ thread ∈ threads, thread = []) :
      Interleaving threads []
  | turn {before after : List (List α)} {rest run : List α} (next : α)
      (others : Interleaving (before ++ rest :: after) run) :
      Interleaving (before ++ (next :: rest) :: after) (next :: run)

theorem Interleaving.perm {α : Type} {threads : List (List α)} {run : List α}
    (h : Interleaving threads run) : run.Perm threads.flatten := by
  induction h with
  | done idle =>
    have empty := List.flatten_eq_nil_iff.mpr idle
    rw [empty]
  | turn next others ih =>
    simp only [List.flatten_append, List.flatten_cons, List.cons_append] at ih ⊢
    exact (ih.cons next).trans List.perm_middle.symm

/-- The calls of `callbacks`, all answered in one way: the time stands still, and the sink, which is
asked once at most, has one answer. -/
def Answers.calls (a : Answers) (callbacks : List Callback) : List Call :=
  callbacks.map fun c => ⟨c, a⟩

theorem Answers.calls_report (a : Answers) {callbacks : List Callback}
    (reports : ∀ c ∈ callbacks, c.switch? = none) :
    ∀ call ∈ a.calls callbacks, call.callback.switch? = none := by
  intro call member
  obtain ⟨c, among, rfl⟩ := List.mem_map.mp member
  exact reports c among

def faults : Except Fault Unit → List Fault
  | .ok () => []
  | .error fault => [fault]

/-- What inputs and outputs return beside success. -/
def failures (callbacks : List Callback) (results : List (Except Fault Unit)) : List Fault :=
  (callbacks.zip results).flatMap fun e => if e.1.checks then faults e.2 else []

/-- The faults of a sink that answers `delivery` to whatever is handed to it. -/
def refusals (delivery : Except Fault Unit) (effects : List Effect) : List Fault :=
  effects.flatMap fun
    | .emitted sink summary => faults (sink.emit summary delivery).result
    | _ => []

@[simp] theorem refusals_nil (delivery : Except Fault Unit) : refusals delivery [] = [] := rfl

@[simp] theorem refusals_append (delivery : Except Fault Unit) (a b : List Effect) :
    refusals delivery (a ++ b) = refusals delivery a ++ refusals delivery b :=
  List.flatMap_append

@[simp] theorem refusals_logged (delivery : Except Fault Unit) (event : LogEvent)
    (rest : List Effect) : refusals delivery (.logged event :: rest) = refusals delivery rest := rfl

@[simp] theorem refusals_emit (sink : Sink) (summary : Summary) (delivery : Except Fault Unit) :
    refusals delivery (sink.emit summary delivery).effects =
      faults (sink.emit summary delivery).result := by
  cases sink <;> simp [refusals, Sink.emit, faults]

/-- No more summaries are refused than are handed over. -/
theorem length_refusals_le (delivery : Except Fault Unit) (effects : List Effect) :
    (refusals delivery effects).length ≤ (handedOver effects).length := by
  induction effects with
  | nil => exact Nat.le_refl _
  | cons effect rest ih =>
    cases effect with
    | openerCalled | logged => exact ih
    | emitted sink summary =>
      have one : (faults (sink.emit summary delivery).result).length ≤ 1 := by
        cases (sink.emit summary delivery).result <;> simp [faults]
      have split : refusals delivery (.emitted sink summary :: rest) =
          faults (sink.emit summary delivery).result ++ refusals delivery rest := rfl
      have handed : handedOver (.emitted sink summary :: rest) = summary :: handedOver rest := rfl
      rw [split, handed, List.length_append, List.length_cons]
      omega

namespace Sampler

/-- How a sampler tells that its summary was refused. -/
def told (s : Sampler) (fault : Fault) : Fault :=
  match s.summary.id? with
  | some id => .withContext (emissionContext id) fault
  | none => fault

theorem closesOn_observing {s : Sampler} {c : Callback} {a : Answers}
    (observing : s.phase = .observing) (on : s.disabled = false) :
    s.ClosesOn ⟨c, a⟩ ↔ c.checks = true ∧ Outlasts s.start a.checkedAt := by
  cases c <;> simp [ClosesOn, observing, on, Callback.checks, Callback.isInput, Callback.isOutput]

/-- A window check fails if and only if the sink refuses the summary, and with its fault. -/
theorem faults_checkWindow {s : Sampler} (supplied : s.sink.isSome) (a : Answers) :
    faults (s.checkWindow a).result =
      (refusals a.delivery (s.checkWindow a).effects).map s.told := by
  by_cases closes : s.phase = .observing ∧ s.due a.checkedAt = true
  · rw [checkWindow_closes closes.1 closes.2]
    obtain ⟨sink, present⟩ := Option.isSome_iff_exists.mp supplied
    have sameId : (s.finalSummary (a.checkedAt.since s.start)).id? = s.summary.id? := rfl
    simp only [close, deliver, sameId, present, refusals_logged]
    cases id : s.summary.id? with
    | none => rfl
    | some id =>
      simp only [refusals_emit]
      cases (sink.emit (s.finalSummary (a.checkedAt.since s.start)) a.delivery).result with
      | ok => rfl
      | error fault => simp [faults, inContext, told, id]
  · rw [checkWindow_idle closes]
    rfl

theorem course_failures {s : Sampler} {a : Answers} {c : Callback} {o : Outcome}
    (h : Course s a c o) (begun : s.phase ≠ .uninitialized) (supplied : s.Supplied) :
    (if c.checks then faults o.result else []) = (refusals a.delivery o.effects).map s.told := by
  cases h with
  | skipped => simp [idle, faults]
  | switched | joined | measured | misreported => rfl
  | early shape on unopened | refused shape config fault on unopened
  | opening shape on unopened => exact absurd unopened begun
  | output shape => exact faults_checkWindow (s := s.countOutput shape) (supplied begun) a
  | input => exact faults_checkWindow (s := s.countInput) (supplied begun) a

theorem told_congr {s t : Sampler} (same : t.summary.description = s.summary.description) :
    t.told = s.told := by
  funext fault
  simp only [told, Summary.id?, same]

/-- Each refusal by the sink is returned by one input or output, and nothing else is. -/
theorem failures_eq {s : Sampler} (begun : s.phase ≠ .uninitialized) (supplied : s.Supplied)
    (a : Answers) (callbacks : List Callback) :
    failures callbacks ((s.outcomes (a.calls callbacks)).map Outcome.result) =
      (refusals a.delivery (s.effects (a.calls callbacks))).map s.told := by
  induction callbacks generalizing s with
  | nil => rfl
  | cons c rest ih =>
    have course := s.take_course ⟨c, a⟩
    have now := course_failures course begun supplied
    have later := ih (course_begun course begun) (course_supplied course supplied)
    rw [told_congr (course_keeps_window course begun).2] at later
    have calls : a.calls (c :: rest) = ⟨c, a⟩ :: a.calls rest := rfl
    rw [calls, effects_cons, refusals_append, List.map_append, ← now, ← later]
    rfl

/-- With the time standing still, an open window closes if and only if it is overdue and anything
looks at the clock at all. -/
theorem closes_iff {s : Sampler} (observing : s.phase = .observing) (on : s.disabled = false)
    (supplied : s.Supplied) (a : Answers) {callbacks : List Callback}
    (reports : ∀ c ∈ callbacks, c.switch? = none) :
    let closes := callbacks.any Callback.checks = true ∧ Outlasts s.start a.checkedAt
    ((s.after (a.calls callbacks)).phase = .closed ↔ closes) ∧
    (handedOver (s.effects (a.calls callbacks)) ≠ [] ↔ closes ∧ s.summary.Identified) := by
  induction callbacks generalizing s with
  | nil => simp [Answers.calls, observing]
  | cons c rest ih =>
    obtain ⟨report, later⟩ := List.forall_mem_cons.mp reports
    have course := s.take_course ⟨c, a⟩
    have begun : s.phase ≠ .uninitialized := by simp [observing]
    have closing := closesOn_observing (c := c) (a := a) observing on
    have calls : a.calls (c :: rest) = ⟨c, a⟩ :: a.calls rest := rfl
    rw [calls, after_cons, effects_cons, handedOver_append, List.any_cons]
    -- The first report to close the window settles it; those after it find it closed.
    by_cases closes : s.ClosesOn ⟨c, a⟩
    · have closed := ((course_closes course).mpr closes).2
      obtain ⟨looks, overdue⟩ := closing.mp closes
      rw [effects_closed closed, handedOver_nil, List.append_nil,
        course_handedOver course supplied]
      simp [after_closed closed, closes, looks, overdue]
    · have silent : handedOver (s.take ⟨c, a⟩).effects = [] :=
        Classical.not_not.mp fun handed => closes ((course_handedOver course supplied).mp handed).1
      have unclosed : (s.take ⟨c, a⟩).sampler.phase ≠ .closed := fun closed =>
        closes ((course_closes course).mp ⟨by simp [observing], closed⟩)
      have still := observing_of (course_begun course begun) unclosed
      have stillOn : (s.take ⟨c, a⟩).sampler.disabled = false := by
        rw [course_disabled course, report]
        exact on
      obtain ⟨start, description⟩ := course_keeps_window course begun
      obtain ⟨closed, handed⟩ := ih still stillOn (course_supplied course supplied) later
      have narrowed : (c.checks || rest.any Callback.checks) = true ∧ Outlasts s.start a.checkedAt ↔
          rest.any Callback.checks = true ∧ Outlasts s.start a.checkedAt := by
        rw [closing] at closes
        cases looks : c.checks with
        | false => simp
        | true => simp [show ¬Outlasts s.start a.checkedAt from fun h => closes ⟨looks, h⟩]
      rw [silent, List.nil_append, narrowed, closed, handed, start]
      simp only [Summary.Identified, description, and_self]

end Sampler

/-! ### What is gathered -/

/-- Every report to an open window counts. -/
theorem Tally.reported {kind : NodeKind} {seed : List (String × Scalar)} {opener : Opener}
    {calls : List Call} {s : Sampler} (h : Tally kind seed opener calls s)
    (begun : s.phase ≠ .uninitialized) (on : s.disabled = false) {run : List Call}
    (reports : ∀ call ∈ run, call.callback.switch? = none) :
    (s.after run).inputs = s.inputs + (inputShapes run).length ∧
    (s.after run).outputs = s.outputs + (outputShapes run).length ∧
    (s.after run).selectivity = gather kind (calls ++ run) := by
  have later := h.after run
  rw [on, heard_reports reports] at later
  have since := sinceOpening_append_begun (h.begun begun) run
  refine ⟨?_, ?_, later.selectivity⟩
  · rw [later.inputs, since, inputShapes_append, List.length_append, h.inputs]
  · rw [later.outputs, since, outputShapes_append, List.length_append, h.outputs]

theorem length_inputShapes (a : Answers) (callbacks : List Callback) :
    (inputShapes (a.calls callbacks)).length = callbacks.countP Callback.isInput := by
  rw [inputShapes, Answers.calls, List.length_filterMap_eq_countP, List.countP_map]
  congr 1
  funext c
  cases c <;> rfl

theorem length_outputShapes (a : Answers) (callbacks : List Callback) :
    (outputShapes (a.calls callbacks)).length = callbacks.countP Callback.isOutput := by
  rw [outputShapes, Answers.calls, List.length_filterMap_eq_countP, List.countP_map]
  congr 1
  funext c
  cases c <;> rfl

/-- What the surroundings answer has no part in what is gathered, nor has the order. -/
theorem gather_perm (kind : NodeKind) (calls : List Call) (a b : Answers) {x y : List Callback}
    (perm : x.Perm y) :
    (gather kind (calls ++ a.calls x)).joins.Perm (gather kind (calls ++ b.calls y)).joins ∧
    (gather kind (calls ++ a.calls x)).windows.Perm (gather kind (calls ++ b.calls y)).windows := by
  have joins : (joinRatios (a.calls x)).Perm (joinRatios (b.calls y)) := by
    simp only [joinRatios, Answers.calls, List.filterMap_map]
    exact perm.filterMap _
  have windows : (windowLengths (a.calls x)).Perm (windowLengths (b.calls y)) := by
    simp only [windowLengths, Answers.calls, List.filterMap_map]
    exact perm.filterMap _
  simp only [gather, joinRatios_append, windowLengths_append]
  constructor
  · split
    · exact joins.append_left _
    · exact .nil
  · split
    · exact windows.append_left _
    · exact .nil

namespace Shared

def reports (h : Shared) (a : Answers) : List Callback → List Report
  | [] => []
  | c :: rest => h.report c a :: (h.report c a).shared.reports a rest

def reported (h : Shared) (a : Answers) (callbacks : List Callback) : Shared :=
  callbacks.foldl (fun h c => (h.report c a).shared) h

def results (h : Shared) (a : Answers) (callbacks : List Callback) : List (Except Fault Unit) :=
  (h.reports a callbacks).map Report.result

def effects (h : Shared) (a : Answers) (callbacks : List Callback) : List Effect :=
  (h.reports a callbacks).flatMap Report.effects

theorem reports_new (s : Sampler) (a : Answers) (callbacks : List Callback) :
    (new s).reports a callbacks =
      (s.outcomes (a.calls callbacks)).map fun o => ⟨o.result, new o.sampler, o.effects⟩ := by
  induction callbacks generalizing s with
  | nil => rfl
  | cons c rest ih => exact congrArg ((new s).report c a :: ·) (ih (s.step c a).sampler)

theorem reported_new (s : Sampler) (a : Answers) (callbacks : List Callback) :
    (new s).reported a callbacks = new (s.after (a.calls callbacks)) := by
  induction callbacks generalizing s with
  | nil => rfl
  | cons c rest ih => exact ih (s.step c a).sampler

theorem results_new (s : Sampler) (a : Answers) (callbacks : List Callback) :
    (new s).results a callbacks = (s.outcomes (a.calls callbacks)).map Outcome.result := by
  rw [results, reports_new, List.map_map]
  rfl

theorem effects_new (s : Sampler) (a : Answers) (callbacks : List Callback) :
    (new s).effects a callbacks = s.effects (a.calls callbacks) := by
  rw [effects, reports_new, List.flatMap_map]
  rfl

end Shared

/-- What a run comes to under the lock, as far as `callbacks`, its reports in some order, determine
it. -/
structure Settles (s : Sampler) (callbacks : List Callback) (a : Answers) (run : List Callback) :
    Prop where
  sound : ((Shared.new s).reported a run).poisoned = false
  inputs : ((Shared.new s).reported a run).sampler.inputs =
    s.inputs + callbacks.countP Callback.isInput
  outputs : ((Shared.new s).reported a run).sampler.outputs =
    s.outputs + callbacks.countP Callback.isOutput
  begun : ((Shared.new s).reported a run).sampler.phase ≠ .uninitialized
  closed : ((Shared.new s).reported a run).sampler.phase = .closed ↔
    callbacks.any Callback.checks = true ∧ Outlasts s.start a.checkedAt
  handed : handedOver ((Shared.new s).effects a run) ≠ [] ↔
    (callbacks.any Callback.checks = true ∧ Outlasts s.start a.checkedAt) ∧ s.summary.Identified
  once : (handedOver ((Shared.new s).effects a run)).length ≤ 1
  told : failures run ((Shared.new s).results a run) =
    (refusals a.delivery ((Shared.new s).effects a run)).map s.told

theorem Settles.of_perm {s : Sampler} (observing : s.phase = .observing) (on : s.disabled = false)
    (supplied : s.Supplied) {kind : NodeKind} {seed : List (String × Scalar)} {opener : Opener}
    {calls : List Call} (tally : Tally kind seed opener calls s) (a : Answers)
    {callbacks run : List Callback} (perm : run.Perm callbacks)
    (reports : ∀ c ∈ callbacks, c.switch? = none) : Settles s callbacks a run := by
  have begun : s.phase ≠ .uninitialized := by simp [observing]
  have runReports : ∀ c ∈ run, c.switch? = none := fun c member => reports c (perm.mem_iff.mp member)
  have any : run.any Callback.checks = callbacks.any Callback.checks := perm.any_eq
  obtain ⟨inputs, outputs, -⟩ := tally.reported begun on (a.calls_report runReports)
  obtain ⟨closed, handed⟩ := Sampler.closes_iff observing on supplied a runReports
  rw [length_inputShapes, perm.countP_eq] at inputs
  rw [length_outputShapes, perm.countP_eq] at outputs
  rw [any] at closed handed
  have stays : (s.after (a.calls run)).phase ≠ .uninitialized :=
    Sampler.after_begun begun _
  have once := Sampler.handedOver_effects_le supplied (a.calls run)
  have told := Sampler.failures_eq begun supplied a run
  rw [← Shared.effects_new] at handed once told
  rw [← Shared.results_new] at told
  have last := Shared.reported_new s a run
  exact ⟨by rw [last]; rfl, by rw [last]; exact inputs, by rw [last]; exact outputs,
    by rw [last]; exact stays, by rw [last]; exact closed, handed, once, told⟩

/-- Two runs of the same reports at the same time agree on what each of them settles. -/
theorem Settles.agree {s : Sampler} {callbacks x y : List Callback} {a b : Answers}
    (one : Settles s callbacks a x) (two : Settles s callbacks b y)
    (still : b.checkedAt = a.checkedAt) :
    ((Shared.new s).reported b y).sampler.phase = ((Shared.new s).reported a x).sampler.phase ∧
    (handedOver ((Shared.new s).effects b y)).length =
      (handedOver ((Shared.new s).effects a x)).length := by
  have closed := two.closed
  have handed := two.handed
  rw [still, ← one.closed] at closed
  rw [still, ← one.handed] at handed
  constructor
  · by_cases shut : ((Shared.new s).reported a x).sampler.phase = .closed
    · rw [shut, closed.mpr shut]
    · rw [Sampler.observing_of one.begun shut,
        Sampler.observing_of two.begun fun h => shut (closed.mp h)]
  · have first := one.once
    have second := two.once
    simp only [ne_eq, ← List.length_eq_zero_iff] at handed
    omega

/-- **Any order comes to the same.** Threads report to one sampler with an open window while the
time stands still. In whichever order they get the lock, no input and no output is lost or counted
twice, the window closes or stays open alike, and the summary is handed over equally often, once
at most; if the sink refuses it, one input or output returns the fault. The joins and windows
gathered differ in their order only. -/
theorem interleavings_agree (kind : NodeKind) (seed : List (String × Scalar)) (opener : Opener)
    (past : List Call)
    (observing : ((Sampler.new kind seed opener).after past).phase = .observing)
    (on : ((Sampler.new kind seed opener).after past).disabled = false)
    {threads : List (List Callback)}
    (reports : ∀ thread ∈ threads, ∀ c ∈ thread, c.switch? = none)
    {a b : Answers} (still : b.checkedAt = a.checkedAt) {x y : List Callback}
    (hx : Interleaving threads x) (hy : Interleaving threads y) :
    let s := (Sampler.new kind seed opener).after past
    let h := Shared.new s
    let first := h.reported a x
    let other := h.reported b y
    let closes := threads.flatten.any Callback.checks = true ∧ Outlasts s.start a.checkedAt
    (first.poisoned = false ∧ other.poisoned = false) ∧
    (first.sampler.inputs = s.inputs + threads.flatten.countP Callback.isInput ∧
      other.sampler.inputs = first.sampler.inputs) ∧
    (first.sampler.outputs = s.outputs + threads.flatten.countP Callback.isOutput ∧
      other.sampler.outputs = first.sampler.outputs) ∧
    ((first.sampler.phase = .closed ↔ closes) ∧ other.sampler.phase = first.sampler.phase) ∧
    ((handedOver (h.effects a x) ≠ [] ↔ closes ∧ s.summary.Identified) ∧
      (handedOver (h.effects a x)).length ≤ 1 ∧
      (handedOver (h.effects b y)).length = (handedOver (h.effects a x)).length) ∧
    (failures x (h.results a x) = (refusals a.delivery (h.effects a x)).map s.told ∧
      (failures x (h.results a x)).length ≤ 1) ∧
    other.sampler.selectivity.joins.Perm first.sampler.selectivity.joins ∧
    other.sampler.selectivity.windows.Perm first.sampler.selectivity.windows := by
  intro s h first other closes
  have supplied : s.Supplied := Sampler.after_supplied kind seed opener past
  have tally : Tally kind seed opener (heard false past) s := Tally.new.after past
  have begun : s.phase ≠ .uninitialized := by simp [s, observing]
  have flat : ∀ c ∈ threads.flatten, c.switch? = none := by
    intro c member
    obtain ⟨thread, among, within⟩ := List.mem_flatten.mp member
    exact reports thread among c within
  have one : Settles s _ a x := Settles.of_perm observing on supplied tally a hx.perm flat
  have two : Settles s _ b y := Settles.of_perm observing on supplied tally b hy.perm flat
  obtain ⟨phase, emissions⟩ := one.agree two still
  have once : (failures x (h.results a x)).length ≤ 1 := by
    calc
      (failures x (h.results a x)).length
        = (refusals a.delivery (h.effects a x)).length := by rw [one.told, List.length_map]
      _ ≤ (handedOver (h.effects a x)).length := length_refusals_le _ _
      _ ≤ 1 := one.once
  have gathered {run : List Callback} (order : Interleaving threads run) (c : Answers) :
      (h.reported c run).sampler.selectivity = gather kind (heard false past ++ c.calls run) := by
    have runReports : ∀ callback ∈ run, callback.switch? = none := fun callback member =>
      flat callback (order.perm.mem_iff.mp member)
    rw [Shared.reported_new]
    exact (tally.reported begun on (c.calls_report runReports)).2.2
  obtain ⟨joins, windows⟩ := gather_perm kind (heard false past) b a (hy.perm.trans hx.perm.symm)
  rw [← gathered hx, ← gathered hy] at joins windows
  exact ⟨⟨one.sound, two.sound⟩, ⟨one.inputs, two.inputs.trans one.inputs.symm⟩,
    ⟨one.outputs, two.outputs.trans one.outputs.symm⟩, ⟨one.closed, phase⟩,
    ⟨one.handed, one.once, emissions⟩, ⟨one.told, once⟩, joins, windows⟩

/-- Either of two threads may be the one whose report closes the window. -/
theorem interleavings_agree_of_two_threads :
    let past : List Call := [⟨.input (.tuple 2) .localOnly, .willing 0⟩]
    let s := (Sampler.new .windowing [("id", .text "node")] .host).after past
    let threads : List (List Callback) :=
      [[.input (.tuple 2) .localOnly, .window (.sequence 3)],
        [.window (.sequence 5), .output (.tuple 1)]]
    let x : List Callback :=
      [.input (.tuple 2) .localOnly, .window (.sequence 3), .window (.sequence 5),
        .output (.tuple 1)]
    let y : List Callback :=
      [.window (.sequence 5), .output (.tuple 1), .input (.tuple 2) .localOnly,
        .window (.sequence 3)]
    let a : Answers := ⟨0, 31000000000, .ok (.supplied "memory"), .error (.sink "full")⟩
    let h := Shared.new s
    s.phase = .observing ∧ s.disabled = false ∧
    (∀ thread ∈ threads, ∀ c ∈ thread, c.switch? = none) ∧
    Interleaving threads x ∧ Interleaving threads y ∧
    (h.reported a x).sampler.inputs = 2 ∧ (h.reported a y).sampler.inputs = 2 ∧
    (h.reported a x).sampler.outputs = 1 ∧ (h.reported a y).sampler.outputs = 1 ∧
    (h.reported a x).sampler.phase = .closed ∧ (h.reported a y).sampler.phase = .closed ∧
    failures x (h.results a x) =
      [.withContext (Sampler.emissionContext (.text "node")) (.sink "full")] ∧
    (h.reported a y).sampler.selectivity.windows.Perm
      (h.reported a x).sampler.selectivity.windows := by
  intro past s threads x y a h
  have observing : s.phase = .observing := rfl
  have on : s.disabled = false := rfl
  have reports : ∀ thread ∈ threads, ∀ c ∈ thread, c.switch? = none := by
    simp [threads, Callback.switch?]
  have one : Interleaving threads x :=
    @Interleaving.turn _ [] [_] [_] _ _ (@Interleaving.turn _ [] [_] [] _ _
      (@Interleaving.turn _ [_] [] [_] _ _ (@Interleaving.turn _ [_] [] [] _ _ (.done (by simp)))))
  have two : Interleaving threads y :=
    @Interleaving.turn _ [_] [] [_] _ _ (@Interleaving.turn _ [_] [] [] _ _
      (@Interleaving.turn _ [] [_] [_] _ _ (@Interleaving.turn _ [] [_] [] _ _ (.done (by simp)))))
  obtain ⟨-, ⟨inputs, sameInputs⟩, ⟨outputs, sameOutputs⟩, ⟨closed, samePhase⟩, -,
      ⟨told, -⟩, -, windows⟩ :=
    interleavings_agree .windowing [("id", .text "node")] .host past observing on reports
      (rfl : a.checkedAt = a.checkedAt) one two
  have overdue : threads.flatten.any Callback.checks = true ∧ Outlasts s.start a.checkedAt :=
    ⟨rfl, by unfold Outlasts; decide⟩
  have shut := closed.mpr overdue
  have refused : (refusals a.delivery (h.effects a x)).map s.told =
      [.withContext (Sampler.emissionContext (.text "node")) (.sink "full")] := by decide +kernel
  have twice : s.inputs + threads.flatten.countP Callback.isInput = 2 := rfl
  have once : s.outputs + threads.flatten.countP Callback.isOutput = 1 := rfl
  rw [twice] at inputs
  rw [once] at outputs
  rw [refused] at told
  subst h s
  exact ⟨observing, on, reports, one, two, inputs, sameInputs.trans inputs, outputs,
    sameOutputs.trans outputs, shut, samePhase.trans shut, told, windows⟩

end FlowGauge
