import FlowGauge.Proofs.Sampler.Emission
import FlowGauge.Proofs.Sampler.History
import FlowGauge.Proofs.Summary.Description

/-! A summary that is handed over is a function of the calls that led to it.

`Observation.summary` is that function. The invariant behind it is `Tally`: at any time the counts,
widths and lists of a sampler are those of the reports it has heard. -/
namespace FlowGauge

/-- What a summary is about: of the reports heard up to the one that closes the window, those since
the first input that opened it. The parts are fixed by the conditions on them. -/
structure Observation (opener : Opener) (calls : List Call) (closing : Call) where
  earlier : List Call
  shape : Shape
  config : JobConfig
  answers : Answers
  later : List Call
  calls_eq : calls = earlier ++ ⟨.input shape config, answers⟩ :: later
  unopened : ∀ call ∈ earlier, call.opens opener = false
  opens : opener.opens config answers = true
  closes : (⟨.input shape config, answers⟩ :: later).getLast? = some closing
  outlasts : Outlasts answers.openedAt closing.answers.checkedAt

namespace Observation
variable {opener : Opener} {calls : List Call} {closing : Call}

/-- From the opening report to the closing one, both included. -/
def span (o : Observation opener calls closing) : List Call :=
  ⟨.input o.shape o.config, o.answers⟩ :: o.later

def inputs (o : Observation opener calls closing) : Float :=
  Float.ofNat (inputShapes o.span).length

def outputs (o : Observation opener calls closing) : Float :=
  Float.ofNat (outputShapes o.span).length

def elapsed (o : Observation opener calls closing) : Float :=
  (closing.answers.checkedAt - o.answers.openedAt).toFloat

/-- Joins and windows count from the start, not from the opening. -/
def selectivity (o : Observation opener calls closing) : NodeKind → Option Float
  | .filter => some (o.outputs / o.inputs)
  | .joinWrapping => some ((Selectivity.mean? (joinRatios calls)).getD 0)
  | .windowing => some (1 / (Selectivity.mean? ((windowLengths calls).map Float.ofNat)).getD 0)
  | .other => none

def summary (o : Observation opener calls closing) (kind : NodeKind)
    (seed : List (String × Scalar)) : Summary where
  description := Summary.describe seed
  tupleWidthIn := o.shape.recorded
  tupleWidthOut := widthOf (outputShapes o.span).getLast?
  inputRate := some (o.inputs * 1000000000 / o.elapsed)
  outputRate := some (o.outputs * 1000000000 / o.elapsed)
  realSelectivity := o.selectivity kind

end Observation

/-- What has been gathered for the selectivity, before the window opens or after. -/
def gather (kind : NodeKind) (calls : List Call) : Selectivity where
  kind := kind
  joins := if kind = .joinWrapping then joinRatios calls else []
  windows := if kind = .windowing then windowLengths calls else []

theorem gather_join (kind : NodeKind) (calls : List Call) (left right matched : Nat) (a : Answers) :
    (gather kind calls).recordJoin left right matched =
      gather kind (calls ++ [⟨.join left right matched, a⟩]) := by
  have windows : windowLengths [⟨.join left right matched, a⟩] = [] := rfl
  by_cases empty : left = 0 ∨ right = 0
  · have joins : joinRatios [⟨.join left right matched, a⟩] = [] := by
      simp [joinRatios, Call.joinRatio?, empty]
    have skipped : (gather kind calls).recordsJoin left right = false := by
      rcases empty with rfl | rfl <;> simp [Selectivity.recordsJoin]
    rw [Selectivity.recordJoin, if_neg (by simp [skipped])]
    simp [gather, joinRatios_append, windowLengths_append, joins, windows]
  · have joins : joinRatios [⟨.join left right matched, a⟩] =
        [Selectivity.joinRatio left right matched] := by
      simp [joinRatios, Call.joinRatio?, empty, Selectivity.joinRatio]
    obtain ⟨hl, hr⟩ := not_or.mp empty
    by_cases joining : kind = .joinWrapping <;>
      simp [Selectivity.recordJoin, Selectivity.recordsJoin, gather, joinRatios_append,
        windowLengths_append, joins, windows, joining, hl, hr]

theorem gather_window (kind : NodeKind) (calls : List Call) {state : WindowState} {length : Nat}
    (legal : state.length = .ok length) (a : Answers) :
    (gather kind calls).recordWindow length = gather kind (calls ++ [⟨.window state, a⟩]) := by
  have joins : joinRatios [⟨.window state, a⟩] = [] := rfl
  have windows : windowLengths [⟨.window state, a⟩] = [length] := by
    simp [windowLengths, Call.windowLength?, legal, Except.toOption]
  by_cases windowing : kind = .windowing <;>
    simp [Selectivity.recordWindow, Selectivity.recordsWindow, gather, joinRatios_append,
      windowLengths_append, joins, windows, windowing]

theorem gather_other (kind : NodeKind) (calls : List Call) {call : Call}
    (noJoin : call.joinRatio? = none) (noWindow : call.windowLength? = none) :
    gather kind (calls ++ [call]) = gather kind calls := by
  have joins : joinRatios [call] = [] := by simp [joinRatios, noJoin]
  have windows : windowLengths [call] = [] := by simp [windowLengths, noWindow]
  simp [gather, joinRatios_append, windowLengths_append, joins, windows]

/-- A fresh sampler that has heard `calls` has come to `s`. -/
structure Tally (kind : NodeKind) (seed : List (String × Scalar)) (opener : Opener)
    (calls : List Call) (s : Sampler) : Prop where
  unopened : s.phase = .uninitialized ↔ sinceOpening opener calls = []
  sameOpener : s.phase = .uninitialized → s.opener = opener
  start : ∀ first ∈ (sinceOpening opener calls).head?, s.start = first.answers.openedAt
  inputs : s.inputs = (inputShapes (sinceOpening opener calls)).length
  outputs : s.outputs = (outputShapes (sinceOpening opener calls)).length
  widthIn : s.summary.tupleWidthIn =
    widthOf ((sinceOpening opener calls).head?.bind Call.input?)
  widthOut : s.summary.tupleWidthOut = widthOf (outputShapes (sinceOpening opener calls)).getLast?
  description : s.summary.description = Summary.describe seed
  selectivity : s.selectivity = gather kind calls
  unmeasured : s.phase ≠ .closed →
    s.summary.realSelectivity = if kind.hasSelectivity then some 0 else none

namespace Tally
variable {kind : NodeKind} {seed : List (String × Scalar)} {opener : Opener} {calls : List Call}
  {s : Sampler}

theorem new : Tally kind seed opener [] (Sampler.new kind seed opener) where
  unopened := by simp [Sampler.new, sinceOpening]
  sameOpener _ := rfl
  start := by simp [sinceOpening]
  inputs := rfl
  outputs := rfl
  widthIn := rfl
  widthOut := rfl
  description := rfl
  selectivity := by simp [Sampler.new, gather, joinRatios, windowLengths]
  unmeasured _ := rfl

theorem begun (h : Tally kind seed opener calls s) (phase : s.phase ≠ .uninitialized) :
    sinceOpening opener calls ≠ [] :=
  fun none => phase (h.unopened.mpr none)

/-- A report of no value for the window, or made before it opens, touches the selectivity at most. -/
theorem aside (h : Tally kind seed opener calls s) {call : Call} {selectivity : Selectivity}
    (opens : call.opens opener = false)
    (noValue : s.phase = .uninitialized ∨ call.input? = none ∧ call.output? = none)
    (gathered : selectivity = gather kind (calls ++ [call])) :
    Tally kind seed opener (calls ++ [call]) { s with selectivity := selectivity } := by
  obtain ⟨begun, head, inputs, outputs⟩ :=
    sinceOpening_aside opens (noValue.imp_left h.unopened.mp)
  exact {
    unopened := h.unopened.trans begun.symm
    sameOpener := h.sameOpener
    start := by rw [head]; exact h.start
    inputs := by rw [inputs]; exact h.inputs
    outputs := by rw [outputs]; exact h.outputs
    widthIn := by rw [head]; exact h.widthIn
    widthOut := by rw [outputs]; exact h.widthOut
    description := h.description
    selectivity := gathered
    unmeasured := h.unmeasured }

theorem opened (h : Tally kind seed opener calls s) (unopened : s.phase = .uninitialized)
    {config : JobConfig} {a : Answers} (opens : s.opener.opens config a = true) (shape : Shape)
    (mode : SinkMode) (sink : Sink) :
    Tally kind seed opener (calls ++ [⟨.input shape config, a⟩])
      (s.opened shape mode sink a.openedAt).countInput := by
  have before := h.unopened.mp unopened
  have after := sinceOpening_concat_opens before ⟨.input shape config, a⟩
    (h.sameOpener unopened ▸ opens)
  have noInputs : s.inputs = 0 := by rw [h.inputs, before]; rfl
  have noOutputs : s.outputs = 0 := by rw [h.outputs, before]; rfl
  exact {
    unopened := by simp [Sampler.opened, Sampler.countInput, after]
    sameOpener := by simp [Sampler.opened, Sampler.countInput]
    start := by simp [Sampler.opened, Sampler.countInput, after]
    inputs := by rw [after]; exact congrArg (· + 1) noInputs
    outputs := by rw [after]; exact noOutputs
    widthIn := by rw [after]; rfl
    widthOut := by rw [after]; rfl
    description := h.description
    selectivity := h.selectivity.trans (gather_other kind calls rfl rfl).symm
    unmeasured _ := h.unmeasured (by simp [unopened]) }

theorem countInput (h : Tally kind seed opener calls s) (begun : s.phase ≠ .uninitialized)
    (shape : Shape) (config : JobConfig) (a : Answers) :
    Tally kind seed opener (calls ++ [⟨.input shape config, a⟩]) s.countInput := by
  have before := h.begun begun
  have after := sinceOpening_concat_begun before ⟨.input shape config, a⟩
  have one : inputShapes [⟨.input shape config, a⟩] = [shape] := rfl
  have none : outputShapes [⟨.input shape config, a⟩] = [] := rfl
  exact {
    unopened := by simp [Sampler.countInput, begun, after]
    sameOpener := h.sameOpener
    start := by rw [head?_sinceOpening_begun before]; exact h.start
    inputs := by simp [Sampler.countInput, after, inputShapes_append, one, h.inputs]
    outputs := by simp [Sampler.countInput, after, outputShapes_append, none, h.outputs]
    widthIn := by rw [head?_sinceOpening_begun before]; exact h.widthIn
    widthOut := by simp [Sampler.countInput, after, outputShapes_append, none, h.widthOut]
    description := h.description
    selectivity := h.selectivity.trans (gather_other kind calls rfl rfl).symm
    unmeasured := h.unmeasured }

theorem countOutput (h : Tally kind seed opener calls s) (begun : s.phase ≠ .uninitialized)
    (shape : Shape) (a : Answers) :
    Tally kind seed opener (calls ++ [⟨.output shape, a⟩]) (s.countOutput shape) := by
  have before := h.begun begun
  have after := sinceOpening_concat_begun before ⟨.output shape, a⟩
  have none : inputShapes [⟨.output shape, a⟩] = [] := rfl
  have one : outputShapes [⟨.output shape, a⟩] = [shape] := rfl
  exact {
    unopened := by simp [Sampler.countOutput, begun, after]
    sameOpener := h.sameOpener
    start := by rw [head?_sinceOpening_begun before]; exact h.start
    inputs := by simp [Sampler.countOutput, after, inputShapes_append, none, h.inputs]
    outputs := by simp [Sampler.countOutput, after, outputShapes_append, one, h.outputs]
    widthIn := by rw [head?_sinceOpening_begun before]; exact h.widthIn
    widthOut := by simp [Sampler.countOutput, after, outputShapes_append, one, widthOf]
    description := h.description
    selectivity := h.selectivity.trans (gather_other kind calls rfl rfl).symm
    unmeasured := h.unmeasured }

theorem checkWindow (h : Tally kind seed opener calls s) (a : Answers) :
    Tally kind seed opener calls (s.checkWindow a).sampler := by
  obtain same | ⟨observing, -, sink, closed, -⟩ := s.checkWindow_sampler a
  · rw [same]
    exact h
  · rw [closed]
    have begun := h.begun (by simp [observing])
    exact {
      unopened := by simp [begun]
      sameOpener := by simp
      start := h.start
      inputs := h.inputs
      outputs := h.outputs
      widthIn := h.widthIn
      widthOut := h.widthOut
      description := h.description
      selectivity := h.selectivity
      unmeasured := by simp }

/-- A callback keeps the tally, with the report it makes if that is heard. -/
theorem course (h : Tally kind seed opener calls s) {a : Answers} {c : Callback} {o : Outcome}
    (course : Sampler.Course s a c o) :
    Tally kind seed opener (calls ++ heard s.disabled [⟨c, a⟩]) o.sampler := by
  have still {c : Callback} (opens : Call.opens opener ⟨c, a⟩ = false)
      (noValue : s.phase = .uninitialized ∨ Call.input? ⟨c, a⟩ = none ∧ Call.output? ⟨c, a⟩ = none)
      (noJoin : Call.joinRatio? ⟨c, a⟩ = none) (noWindow : Call.windowLength? ⟨c, a⟩ = none) :
      Tally kind seed opener (calls ++ [⟨c, a⟩]) s :=
    h.aside opens noValue (h.selectivity.trans (gather_other kind calls noJoin noWindow).symm)
  cases course with
  | skipped off isReport =>
    rw [heard_off off isReport, List.append_nil]
    exact h
  | switched value =>
    rw [heard_switch rfl, List.append_nil]
    exact { h with }
  | joined left right matched on =>
    rw [heard_report on rfl]
    exact h.aside rfl (.inr ⟨rfl, rfl⟩) (h.selectivity ▸ gather_join kind calls left right matched a)
  | measured on legal =>
    rw [heard_report on rfl]
    exact h.aside rfl (.inr ⟨rfl, rfl⟩) (h.selectivity ▸ gather_window kind calls legal a)
  | misreported on illegal =>
    rw [heard_report on rfl]
    exact still rfl (.inr ⟨rfl, rfl⟩) rfl (by simp [Call.windowLength?, illegal, Except.toOption])
  | early shape on unopened =>
    rw [heard_report on rfl]
    exact still rfl (.inl unopened) rfl rfl
  | refused shape config fault on unopened opens =>
    rw [heard_report on rfl]
    exact still (h.sameOpener unopened ▸ opens) (.inl unopened) rfl rfl
  | output shape on begun =>
    rw [heard_report on rfl]
    exact (h.countOutput begun shape a).checkWindow a
  | input shape config on begun =>
    rw [heard_report on rfl]
    exact (h.countInput begun shape config a).checkWindow a
  | opening shape on unopened opens resolved obtained outcome =>
    subst outcome
    rw [heard_report on rfl]
    exact (h.opened unopened opens shape _ _).checkWindow a

theorem after (h : Tally kind seed opener calls s) (run : List Call) :
    Tally kind seed opener (calls ++ heard s.disabled run) (s.after run) := by
  induction run generalizing calls s with
  | nil => simpa [heard] using h
  | cons call rest ih =>
    rw [s.heard_cons, ← List.append_assoc]
    exact ih (h.course (s.take_course call))

/-- A summary is handed over from a state that has counted the closing report already. -/
theorem handed (h : Tally kind seed opener calls s) {a : Answers} {c : Callback} {o : Outcome}
    (course : Sampler.Course s a c o) {summary : Summary} (handed : summary ∈ handedOver o.effects) :
    s.disabled = false ∧ c.switch? = none ∧ ∃ t, Tally kind seed opener (calls ++ [⟨c, a⟩]) t ∧
      t.phase = .observing ∧ t.due a.checkedAt = true ∧
      summary = t.finalSummary (a.checkedAt.since t.start) := by
  cases course with
  | skipped | switched | joined | measured | misreported | early => cases handed
  | refused => simp [Sampler.handedOver_openerCalls] at handed
  | output shape on begun =>
    exact ⟨on, rfl, _, h.countOutput begun shape a, Sampler.mem_handedOver_checkWindow handed⟩
  | input shape config on begun =>
    exact ⟨on, rfl, _, h.countInput begun shape config a,
      Sampler.mem_handedOver_checkWindow handed⟩
  | @opening shape config mode sink on unopened opens resolved obtained outcome checked =>
    subst checked
    simp only [handedOver_append, Sampler.handedOver_openerCalls, handedOver_logged,
      handedOver_nil, List.nil_append] at handed
    exact ⟨on, rfl, _, h.opened unopened opens shape mode sink,
      Sampler.mem_handedOver_checkWindow handed⟩

/-- The selectivity that closing computes, or the one from the start for a kind that has none. -/
theorem finalSelectivity (h : Tally kind seed opener calls s) (phase : s.phase ≠ .closed)
    {closing : Call} (o : Observation opener calls closing)
    (inputs : s.inputs = (inputShapes o.span).length)
    (outputs : s.outputs = (outputShapes o.span).length) :
    (s.selectivity.compute s.inputs s.outputs).or s.summary.realSelectivity =
      o.selectivity kind := by
  rw [h.selectivity, h.unmeasured phase, inputs, outputs]
  cases kind <;> rfl

/-- The state in which the window closes has the observation, and the final summary is its. -/
theorem observation (h : Tally kind seed opener calls s) (phase : s.phase = .observing)
    {closing : Call} (last : calls.getLast? = some closing)
    (due : s.due closing.answers.checkedAt = true) :
    ∃ o : Observation opener calls closing,
      s.finalSummary (closing.answers.checkedAt.since s.start) = o.summary kind seed := by
  cases window : sinceOpening opener calls with
  | nil => exact absurd window (h.begun (by simp [phase]))
  | cons first later =>
    obtain ⟨earlier, calls_eq, unopened, opens⟩ := sinceOpening_cons window
    obtain ⟨callback, answers⟩ := first
    cases callback with
    | output | join | window | disable => cases opens
    | input shape config =>
      have start : s.start = answers.openedAt :=
        h.start ⟨.input shape config, answers⟩ (by simp [window])
      have outlasts : Outlasts answers.openedAt closing.answers.checkedAt := by
        rw [Outlasts, ← start]
        exact (s.due_iff _).mp due
      have elapsed : closing.answers.checkedAt.since s.start =
          closing.answers.checkedAt - answers.openedAt := by
        rw [start, Instant.since, if_pos]
        exact UInt64.le_iff_toNat_le.mpr (by unfold Outlasts at outlasts; omega)
      have closes : (⟨.input shape config, answers⟩ :: later).getLast? = some closing := by
        rw [← last, calls_eq, List.getLast?_append, List.getLast?_cons, Option.some_or]
      let o : Observation opener calls closing :=
        ⟨earlier, shape, config, answers, later, calls_eq, unopened, opens, closes, outlasts⟩
      have span : sinceOpening opener calls = o.span := window
      have inputs : s.inputs = (inputShapes o.span).length := span ▸ h.inputs
      have outputs : s.outputs = (outputShapes o.span).length := span ▸ h.outputs
      have widthIn : s.summary.tupleWidthIn = shape.recorded := by
        rw [h.widthIn, window]
        rfl
      refine ⟨o, ?_⟩
      rw [elapsed]
      simp only [Sampler.finalSummary, Observation.summary, Summary.mk.injEq]
      refine ⟨h.description, widthIn, span ▸ h.widthOut, ?_, ?_, ?_⟩
      · rw [inputs]; rfl
      · rw [outputs]; rfl
      · exact h.finalSelectivity (by simp [phase]) o inputs outputs

end Tally

end FlowGauge
