import FlowGauge.Proofs.Sampler.Run

/-! What a run has reported, read off its calls without any sampler.

A report counts if it is made while the switch is on; `heard` keeps those. Of them, `sinceOpening`
keeps the part that the window is about, from the first input that opens it. -/
namespace FlowGauge

/-- Whether a sampler is disabled after a run that finds it `off` or not. -/
def disabledAfter (off : Bool) (run : List Call) : Bool :=
  run.foldl (fun off call => call.callback.switch?.getD off) off

/-- The reports made while the sampler is not disabled. -/
def heard (off : Bool) : List Call → List Call
  | [] => []
  | call :: rest =>
    match call.callback.switch? with
    | some value => heard value rest
    | none => if off then heard off rest else call :: heard off rest

theorem heard_append (off : Bool) (a b : List Call) :
    heard off (a ++ b) = heard off a ++ heard (disabledAfter off a) b := by
  induction a generalizing off with
  | nil => rfl
  | cons call rest ih =>
    cases switch : call.callback.switch? with
    | some value => simp [heard, disabledAfter, switch, ih value]
    | none => cases off <;> simp [heard, disabledAfter, switch, ih]

/-- What a sampler hears of a run goes on from the switch that its first call leaves. -/
theorem Sampler.heard_cons (s : Sampler) (call : Call) (rest : List Call) :
    heard s.disabled (call :: rest) =
      heard s.disabled [call] ++ heard (s.take call).sampler.disabled rest := by
  rw [course_disabled (s.take_course call)]
  exact heard_append s.disabled [call] rest

theorem heard_report {off : Bool} (on : off = false) {call : Call}
    (report : call.callback.switch? = none) : heard off [call] = [call] := by
  simp [heard, on, report]

theorem heard_off {off : Bool} (h : off = true) {call : Call}
    (report : call.callback.switch? = none) : heard off [call] = [] := by
  simp [heard, h, report]

theorem heard_switch {call : Call} {value : Bool} (switch : call.callback.switch? = some value)
    (off : Bool) : heard off [call] = [] := by
  simp [heard, switch]

theorem heard_reports {run : List Call} (reports : ∀ call ∈ run, call.callback.switch? = none) :
    heard false run = run := by
  induction run with
  | nil => rfl
  | cons call rest ih =>
    obtain ⟨report, later⟩ := List.forall_mem_cons.mp reports
    simp [heard, report, ih later]

theorem heard_nothing {off : Bool} {call : Call}
    (unheard : ¬(off = false ∧ call.callback.switch? = none)) : heard off [call] = [] := by
  cases switch : call.callback.switch? with
  | some value => exact heard_switch switch off
  | none => exact heard_off (by simpa [switch] using unheard) switch

def Call.input? (call : Call) : Option Shape :=
  match call.callback with
  | .input shape _ => some shape
  | _ => none

def Call.output? (call : Call) : Option Shape :=
  match call.callback with
  | .output shape => some shape
  | _ => none

/-- The ratio of a join that has elements on both sides. -/
def Call.joinRatio? (call : Call) : Option Float :=
  match call.callback with
  | .join left right matched =>
    if left = 0 ∨ right = 0 then none
    else some (Float.ofNat matched / (Float.ofNat left * Float.ofNat right))
  | _ => none

/-- The length of a window of a legal state. -/
def Call.windowLength? (call : Call) : Option Nat :=
  match call.callback with
  | .window state => state.length.toOption
  | _ => none

def inputShapes (calls : List Call) : List Shape := calls.filterMap Call.input?

def outputShapes (calls : List Call) : List Shape := calls.filterMap Call.output?

def joinRatios (calls : List Call) : List Float := calls.filterMap Call.joinRatio?

def windowLengths (calls : List Call) : List Nat := calls.filterMap Call.windowLength?

/-- The width of a value that may not have come. -/
def widthOf : Option Shape → Int64
  | some shape => shape.recorded
  | none => -1

theorem inputShapes_append (a b : List Call) :
    inputShapes (a ++ b) = inputShapes a ++ inputShapes b :=
  List.filterMap_append

theorem outputShapes_append (a b : List Call) :
    outputShapes (a ++ b) = outputShapes a ++ outputShapes b :=
  List.filterMap_append

theorem joinRatios_append (a b : List Call) : joinRatios (a ++ b) = joinRatios a ++ joinRatios b :=
  List.filterMap_append

theorem windowLengths_append (a b : List Call) :
    windowLengths (a ++ b) = windowLengths a ++ windowLengths b :=
  List.filterMap_append

/-- The calls from the first one that opens the window. -/
def sinceOpening (opener : Opener) (calls : List Call) : List Call :=
  calls.dropWhile fun call => !call.opens opener

theorem sinceOpening_append_begun {opener : Opener} {calls : List Call}
    (begun : sinceOpening opener calls ≠ []) (more : List Call) :
    sinceOpening opener (calls ++ more) = sinceOpening opener calls ++ more := by
  unfold sinceOpening at begun ⊢
  rw [List.dropWhile_append]
  simp [begun]

theorem sinceOpening_concat_begun {opener : Opener} {calls : List Call}
    (begun : sinceOpening opener calls ≠ []) (call : Call) :
    sinceOpening opener (calls ++ [call]) = sinceOpening opener calls ++ [call] :=
  sinceOpening_append_begun begun [call]

theorem head?_sinceOpening_begun {opener : Opener} {calls : List Call}
    (begun : sinceOpening opener calls ≠ []) (call : Call) :
    (sinceOpening opener (calls ++ [call])).head? = (sinceOpening opener calls).head? := by
  rw [sinceOpening_concat_begun begun]
  cases before : sinceOpening opener calls with
  | nil => exact absurd before begun
  | cons first later => rfl

theorem sinceOpening_concat_opens {opener : Opener} {calls : List Call}
    (unopened : sinceOpening opener calls = []) (call : Call) (opens : call.opens opener = true) :
    sinceOpening opener (calls ++ [call]) = [call] := by
  unfold sinceOpening at unopened ⊢
  rw [List.dropWhile_append]
  simp [unopened, opens]

theorem sinceOpening_concat_unopened {opener : Opener} {calls : List Call}
    (unopened : sinceOpening opener calls = []) (call : Call) (opens : call.opens opener = false) :
    sinceOpening opener (calls ++ [call]) = [] := by
  unfold sinceOpening at unopened ⊢
  rw [List.dropWhile_append]
  simp [unopened, opens]

/-- A report that does not open the window and adds no value to it changes nothing there that
counts. -/
theorem sinceOpening_aside {opener : Opener} {calls : List Call} {call : Call}
    (opens : call.opens opener = false)
    (aside : sinceOpening opener calls = [] ∨ call.input? = none ∧ call.output? = none) :
    (sinceOpening opener (calls ++ [call]) = [] ↔ sinceOpening opener calls = []) ∧
    (sinceOpening opener (calls ++ [call])).head? = (sinceOpening opener calls).head? ∧
    inputShapes (sinceOpening opener (calls ++ [call])) =
      inputShapes (sinceOpening opener calls) ∧
    outputShapes (sinceOpening opener (calls ++ [call])) =
      outputShapes (sinceOpening opener calls) := by
  by_cases unopened : sinceOpening opener calls = []
  · simp [sinceOpening_concat_unopened unopened call opens, unopened]
  · obtain ⟨noInput, noOutput⟩ := aside.resolve_left unopened
    have noInputs : inputShapes [call] = [] := by simp [inputShapes, noInput]
    have noOutputs : outputShapes [call] = [] := by simp [outputShapes, noOutput]
    rw [head?_sinceOpening_begun unopened, sinceOpening_concat_begun unopened, inputShapes_append,
      outputShapes_append, noInputs, noOutputs]
    simp [unopened]

/-- An opened window divides the calls before it: none of the earlier ones opens it, and the first of
the later ones does. -/
theorem sinceOpening_cons {opener : Opener} {calls later : List Call} {first : Call}
    (h : sinceOpening opener calls = first :: later) :
    ∃ earlier, calls = earlier ++ first :: later ∧
      (∀ call ∈ earlier, call.opens opener = false) ∧ first.opens opener = true := by
  refine ⟨calls.takeWhile fun call => !call.opens opener, ?_, ?_, ?_⟩
  · rw [← h]
    exact List.takeWhile_append_dropWhile.symm
  · intro call member
    simpa using List.all_eq_true.mp List.all_takeWhile call member
  · have head := List.head?_dropWhile_not (fun call => !call.opens opener) calls
    rw [show calls.dropWhile (fun call => !call.opens opener) = first :: later from h] at head
    simpa using head

end FlowGauge
