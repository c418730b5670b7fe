import FlowGauge.Proofs.Sampler.Closing

/-! What a report about a window has to show, said without the function that measures it.

A state is looked at through all its references. `Stands` tells how many elements the value behind
them stands for, and every other value is refused before the kind of the node is asked. -/
namespace FlowGauge

namespace WindowState

/-- The value behind all references. -/
def innermost : WindowState → WindowState
  | reference inner => inner.innermost
  | state => state

inductive IsNumber : WindowState → Prop
  | primitive : IsNumber number
  | jsonInteger (n : Int) : IsNumber (json (.integer n))
  | jsonFloat (x : Float) : IsNumber (json (.float x))
  | integer (n : Int64) : IsNumber (scalar (.integer n))
  | float (x : Float) : IsNumber (scalar (.float x))

inductive IsSequence : WindowState → Nat → Prop
  | collection (length : Nat) : IsSequence (sequence length) length
  | jsonList (items : List Json) : IsSequence (json (.list items)) items.length

/-- A number stands for one element, and a sequence for those that it has. -/
def Stands (state : WindowState) (length : Nat) : Prop :=
  state.innermost.IsNumber ∧ length = 1 ∨ state.innermost.IsSequence length

theorem IsNumber.length_eq {state : WindowState} (isNumber : state.IsNumber) :
    state.length = .ok 1 := by
  cases isNumber <;> rfl

theorem IsSequence.length_eq {state : WindowState} {n : Nat} (isSequence : state.IsSequence n) :
    state.length = .ok n := by
  cases isSequence <;> rfl

theorem length_innermost (state : WindowState) : state.innermost.length = state.length := by
  induction state with
  | reference inner ih => exact ih
  | number | sequence | mapping | json | scalar => rfl

/-- Nothing else has a length. -/
theorem stands_of_length {state : WindowState} {n : Nat} (legal : state.length = .ok n) :
    state.Stands n := by
  induction state with
  | number =>
    cases legal
    exact .inl ⟨.primitive, rfl⟩
  | sequence =>
    cases legal
    exact .inr (.collection n)
  | mapping => cases legal
  | json value =>
    cases value with
    | integer n =>
      cases legal
      exact .inl ⟨.jsonInteger n, rfl⟩
    | float x =>
      cases legal
      exact .inl ⟨.jsonFloat x, rfl⟩
    | list items =>
      cases legal
      exact .inr (.jsonList items)
    | null | bool | text | object => cases legal
  | scalar value =>
    cases value with
    | integer n =>
      cases legal
      exact .inl ⟨.integer n, rfl⟩
    | float x =>
      cases legal
      exact .inl ⟨.float x, rfl⟩
    | null | bool | text => cases legal
  | reference inner ih => exact ih legal

theorem length_eq_ok_iff {state : WindowState} {n : Nat} :
    state.length = .ok n ↔ state.Stands n := by
  constructor
  · exact stands_of_length
  · rintro (⟨isNumber, rfl⟩ | isSequence)
    · rw [← length_innermost]
      exact isNumber.length_eq
    · rw [← length_innermost]
      exact isSequence.length_eq

end WindowState

namespace Sampler

/-- The sampler with one more window on record, where windows are recorded at all. -/
def withWindow (s : Sampler) (length : Nat) : Sampler :=
  if s.kind = .windowing then
    { s with selectivity := { s.selectivity with windows := s.selectivity.windows ++ [length] } }
  else s

theorem recordWindow_eq (s : Sampler) (length : Nat) :
    { s with selectivity := s.selectivity.recordWindow length } = s.withWindow length := by
  by_cases windowing : s.selectivity.kind = .windowing
  · simp [withWindow, kind, Selectivity.recordWindow, Selectivity.recordsWindow, windowing]
  · simp [withWindow, kind, Selectivity.recordWindow, Selectivity.recordsWindow, windowing]

theorem take_window {s : Sampler} (on : s.disabled = false) {state : WindowState} {n : Nat}
    (stands : state.Stands n) (a : Answers) :
    s.take ⟨.window state, a⟩ = ⟨.ok (), s.withWindow n, []⟩ := by
  have legal : state.length = .ok n := WindowState.length_eq_ok_iff.mpr stands
  rw [← recordWindow_eq]
  simp [take, step, reportWindow, on, legal]

theorem take_window_refused {s : Sampler} (on : s.disabled = false) {state : WindowState}
    (illegal : ∀ n, ¬state.Stands n) (a : Answers) :
    ∃ text, s.take ⟨.window state, a⟩ = ⟨.error (.invalidWindowState text), s, []⟩ := by
  cases length : state.length with
  | ok n => exact absurd (WindowState.stands_of_length length) (illegal n)
  | error fault =>
    obtain ⟨text, rfl⟩ := WindowState.length_error length
    exact ⟨text, by simp [take, step, reportWindow, on, length]⟩

/-- **A window is reported with a number or a sequence.** As long as the sampler is not disabled,
the report succeeds exactly for a state that has one behind its references, whatever the kind of the
node. Then a windowing node has one more length on record and nothing else has changed. Any other
state is refused as an illegal one, and nothing has changed at all. -/
theorem reportWindow_accepts {s : Sampler} (on : s.disabled = false) (state : WindowState)
    (a : Answers) :
    ((s.take ⟨.window state, a⟩).result = .ok () ↔ ∃ n, state.Stands n) ∧
    (∀ n, state.Stands n → s.take ⟨.window state, a⟩ = ⟨.ok (), s.withWindow n, []⟩) ∧
    ((∀ n, ¬state.Stands n) →
      ∃ text, s.take ⟨.window state, a⟩ = ⟨.error (.invalidWindowState text), s, []⟩) := by
  refine ⟨⟨?_, ?_⟩, ?_, ?_⟩
  · intro accepted
    by_contra none
    obtain ⟨text, refused⟩ := take_window_refused on (not_exists.mp none) a
    rw [refused] at accepted
    cases accepted
  · rintro ⟨n, stands⟩
    rw [take_window on stands]
  · intro n stands
    exact take_window on stands a
  · intro illegal
    exact take_window_refused on illegal a

theorem reportWindow_accepts_and_refuses :
    (∃ s : Sampler, s.disabled = false ∧
      s.take ⟨.window (.reference (.json (.list []))), .willing 1⟩ = ⟨.ok (), s.withWindow 0, []⟩ ∧
      (s.withWindow 0).selectivity.windows = [0]) ∧
    ∃ s : Sampler, s.disabled = false ∧ ∃ text,
      s.take ⟨.window (.reference (.mapping 0)), .willing 1⟩ =
        ⟨.error (.invalidWindowState text), s, []⟩ := by
  have list : (WindowState.reference (.json (.list []))).Stands 0 := .inr (.jsonList [])
  have mapping (n : Nat) : ¬(WindowState.reference (.mapping 0)).Stands n := by
    rintro (⟨isNumber, -⟩ | isSequence)
    · cases isNumber
    · cases isSequence
  refine ⟨⟨new .windowing [] .builtIn, rfl, ?_, rfl⟩, new .filter [] .builtIn, rfl, ?_⟩
  · exact (reportWindow_accepts rfl _ _).2.1 0 list
  · exact (reportWindow_accepts rfl _ _).2.2 mapping

end Sampler

end FlowGauge
