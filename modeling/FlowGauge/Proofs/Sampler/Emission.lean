import FlowGauge.Proofs.Sampler.Run

/-! A window closes once, on the first call that finds it open for more than its length, and then
hands over the summary of an identified node. Nothing before and nothing after hands over one. -/
namespace FlowGauge

/-- Between the two readings lies more than the length of the window. -/
def Outlasts (start now : Instant) : Prop :=
  start.toNat + Sampler.window < now.toNat

namespace Summary

/-- The description has an identifier, and it is not null. -/
def Identified (s : Summary) : Prop :=
  ∃ id, s.description.lookup idKey = some id ∧ id ≠ .null

theorem id?_isSome_iff (s : Summary) : s.id?.isSome ↔ s.Identified := by
  unfold id? Identified
  cases s.description.lookup idKey with
  | none => simp
  | some id => cases id <;> simp [Scalar.isNull]

end Summary

namespace Sampler

/-- A report that runs the window check on an open window that is overdue. An input may have opened
that window itself, just before the check. -/
def ClosesOn (s : Sampler) (call : Call) : Prop :=
  s.disabled = false ∧
    match call.callback with
    | .input .. =>
      s.phase = .observing ∧ Outlasts s.start call.answers.checkedAt ∨
      s.phase = .uninitialized ∧ call.opens s.opener = true ∧
        Outlasts call.answers.openedAt call.answers.checkedAt
    | .output _ => s.phase = .observing ∧ Outlasts s.start call.answers.checkedAt
    | _ => False

/-- A sampler that has opened its window has the sink for it. -/
def Supplied (s : Sampler) : Prop :=
  s.phase ≠ .uninitialized → s.sink.isSome

theorem checkWindow_phase (s : Sampler) (a : Answers) :
    (s.checkWindow a).sampler.phase = .closed ↔
      s.phase = .closed ∨ s.phase = .observing ∧ Outlasts s.start a.checkedAt := by
  rw [Outlasts, ← due_iff]
  by_cases closes : s.phase = .observing ∧ s.due a.checkedAt = true
  · obtain ⟨sink, closed, -⟩ := s.close_sampler (a.checkedAt.since s.start) a.delivery
    simp [checkWindow_closes closes.1 closes.2, closed, closes]
  · simp [checkWindow_idle closes, idle, closes]

theorem course_closes {s : Sampler} {a : Answers} {c : Callback} {o : Outcome}
    (h : Course s a c o) :
    s.phase ≠ .closed ∧ o.sampler.phase = .closed ↔ s.ClosesOn ⟨c, a⟩ := by
  cases h with
  | skipped off isReport => simp [idle, ClosesOn, off]
  | switched value => simp [idle, setDisabled, ClosesOn]
  | joined | measured => simp [idle, ClosesOn]
  | misreported => simp [ClosesOn]
  | early shape on unopened => simp [idle, ClosesOn, unopened]
  | output shape on begun =>
    simp only [checkWindow_phase, countOutput, ClosesOn, on, true_and]
    cases phase : s.phase <;> simp
  | refused shape config fault on unopened opens =>
    simp [ClosesOn, unopened, Call.opens, opens]
  | opening shape on unopened opens resolved obtained checked =>
    subst checked
    simp [checkWindow_phase, opened, countInput, ClosesOn, Call.opens, on, unopened, opens]
  | input shape config on begun =>
    simp only [checkWindow_phase, countInput, ClosesOn, on, true_and]
    cases phase : s.phase <;> simp_all

/-- A closed sampler counts inputs and outputs, and does nothing else about them. -/
theorem course_closed {s : Sampler} {a : Answers} {c : Callback} {o : Outcome}
    (h : Course s a c o) (closed : s.phase = .closed) :
    o.sampler.phase = .closed ∧ o.effects = [] ∧
      ((∀ state, c ≠ .window state) → o.result = .ok ()) := by
  cases h with
  | skipped | switched | joined | measured => simp [idle, setDisabled, closed]
  | misreported => simp [closed]
  | early shape on unopened | refused shape config fault on unopened
  | opening shape on unopened => simp [closed] at unopened
  | output shape =>
    rw [checkWindow_closed (show (s.countOutput shape).phase = .closed from closed)]
    simp [idle, countOutput, closed]
  | input shape config =>
    rw [checkWindow_closed (show s.countInput.phase = .closed from closed)]
    simp [idle, countInput, closed]

theorem after_closed {s : Sampler} (closed : s.phase = .closed) (run : List Call) :
    (s.after run).phase = .closed :=
  after_invariant (fun s call closed => (course_closed (s.take_course call) closed).1) closed run

theorem effects_closed {s : Sampler} (closed : s.phase = .closed) (run : List Call) :
    s.effects run = [] := by
  induction run generalizing s with
  | nil => rfl
  | cons call rest ih =>
    obtain ⟨still, silent, -⟩ := course_closed (s.take_course call) closed
    rw [effects_cons, silent, ih still, List.nil_append]

theorem results_closed {s : Sampler} (closed : s.phase = .closed) (run : List Call) :
    ∀ e ∈ run.zip (s.outcomes run),
      (∀ state, e.1.callback ≠ .window state) → e.2.result = .ok () := by
  induction run generalizing s with
  | nil => simp
  | cons call rest ih =>
    obtain ⟨still, -, succeeds⟩ := course_closed (s.take_course call) closed
    intro e he
    rcases List.mem_cons.mp he with rfl | he
    · exact succeeds
    · exact ih still e he

theorem course_supplied {s : Sampler} {a : Answers} {c : Callback} {o : Outcome}
    (h : Course s a c o) (supplied : s.Supplied) : o.sampler.Supplied := by
  have checked {t : Sampler} (present : t.sink.isSome) : (t.checkWindow a).sampler.Supplied := by
    obtain same | ⟨-, -, sink, closed, kept | ⟨before, -, emitted⟩⟩ := t.checkWindow_sampler a
    · exact fun _ => by rw [same]; exact present
    · exact fun _ => by rw [closed]; exact kept ▸ present
    · exact fun _ => by rw [closed, emitted]; rfl
  cases h with
  | skipped | switched | joined | measured | misreported | early | refused => exact supplied
  | output shape on begun => exact checked (supplied begun)
  | input shape config on begun => exact checked (supplied begun)
  | opening shape on unopened opens resolved obtained outcome =>
    subst outcome
    exact checked rfl

theorem after_supplied (kind : NodeKind) (seed : List (String × Scalar)) (opener : Opener)
    (run : List Call) : ((new kind seed opener).after run).Supplied :=
  after_invariant (fun s call supplied => course_supplied (s.take_course call) supplied)
    (fun begun => absurd rfl begun) run

/-- Only a call that closes the window hands over a summary, and then the final one. -/
theorem course_handedOver {s : Sampler} {a : Answers} {c : Callback} {o : Outcome}
    (h : Course s a c o) (supplied : s.Supplied) :
    handedOver o.effects ≠ [] ↔ s.ClosesOn ⟨c, a⟩ ∧ s.summary.Identified := by
  have checked {t : Sampler} (present : t.sink.isSome) :
      handedOver (t.checkWindow a).effects ≠ [] ↔
        (t.phase = .observing ∧ Outlasts t.start a.checkedAt) ∧ t.summary.Identified := by
    rw [handedOver_checkWindow, Outlasts, ← due_iff, ← Summary.id?_isSome_iff]
    simp [present, and_assoc, Option.isSome_iff_ne_none]
  cases h with
  | skipped off isReport => simp [idle, ClosesOn, off]
  | switched | joined | measured => simp [idle, ClosesOn]
  | misreported => simp [ClosesOn]
  | early shape on unopened => simp [idle, ClosesOn, unopened]
  | refused shape config fault on unopened opens =>
    simp [handedOver_openerCalls, ClosesOn, unopened, Call.opens, opens]
  | output shape on begun =>
    rw [checked (t := s.countOutput shape) (supplied begun)]
    simp [ClosesOn, on, countOutput, Summary.Identified]
  | input shape config on begun =>
    rw [checked (t := s.countInput) (supplied begun)]
    simp [ClosesOn, on, begun, countInput]
  | opening shape on unopened opens resolved obtained outcome =>
    subst outcome
    simp only [handedOver_append, handedOver_openerCalls, handedOver_logged, handedOver_nil,
      List.nil_append]
    rw [checked rfl]
    simp [ClosesOn, on, unopened, Call.opens, opens, opened, countInput, Summary.Identified]

theorem course_handedOver_le {s : Sampler} {a : Answers} {c : Callback} {o : Outcome}
    (h : Course s a c o) : (handedOver o.effects).length ≤ 1 := by
  have checked (t : Sampler) : (handedOver (t.checkWindow a).effects).length ≤ 1 := by
    rw [handedOver_checkWindow]
    split <;> simp
  cases h with
  | skipped | switched | joined | measured | misreported | early => exact Nat.zero_le _
  | refused => simp [handedOver_openerCalls]
  | output shape => exact checked (s.countOutput shape)
  | input => exact checked s.countInput
  | opening shape on unopened opens resolved obtained outcome =>
    subst outcome
    simpa [handedOver_openerCalls] using checked _

/-- The call that hands over a summary also closes the window, and a closed sampler hands over
nothing. -/
theorem handedOver_effects_le {s : Sampler} (supplied : s.Supplied) (run : List Call) :
    (handedOver (s.effects run)).length ≤ 1 := by
  induction run generalizing s with
  | nil => exact Nat.zero_le _
  | cons call rest ih =>
    have course := s.take_course call
    rw [effects_cons, handedOver_append, List.length_append]
    by_cases silent : handedOver (s.take call).effects = []
    · rw [silent]
      simpa using ih (course_supplied course supplied)
    · have closes := ((course_handedOver course supplied).mp silent).1
      have closed := ((course_closes course).mpr closes).2
      rw [effects_closed closed rest]
      simpa using course_handedOver_le course

/-- **One emission, when it is due.** Whatever a run has done, a call hands over a summary if and
only if it closes the window and the node is identified; the window closes on exactly such calls,
identified or not. After that call nothing is handed over, opened or logged any more, whether the
sink took the summary or refused it, and only a window of an illegal state is still refused. -/
theorem emits_once_on_closing (kind : NodeKind) (seed : List (String × Scalar)) (opener : Opener)
    (run : List Call) (call : Call) (later : List Call) :
    let fresh := new kind seed opener
    let s := fresh.after run
    let o := s.take call
    (handedOver (fresh.effects (run ++ call :: later))).length ≤ 1 ∧
    (handedOver o.effects ≠ [] ↔ s.ClosesOn call ∧ s.summary.Identified) ∧
    (s.phase ≠ .closed ∧ o.sampler.phase = .closed ↔ s.ClosesOn call) ∧
    (o.sampler.phase = .closed →
      (o.sampler.after later).phase = .closed ∧ o.sampler.effects later = [] ∧
      ∀ e ∈ later.zip (o.sampler.outcomes later),
        (∀ state, e.1.callback ≠ .window state) → e.2.result = .ok ()) := by
  intro fresh s o
  have supplied : s.Supplied := after_supplied kind seed opener run
  have course := s.take_course call
  exact ⟨handedOver_effects_le (after_supplied kind seed opener []) _,
    course_handedOver course supplied, course_closes course,
    fun closed => ⟨after_closed closed later, effects_closed closed later,
      results_closed closed later⟩⟩

end Sampler

end FlowGauge
