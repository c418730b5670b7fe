import FlowGauge.Proofs.Sampler.Account
import FlowGauge.Proofs.Sampler.Events

/-! Joins and windows are for the selectivity of one kind of node each, and for nothing else.

A sampler of another kind is the same after a run with these reports as after the run without
them. -/
namespace FlowGauge

namespace Callback

/-- A report that only a selectivity can be made of. -/
def isAuxiliary : Callback → Bool
  | join .. | window _ => true
  | _ => false

/-- An auxiliary report that is of no use for a node of this kind. A window of an illegal state is
not among them, because the sampler complains of it. -/
def uselessFor (kind : NodeKind) : Callback → Bool
  | join left right _ => kind ≠ .joinWrapping || left = 0 || right = 0
  | window state => kind ≠ .windowing && state.length.isOk
  | _ => false

end Callback

namespace Sampler

theorem checkWindow_kind (s : Sampler) (a : Answers) : (s.checkWindow a).sampler.kind = s.kind := by
  obtain same | ⟨-, -, sink, closed, -⟩ := s.checkWindow_sampler a
  · rw [same]
  · rw [closed]
    rfl

theorem course_kind {s : Sampler} {a : Answers} {c : Callback} {o : Outcome}
    (h : Course s a c o) : o.sampler.kind = s.kind := by
  cases h with
  | skipped | switched | misreported | early | refused => rfl
  | joined left right matched =>
    simp only [idle, kind, Selectivity.recordJoin]
    split <;> rfl
  | measured =>
    simp only [idle, kind, Selectivity.recordWindow]
    split <;> rfl
  | output shape => exact (s.countOutput shape).checkWindow_kind a
  | input => exact s.countInput.checkWindow_kind a
  | opening shape on unopened opens resolved obtained checked =>
    subst checked
    exact checkWindow_kind _ a

/-- A useless report succeeds and comes to nothing. -/
theorem course_useless {s : Sampler} {a : Answers} {c : Callback} {o : Outcome}
    (h : Course s a c o) (useless : c.uselessFor s.kind = true) : o = s.idle := by
  cases h with
  | skipped => rfl
  | switched | early | refused | output | input | opening => cases useless
  | joined left right matched on =>
    have unrecorded : s.selectivity.recordsJoin left right = false := by
      simp only [Callback.uselessFor, Bool.or_eq_true, decide_eq_true_eq] at useless
      rcases useless with (other | empty) | empty
      · simp [Selectivity.recordsJoin, show s.selectivity.kind ≠ .joinWrapping from other]
      · simp [Selectivity.recordsJoin, empty]
      · simp [Selectivity.recordsJoin, empty]
    simp [Selectivity.recordJoin, unrecorded]
  | measured on legal =>
    obtain ⟨other, -⟩ := Bool.and_eq_true_iff.mp useless
    have unrecorded : s.selectivity.recordsWindow = false := by
      simpa [Selectivity.recordsWindow] using (of_decide_eq_true other : s.selectivity.kind ≠ _)
    simp [Selectivity.recordWindow, unrecorded]
  | misreported on illegal =>
    simp [Callback.uselessFor, illegal, Except.isOk, Except.toBool] at useless

/-- Legal or not, an auxiliary report leaves no trace in a sampler that gathers nothing. -/
theorem course_auxiliary {s : Sampler} {a : Answers} {c : Callback} {o : Outcome}
    (h : Course s a c o) (auxiliary : c.isAuxiliary = true) (noJoins : s.kind ≠ .joinWrapping)
    (noWindows : s.kind ≠ .windowing) : o.sampler = s ∧ o.effects = [] := by
  cases h with
  | skipped | misreported => exact ⟨rfl, rfl⟩
  | switched | early | refused | output | input | opening => cases auxiliary
  | joined left right matched on =>
    rw [course_useless (.joined left right matched on)
      (by simp [Callback.uselessFor, noJoins]) (a := a)]
    exact ⟨rfl, rfl⟩
  | measured on legal =>
    rw [course_useless (.measured on legal)
      (by simp [Callback.uselessFor, noWindows, legal, Except.isOk, Except.toBool]) (a := a)]
    exact ⟨rfl, rfl⟩

theorem mem_events_kind {s : Sampler} {run : List Call} {e : Event} (member : e ∈ s.events run) :
    e.found.kind = s.kind := by
  obtain ⟨earlier, -, -, found⟩ := mem_events member
  rw [found]
  exact after_invariant (P := fun t => t.kind = s.kind)
    (fun t call same => (course_kind (t.take_course call)).trans same) rfl earlier

theorem inert_useless {s : Sampler} {run : List Call} {e : Event} (member : e ∈ s.events run)
    (useless : e.call.callback.uselessFor s.kind = true) : e.outcome = e.found.idle := by
  rw [← mem_events_kind member] at useless
  exact course_useless (e.found.take_course e.call) useless

/-- The run of a sampler that gathers nothing is as good as the run without auxiliary reports. -/
theorem run_plain {s : Sampler} (noJoins : s.kind ≠ .joinWrapping) (noWindows : s.kind ≠ .windowing)
    (run : List Call) :
    let plain := run.filter fun call => !call.callback.isAuxiliary
    s.after plain = s.after run ∧ s.effects plain = s.effects run := by
  obtain ⟨-, last, effects⟩ := s.run_without (fun e => e.call.callback.isAuxiliary) run <| by
    intro e member auxiliary
    rw [← mem_events_kind member] at noJoins noWindows
    exact course_auxiliary (e.found.take_course e.call) auxiliary noJoins noWindows
  rw [s.without_of_call fun call => call.callback.isAuxiliary] at last effects
  exact ⟨last, effects⟩

/-- **Each kind hears its own.** Deleting from a run the joins that are not for the kind of the
sampler or have an empty side, and the windows of a legal state that are not for its kind, leaves
the same sampler, the other calls come to the same, and the same is opened, handed over and logged;
the deleted reports succeed. At any time a sampler has gathered the joins and windows that it has
heard if they are for its kind, and none otherwise. So a filter, or a node of no kind, comes to the
same summary whatever it is told of joins and windows, legal or not. -/
theorem auxiliary_reports_isolated (s : Sampler) (run : List Call) :
    let useful := run.filter fun call => !call.callback.uselessFor s.kind
    (s.after useful = s.after run ∧
      s.outcomes useful =
        ((s.events run).filter fun e => !e.call.callback.uselessFor s.kind).map Event.outcome ∧
      s.effects useful = s.effects run ∧
      ∀ e ∈ s.events run, e.call.callback.uselessFor s.kind = true → e.outcome = e.found.idle) ∧
    (∀ (kind : NodeKind) (seed : List (String × Scalar)) (opener : Opener),
      let gathered := ((new kind seed opener).after run).selectivity
      gathered.joins = (if kind = .joinWrapping then joinRatios (heard false run) else []) ∧
      gathered.windows = if kind = .windowing then windowLengths (heard false run) else []) ∧
    ∀ other : List Call, s.kind = .filter ∨ s.kind = .other →
      (other.filter fun call => !call.callback.isAuxiliary) =
        (run.filter fun call => !call.callback.isAuxiliary) →
      s.after other = s.after run ∧ s.effects other = s.effects run := by
  intro useful
  refine ⟨?_, ?_, ?_⟩
  · obtain ⟨events, last, effects⟩ :=
      s.run_without (fun e => e.call.callback.uselessFor s.kind) run <| by
        intro e member useless
        rw [inert_useless member useless]
        exact ⟨rfl, rfl⟩
    rw [s.without_of_call fun call => call.callback.uselessFor s.kind] at events last effects
    exact ⟨last, by rw [outcomes_eq, events], effects, fun e => inert_useless⟩
  · intro kind seed opener gathered
    have tally : Tally kind seed opener (heard false run) ((new kind seed opener).after run) :=
      Tally.new.after run
    have gathers : gathered = gather kind (heard false run) := tally.selectivity
    rw [gathers]
    exact ⟨rfl, rfl⟩
  · intro other plainKind same
    have noJoins : s.kind ≠ .joinWrapping := by rcases plainKind with h | h <;> simp [h]
    have noWindows : s.kind ≠ .windowing := by rcases plainKind with h | h <;> simp [h]
    obtain ⟨last, effects⟩ := run_plain noJoins noWindows run
    obtain ⟨last', effects'⟩ := run_plain noJoins noWindows other
    rw [same] at last' effects'
    exact ⟨last'.symm.trans last, effects'.symm.trans effects⟩

/-- The one run is told of a join and of an illegal window, the other of an empty join and of a
window that a node with windows would measure. -/
theorem auxiliary_reports_isolated_of_filter :
    let fresh := new .filter [("id", .text "node")] .host
    let input : Call := ⟨.input (.tuple 2) .localOnly, .willing 5⟩
    let join : Call := ⟨.join 4 5 10, .willing 6⟩
    let closing : Call := ⟨.output (.tuple 2), .willing 32000000005⟩
    let run : List Call := [input, join, ⟨.window (.mapping 3), .willing 7⟩, closing]
    let other : List Call :=
      [⟨.join 0 5 10, .willing 4⟩, input, ⟨.window (.sequence 3), .willing 8⟩, closing]
    let e : Event := ⟨fresh.after [input], join⟩
    (e ∈ fresh.events run ∧ e.call.callback.uselessFor fresh.kind = true) ∧
    fresh.kind = .filter ∧
    (other.filter fun call => !call.callback.isAuxiliary) =
      (run.filter fun call => !call.callback.isAuxiliary) ∧
    (fresh.after run).phase = .closed ∧
    e.outcome = e.found.idle ∧ (fresh.after other).summary = (fresh.after run).summary ∧
    handedOver (fresh.effects other) = handedOver (fresh.effects run) := by
  intro fresh input join closing run other e
  have member : e ∈ fresh.events run := .tail _ (.head _)
  have useless : e.call.callback.uselessFor fresh.kind = true := rfl
  have same : (other.filter fun call => !call.callback.isAuxiliary) =
      (run.filter fun call => !call.callback.isAuxiliary) := rfl
  have closed : (fresh.after run).phase = .closed := by
    subst run fresh input join closing
    rfl
  obtain ⟨⟨-, -, -, idle⟩, -, plain⟩ := auxiliary_reports_isolated fresh run
  obtain ⟨last, effects⟩ := plain other (.inl rfl) same
  exact ⟨⟨member, useless⟩, rfl, same, closed, idle e member useless, by rw [last], by rw [effects]⟩

end Sampler

end FlowGauge
