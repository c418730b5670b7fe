import FlowGauge.Proofs.Sampler.Account
import FlowGauge.Proofs.Summary.Views

/-! Which keys the document of a sampler has, in every phase.

The keys are decided in three places: the seed and the kind at the start, the phase when the window
closes, and the selectivity that closing computes or leaves alone. `Measured` is what they keep
together. -/
namespace FlowGauge

namespace Summary

/-- The keys are those of the description and those of what is measured. -/
theorem get?_isSome_iff (s : Summary) (key : String) :
    (s.get? key).isSome = true ↔
      (s.description.lookup key).isSome = true ∧ key ∉ reservedKeys ∨
      key = tupleWidthInKey ∨ key = tupleWidthOutKey ∨
      key = inputRateKey ∧ s.inputRate.isSome = true ∨
      key = outputRateKey ∧ s.outputRate.isSome = true ∨
      key = realSelectivityKey ∧ s.realSelectivity.isSome = true := by
  by_cases reserved : key ∈ reservedKeys
  · simp only [reserved, not_true_eq_false, and_false, false_or]
    simp only [reservedKeys, List.mem_cons, List.not_mem_nil, or_false] at reserved
    rcases reserved with rfl | rfl | rfl | rfl | rfl <;>
      simp [get?, tupleWidthInKey, tupleWidthOutKey, inputRateKey, outputRateKey,
        realSelectivityKey]
  · have unreserved := reserved
    simp only [reservedKeys, List.mem_cons, List.not_mem_nil, or_false, not_or] at unreserved
    obtain ⟨h₁, h₂, h₃, h₄, h₅⟩ := unreserved
    simp [get?, reserved, h₁, h₂, h₃, h₄, h₅]

theorem Described.mem_document_iff {s : Summary} (h : s.Described) (key : String) :
    key ∈ s.document.map Prod.fst ↔ (s.get? key).isSome = true := by
  rw [mem_keys_iff, h.lookup_document, Option.isSome_map]

end Summary

namespace Sampler

/-- A closed window has its rates, and a kind with a selectivity always has one. -/
structure Measured (kind : NodeKind) (s : Sampler) : Prop where
  same_kind : s.kind = kind
  inputRate : s.summary.inputRate.isSome = true ↔ s.phase = .closed
  outputRate : s.summary.outputRate.isSome = true ↔ s.phase = .closed
  realSelectivity : s.summary.realSelectivity.isSome = true ↔ kind ≠ .other

theorem measured_new (kind : NodeKind) (seed : List (String × Scalar)) (opener : Opener) :
    (new kind seed opener).Measured kind where
  same_kind := rfl
  inputRate := by simp [new, Summary.new]
  outputRate := by simp [new, Summary.new]
  realSelectivity := by cases kind <;> simp [new, Summary.new, NodeKind.hasSelectivity]

theorem isSome_compute (s : Selectivity) (inputs outputs : Nat) :
    (s.compute inputs outputs).isSome = true ↔ s.kind ≠ .other := by
  unfold Selectivity.compute
  cases s.kind <;> simp

theorem Measured.checkWindow {kind : NodeKind} {s : Sampler} (h : s.Measured kind) (a : Answers) :
    (s.checkWindow a).sampler.Measured kind := by
  obtain same | ⟨-, -, sink, closed, -⟩ := s.checkWindow_sampler a
  · rw [same]
    exact h
  · rw [closed]
    refine ⟨h.same_kind, by simp [finalSummary], by simp [finalSummary], ?_⟩
    show ((s.selectivity.compute s.inputs s.outputs).or s.summary.realSelectivity).isSome = true ↔ _
    have same : s.selectivity.kind = kind := h.same_kind
    rw [Option.isSome_or, Bool.or_eq_true, isSome_compute, same, h.realSelectivity, or_self]

/-- Neither widths nor counts matter, nor what has been gathered for the selectivity. -/
theorem Measured.of_same {kind : NodeKind} {s t : Sampler} (h : s.Measured kind)
    (sameKind : t.kind = s.kind) (phase : t.phase = .closed ↔ s.phase = .closed)
    (measured : t.summary.inputRate = s.summary.inputRate ∧
      t.summary.outputRate = s.summary.outputRate ∧
      t.summary.realSelectivity = s.summary.realSelectivity) : t.Measured kind where
  same_kind := sameKind.trans h.same_kind
  inputRate := by rw [measured.1, h.inputRate, phase]
  outputRate := by rw [measured.2.1, h.outputRate, phase]
  realSelectivity := by rw [measured.2.2, h.realSelectivity]

theorem course_measured {kind : NodeKind} {s : Sampler} {a : Answers} {c : Callback} {o : Outcome}
    (course : Course s a c o) (h : s.Measured kind) : o.sampler.Measured kind := by
  cases course with
  | skipped | misreported | early | refused => exact h
  | switched value => exact { h with }
  | joined left right matched =>
    refine h.of_same ?_ Iff.rfl ⟨rfl, rfl, rfl⟩
    simp only [idle, Sampler.kind, Selectivity.recordJoin]
    split <;> rfl
  | measured =>
    refine h.of_same ?_ Iff.rfl ⟨rfl, rfl, rfl⟩
    simp only [idle, Sampler.kind, Selectivity.recordWindow]
    split <;> rfl
  | output shape =>
    exact (h.of_same (t := s.countOutput shape) rfl Iff.rfl ⟨rfl, rfl, rfl⟩).checkWindow a
  | input => exact (h.of_same (t := s.countInput) rfl Iff.rfl ⟨rfl, rfl, rfl⟩).checkWindow a
  | @opening shape config mode sink on unopened opens resolved obtained outcome checked =>
    subst checked
    have opened : (s.opened shape mode sink a.openedAt).countInput.Measured kind :=
      h.of_same rfl (by simp [opened, countInput, unopened]) ⟨rfl, rfl, rfl⟩
    exact opened.checkWindow a

theorem handed_checkWindow {s : Sampler} {a : Answers} {summary : Summary}
    (handed : summary ∈ handedOver (s.checkWindow a).effects) :
    (s.checkWindow a).sampler.summary = summary ∧ (s.checkWindow a).sampler.phase = .closed := by
  obtain ⟨observing, due, rfl⟩ := mem_handedOver_checkWindow handed
  obtain ⟨sink, closed, -⟩ := s.close_sampler (a.checkedAt.since s.start) a.delivery
  rw [checkWindow_closes observing due, closed]
  exact ⟨rfl, rfl⟩

/-- The sink is handed the summary that the sampler is left with. -/
theorem course_handed {s : Sampler} {a : Answers} {c : Callback} {o : Outcome}
    (h : Course s a c o) {summary : Summary} (handed : summary ∈ handedOver o.effects) :
    o.sampler.summary = summary ∧ o.sampler.phase = .closed := by
  cases h with
  | skipped | switched | joined | measured | misreported | early => cases handed
  | refused => simp [handedOver_openerCalls] at handed
  | output shape => exact handed_checkWindow handed
  | input => exact handed_checkWindow handed
  | opening shape on unopened opens resolved obtained checked =>
    subst checked
    simp only [handedOver_append, handedOver_openerCalls, handedOver_logged, handedOver_nil,
      List.nil_append] at handed
    exact handed_checkWindow handed

/-- What a seed has under reserved keys is lost at the start. -/
theorem new_congr {seed other : List (String × Scalar)}
    (same : (other.filter fun e => e.1 ∉ Summary.reservedKeys) =
      seed.filter fun e => e.1 ∉ Summary.reservedKeys) (kind : NodeKind) (opener : Opener) :
    new kind other opener = new kind seed opener := by
  have described (seed : List (String × Scalar)) : Summary.describe seed =
      (seed.filter fun e => e.1 ∉ Summary.reservedKeys).foldl
        (fun d e => putSorted e.1 e.2 d) [] := by
    simp [Summary.describe]
  simp only [new, Summary.new, described, same]

/-- **The schema of a document.** In every phase of every run the document has these keys and no
other: those of the seed that are not reserved, both widths, both rates exactly if the window has
closed, and the selectivity exactly if the kind of the node has one. Until the window closes the
selectivity is zero. The description and the kind are those of the start, and the seed's values
under reserved keys make no difference to anything. What a sink is handed is the summary that the
closed sampler has, so its document has the same keys. -/
theorem document_schema (capabilities : Capabilities) (seed : List (String × Scalar))
    (opener : Opener) (run : List Call) :
    let s := (new capabilities.kind seed opener).after run
    (∀ key, key ∈ s.summary.document.map Prod.fst ↔
      key ∈ seed.map Prod.fst ∧ key ∉ Summary.reservedKeys ∨
      key = Summary.tupleWidthInKey ∨ key = Summary.tupleWidthOutKey ∨
      key = Summary.inputRateKey ∧ s.phase = .closed ∨
      key = Summary.outputRateKey ∧ s.phase = .closed ∨
      key = Summary.realSelectivityKey ∧ capabilities.kind ≠ .other) ∧
    (s.summary.document.map Prod.fst).Nodup ∧
    (s.phase ≠ .closed → s.summary.realSelectivity =
      if capabilities.kind = .other then none else some 0) ∧
    s.summary.description = Summary.describe seed ∧ s.kind = capabilities.kind ∧
    (∀ key ∈ Summary.reservedKeys, s.summary.description.lookup key = none) ∧
    (∀ other : List (String × Scalar),
      (other.filter fun e => e.1 ∉ Summary.reservedKeys) =
        (seed.filter fun e => e.1 ∉ Summary.reservedKeys) →
      (new capabilities.kind other opener).after run = s) ∧
    ∀ call, ∀ summary ∈ handedOver (s.take call).effects,
      (s.take call).sampler.summary = summary ∧ (s.take call).sampler.phase = .closed := by
  intro s
  have tally : Tally capabilities.kind seed opener (heard false run) s := Tally.new.after run
  have measured : s.Measured capabilities.kind :=
    after_invariant (P := Measured capabilities.kind)
      (fun s call => course_measured (s.take_course call)) (measured_new ..) run
  have described : s.summary.Described := Summary.described_new tally.description
  refine ⟨?_, described.ordered_document.nodup, ?_, tally.description, measured.same_kind,
    described.unreserved, ?_, ?_⟩
  · intro key
    have seeded := Summary.mem_keys_describe seed key
    rw [described.mem_document_iff, Summary.get?_isSome_iff, tally.description, seeded,
      measured.inputRate, measured.outputRate, measured.realSelectivity, and_assoc, and_self]
  · intro unclosed
    rw [tally.unmeasured unclosed]
    cases capabilities.kind <;> rfl
  · intro other same
    rw [new_congr same]
  · intro call summary
    exact course_handed (s.take_course call)

end Sampler

end FlowGauge
