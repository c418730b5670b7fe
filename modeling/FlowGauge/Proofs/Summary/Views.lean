import FlowGauge.Document.Node
import FlowGauge.Proofs.Json.Reading
import FlowGauge.Proofs.Summary.Order

/-! The three views of a summary agree: looking up one key, the entries as they are written, and the
document. What is measured stands under reserved keys, and a description has none of these. -/
namespace FlowGauge

theorem Scalar.json_eq_null_iff (v : Scalar) :
    v.json = .null ↔ v = .null ∨ ∃ x, v = .float x ∧ x.isFinite = false := by
  cases v with
  | float x => cases finite : x.isFinite <;> simp [Scalar.json, finite]
  | null | bool b | integer n | text s => simp [Scalar.json]

/-- Nothing is lost of a value that is not written as null. -/
theorem Scalar.json_injective {v w : Scalar} (same : v.json = w.json) (kept : v.json ≠ .null) :
    v = w := by
  have finite {x : Float} (h : (Scalar.float x).json ≠ .null) :
      (Scalar.float x).json = .float x := by
    simp only [Scalar.json] at h ⊢
    split
    · rfl
    · next other => exact absurd (if_neg other) h
  have kept' := same ▸ kept
  cases v with
  | float x =>
    rw [finite kept] at same
    cases w with
    | float y =>
      rw [finite kept'] at same
      cases same
      rfl
    | null | bool _ | integer _ | text _ => cases same
  | null => exact absurd rfl kept
  | bool _ | text _ =>
    cases w with
    | float y =>
      rw [finite kept'] at same
      cases same
    | null | bool _ | integer _ | text _ =>
      cases same <;> rfl
  | integer n =>
    cases w with
    | float y =>
      rw [finite kept'] at same
      cases same
    | integer k =>
      simp only [Scalar.json, Json.integer.injEq] at same
      rw [Int64.toInt_inj.mp same]
    | null | bool _ | text _ => cases same

namespace Summary

/-- The value under a key as a document has it. -/
def shown (e : String × Scalar) : String × Json :=
  (e.1, e.2.json)

/-- What every description is: in order, and without reserved keys. -/
structure Described (s : Summary) : Prop where
  ordered : Ordered s.description
  unreserved : ∀ key ∈ reservedKeys, s.description.lookup key = none

theorem described_new {seed : List (String × Scalar)} {s : Summary}
    (h : s.description = describe seed) : s.Described where
  ordered := h ▸ ordered_describe seed
  unreserved key reserved := by rw [h, lookup_describe, if_pos reserved]

theorem keys_measured (s : Summary) : (s.measured.map Prod.fst).Sublist reservedKeys := by
  have known (key : String) (x : Option Float) :
      ((measured? key x).map Prod.fst).Sublist [key] := by
    cases x with
    | none => exact List.nil_sublist _
    | some x => exact List.Sublist.refl _
  simp only [measured, List.map_append]
  exact (((List.Sublist.refl _).append (known inputRateKey _)).append
    (known outputRateKey _)).append (known realSelectivityKey _)

theorem lookup_measured (s : Summary) (key : String) : s.measured.lookup key =
    if key ∈ reservedKeys then s.get? key else none := by
  have known (name : String) (x : Option Float) :
      (measured? name x).lookup key = if key = name then x.map .float else none := by
    cases x with
    | none => simp [measured?]
    | some x => rw [measured?, lookup_entry]; rfl
  rw [measured, List.lookup_append, List.lookup_append, List.lookup_append, known, known, known,
    lookup_entry, lookup_entry, List.lookup_nil]
  by_cases reserved : key ∈ reservedKeys
  · rw [if_pos reserved]
    simp only [reservedKeys, List.mem_cons, List.not_mem_nil, or_false] at reserved
    rcases reserved with rfl | rfl | rfl | rfl | rfl <;>
      simp [get?, tupleWidthInKey, tupleWidthOutKey, inputRateKey, outputRateKey,
        realSelectivityKey]
  · rw [if_neg reserved]
    simp only [reservedKeys, List.mem_cons, List.not_mem_nil, or_false, not_or] at reserved
    simp [reserved]

theorem Described.nodup_entries {s : Summary} (h : s.Described) :
    (s.entries.map Prod.fst).Nodup := by
  have distinct : reservedKeys.Nodup := by decide
  rw [entries, List.map_append, List.nodup_append]
  refine ⟨h.ordered.nodup, s.keys_measured.nodup distinct, ?_⟩
  rintro key described _ measured rfl
  have absent := List.lookup_eq_none_iff.mp (h.unreserved key (s.keys_measured.subset measured))
  obtain ⟨e, member, rfl⟩ := List.mem_map.mp described
  simpa using absent e member

theorem document_eq_foldl (s : Summary) :
    s.document = (s.measured.map shown).foldl (fun d e => putSorted e.1 e.2 d)
      (s.description.map shown) := by
  rw [List.foldl_map]
  rfl

theorem Described.perm_document {s : Summary} (h : s.Described) :
    s.document.Perm (s.entries.map shown) := by
  have keys : ((s.description.map shown ++ s.measured.map shown).map Prod.fst) =
      s.entries.map Prod.fst := by
    rw [← List.map_append, List.map_map]
    rfl
  rw [document_eq_foldl, entries, List.map_append]
  exact perm_foldl (keys ▸ h.nodup_entries)

theorem Described.ordered_document {s : Summary} (h : s.Described) : Ordered s.document := by
  rw [document_eq_foldl]
  exact ordered_foldl _ (List.pairwise_map.mpr h.ordered)

/-- Looking up a key is looking it up among the entries. -/
theorem Described.get?_eq_lookup {s : Summary} (h : s.Described) (key : String) :
    s.get? key = s.entries.lookup key := by
  rw [entries, List.lookup_append, lookup_measured]
  by_cases reserved : key ∈ reservedKeys
  · rw [h.unreserved key reserved, if_pos reserved, Option.none_or]
  · rw [if_neg reserved, Option.or_none]
    simp only [reservedKeys, List.mem_cons, List.not_mem_nil, or_false, not_or] at reserved
    obtain ⟨h₁, h₂, h₃, h₄, h₅⟩ := reserved
    rw [get?, if_neg h₁, if_neg h₂, if_neg h₃, if_neg h₄, if_neg h₅]

theorem Described.lookup_document {s : Summary} (h : s.Described) (key : String) :
    s.document.lookup key = (s.get? key).map Scalar.json := by
  have distinct := (h.perm_document.map Prod.fst).nodup_iff.mpr (by
    simpa [List.map_map, Function.comp_def, shown] using h.nodup_entries)
  rw [lookup_eq_of_perm h.perm_document distinct, h.get?_eq_lookup]
  exact lookup_map_snd Scalar.json _ _

/-- **The three views of a summary agree.** The entries as they are written have no key twice; the
document holds just these, with what is written under each key, and has its keys in order; looking
up a key finds a value exactly if the document has the key, and the document then has what that
value is written as, which is null if it is null or a float that is not finite, and tells the value
otherwise. The text of a summary is read to its end as an object with exactly these keys. -/
theorem views_agree (seed : List (String × Scalar)) (kind : NodeKind) (widthIn widthOut : Int64)
    (inputRate outputRate realSelectivity : Option Float) :
    let s : Summary :=
      { new seed kind with
        tupleWidthIn := widthIn
        tupleWidthOut := widthOut
        inputRate := inputRate
        outputRate := outputRate
        realSelectivity := realSelectivity }
    (s.entries.map Prod.fst).Nodup ∧
    s.document.Perm (s.entries.map fun e => (e.1, e.2.json)) ∧ Ordered s.document ∧
    (∀ key, s.document.lookup key = (s.get? key).map Scalar.json) ∧
    (∀ v : Scalar, v.json = .null ↔ v = .null ∨ ∃ x, v = .float x ∧ x.isFinite = false) ∧
    (∀ v w : Scalar, v.json = w.json → v.json ≠ .null → v = w) ∧
    ∃ fields, Json.read s.json.render = ⟨.table fields, true⟩ ∧
      (Document.Node.table fields).readable = true ∧
      (Document.Node.table fields).depth < Scalar.maxDepth ∧
      (fields.map Prod.fst).Perm (s.document.map Prod.fst) := by
  intro s
  have described : s.Described := described_new rfl
  obtain ⟨fields, found, same⟩ := Json.read_object s.entries
  refine ⟨described.nodup_entries, described.perm_document, described.ordered_document,
    described.lookup_document, Scalar.json_eq_null_iff, fun v w => Scalar.json_injective,
    fields, found, same.readable, ?_, ?_⟩
  · rw [same.depth]
    decide
  · rw [same.keys]
    simpa [List.map_map, Function.comp_def, shown] using (described.perm_document.map Prod.fst).symm

end Summary

end FlowGauge
