import FlowGauge.Proofs.Summary.Order
import FlowGauge.Proofs.Text.Utf8

/-! What a summary takes from the seed it is made with.

An entry of the seed stands if its key is not reserved and no later entry has the same key. The
description is just the entries that stand, put in order by their keys. -/
namespace FlowGauge

namespace Summary

/-- The last entry under `key` has `value`. -/
def LastUnder (seed : List (String × Scalar)) (key : String) (value : Scalar) : Prop :=
  ∃ before after, seed = before ++ (key, value) :: after ∧ key ∉ after.map Prod.fst

/-- The entries that stand, in the order of the seed. -/
def standing : List (String × Scalar) → List (String × Scalar)
  | [] => []
  | e :: rest =>
    if e.1 ∈ reservedKeys ∨ e.1 ∈ rest.map Prod.fst then standing rest else e :: standing rest

theorem lastUnder_iff_lookup (seed : List (String × Scalar)) (key : String) (value : Scalar) :
    LastUnder seed key value ↔ seed.reverse.lookup key = some value := by
  rw [List.lookup_eq_some_iff]
  constructor
  · rintro ⟨before, after, rfl, last⟩
    refine ⟨after.reverse, before.reverse, by simp, fun e member => ?_⟩
    rw [bne_iff_ne]
    rintro rfl
    exact last (List.mem_map_of_mem (List.mem_reverse.mp member))
  · rintro ⟨after, before, reversed, last⟩
    refine ⟨before.reverse, after.reverse, ?_, ?_⟩
    · rw [← List.reverse_reverse seed, reversed]
      simp
    · rw [List.map_reverse, List.mem_reverse]
      rintro member
      obtain ⟨e, inAfter, rfl⟩ := List.mem_map.mp member
      exact bne_iff_ne.mp (last e inAfter) rfl

theorem lastUnder_cons (e : String × Scalar) (rest : List (String × Scalar)) (key : String)
    (value : Scalar) : LastUnder (e :: rest) key value ↔
      e = (key, value) ∧ key ∉ rest.map Prod.fst ∨ LastUnder rest key value := by
  constructor
  · rintro ⟨before, after, parts, last⟩
    cases before with
    | nil =>
      obtain ⟨rfl, rfl⟩ := List.cons.inj parts
      exact .inl ⟨rfl, last⟩
    | cons _ before =>
      obtain ⟨-, rfl⟩ := List.cons.inj parts
      exact .inr ⟨before, after, rfl, last⟩
  · rintro (⟨rfl, last⟩ | ⟨before, after, rfl, last⟩)
    · exact ⟨[], rest, rfl, last⟩
    · exact ⟨e :: before, after, rfl, last⟩

theorem LastUnder.mem_keys {seed : List (String × Scalar)} {key : String} {value : Scalar}
    (h : LastUnder seed key value) : key ∈ seed.map Prod.fst := by
  obtain ⟨before, after, rfl, -⟩ := h
  simp

theorem mem_standing_iff (seed : List (String × Scalar)) (key : String) (value : Scalar) :
    (key, value) ∈ standing seed ↔ key ∉ reservedKeys ∧ LastUnder seed key value := by
  induction seed with
  | nil => simp [standing, LastUnder]
  | cons e rest ih =>
    rw [lastUnder_cons, standing]
    split
    · next dropped =>
      rw [ih]
      refine and_congr_right fun unreserved => ⟨.inr, ?_⟩
      rintro (⟨rfl, last⟩ | later)
      · exact absurd (dropped.resolve_left unreserved) last
      · exact later
    · next stands =>
      obtain ⟨unreserved, last⟩ := not_or.mp stands
      rw [List.mem_cons, ih]
      constructor
      · rintro (rfl | later)
        · exact ⟨unreserved, .inl ⟨rfl, last⟩⟩
        · exact later.imp_right .inr
      · rintro ⟨free, ⟨rfl, -⟩ | later⟩
        · exact .inl rfl
        · exact .inr ⟨free, later⟩

theorem keys_standing_subset (seed : List (String × Scalar)) :
    ∀ key ∈ (standing seed).map Prod.fst, key ∈ seed.map Prod.fst := by
  intro key member
  obtain ⟨⟨key, value⟩, stands, rfl⟩ := List.mem_map.mp member
  exact ((mem_standing_iff seed key value).mp stands).2.mem_keys

theorem nodup_standing (seed : List (String × Scalar)) : ((standing seed).map Prod.fst).Nodup := by
  induction seed with
  | nil => exact List.nodup_nil
  | cons e rest ih =>
    rw [standing]
    split
    · exact ih
    · next stands =>
      have fresh := mt (keys_standing_subset rest e.1) (not_or.mp stands).2
      exact List.nodup_cons.mpr ⟨fresh, ih⟩

theorem mem_describe_iff (seed : List (String × Scalar)) (key : String) (value : Scalar) :
    (key, value) ∈ describe seed ↔ key ∉ reservedKeys ∧ LastUnder seed key value := by
  have looked : (key, value) ∈ describe seed ↔ (describe seed).lookup key = some value :=
    ⟨lookup_of_nodup (ordered_describe seed).nodup, mem_of_lookup⟩
  rw [looked, lookup_describe, lastUnder_iff_lookup]
  by_cases reserved : key ∈ reservedKeys <;> simp [reserved]

theorem perm_describe (seed : List (String × Scalar)) : (describe seed).Perm (standing seed) := by
  have distinct := List.Nodup.of_map _ (ordered_describe seed).nodup
  have distinct' := List.Nodup.of_map _ (nodup_standing seed)
  refine (List.perm_ext_iff_of_nodup distinct distinct').mpr fun ⟨key, value⟩ => ?_
  rw [mem_describe_iff, mem_standing_iff]

/-- Two descriptions with the same entries are one. -/
theorem eq_of_perm {a b : Description} (ha : Ordered a) (hb : Ordered b) (h : a.Perm b) : a = b :=
  h.eq_of_pairwise (fun _ _ _ _ less greater => absurd greater (String.lt_asymm less)) ha hb

theorem describe_eq_iff (a b : List (String × Scalar)) :
    describe a = describe b ↔ (standing a).Perm (standing b) := by
  constructor
  · intro same
    exact (perm_describe a).symm.trans (same ▸ perm_describe b)
  · intro perm
    exact eq_of_perm (ordered_describe a) (ordered_describe b)
      ((perm_describe a).trans (perm.trans (perm_describe b).symm))

theorem id_eq_some_iff (seed : List (String × Scalar)) (kind : NodeKind) (value : Scalar) :
    (new seed kind).id? = some value ↔ LastUnder seed idKey value ∧ value ≠ .null := by
  have free : idKey ∉ reservedKeys := by decide
  have present : value.isNull = false ↔ value ≠ .null := by
    cases value <;> simp [Scalar.isNull]
  rw [id?, Option.filter_eq_some_iff]
  show (describe seed).lookup idKey = some value ∧ _ ↔ _
  rw [lookup_describe, if_neg free, ← lastUnder_iff_lookup, Bool.not_eq_true', present]

/-- **What a new summary takes from its seed.** The keys of the description are those of the seed
that are not reserved, and under each stands the value of the last entry under it. The keys are
strictly increasing as UTF-8 bytes. The identifier is the value of the last entry under its key, if
there is one and it is not null. Two seeds make the same summary exactly if the entries that stand
are the same in both, in whatever order. -/
theorem new_tells_seed (seed : List (String × Scalar)) (kind : NodeKind) :
    let s := new seed kind
    (∀ key, key ∈ s.description.map Prod.fst ↔ key ∈ seed.map Prod.fst ∧ key ∉ reservedKeys) ∧
    (∀ key value, (key, value) ∈ s.description ↔ key ∉ reservedKeys ∧ LastUnder seed key value) ∧
    (s.description.map fun e => Text.utf8 e.1).Pairwise (· < ·) ∧
    (∀ value, s.id? = some value ↔ LastUnder seed idKey value ∧ value ≠ .null) ∧
    ∀ other, new other kind = s ↔ (standing other).Perm (standing seed) := by
  intro s
  refine ⟨?_, mem_describe_iff seed, ?_, id_eq_some_iff seed kind, ?_⟩
  · intro key
    rw [mem_keys_iff]
    exact mem_keys_describe seed key
  · refine List.pairwise_map.mpr ((ordered_describe seed).imp ?_)
    intro a b less
    exact (Text.utf8_lt_iff a.1 b.1).mpr less
  · intro other
    rw [← describe_eq_iff]
    constructor
    · intro same
      exact congrArg description same
    · intro same
      simp only [s, new, same]

/-- An identifier that a later null overrides is none, and a reserved key makes no difference. -/
example :
    (new [("id", .integer 1), ("inputRate", .integer 9), ("id", .null)] .other).id? = none := by
  rfl

end Summary

end FlowGauge
