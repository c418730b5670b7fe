import FlowGauge.Proofs.Entries
import FlowGauge.Summary

namespace FlowGauge

theorem lookup_putSorted {α : Type} (key : String) (value : α) (d : List (String × α))
    (k : String) : (putSorted key value d).lookup k = if k = key then some value else d.lookup k := by
  induction d with
  | nil => simp [putSorted, lookup_entry]
  | cons e rest ih =>
    simp only [putSorted]
    split
    · rw [lookup_entry]
    · split
      · next replaced =>
        rw [lookup_entry, lookup_entry, ← replaced]
        split <;> rfl
      · next other =>
        rw [lookup_entry, lookup_entry, ih]
        by_cases here : k = e.1
        · simp [here, Ne.symm other]
        · simp [here]

namespace Summary

theorem lookup_filter_keys {α : Type} (kept : String → Bool) (d : List (String × α))
    (key : String) :
    (d.filter fun e => kept e.1).lookup key = if kept key then d.lookup key else none := by
  induction d with
  | nil => simp
  | cons e rest ih =>
    by_cases here : key = e.1
    · cases keep : kept e.1 <;> simp [keep, lookup_entry, here ▸ ih, here]
    · cases keep : kept e.1 <;> simp [keep, lookup_entry, ih, here]

theorem lookup_foldl_putSorted (entries : List (String × Scalar)) (d : Description)
    (key : String) :
    (entries.foldl (fun d e => putSorted e.1 e.2 d) d).lookup key =
      (entries.reverse.lookup key).or (d.lookup key) := by
  induction entries generalizing d with
  | nil => simp
  | cons e rest ih =>
    rw [List.foldl_cons, ih, List.reverse_cons, List.lookup_append, Option.or_assoc,
      lookup_putSorted, lookup_entry]
    split <;> simp

/-- Reserved keys are dropped, and of equal keys the last one wins. -/
theorem lookup_describe (seed : List (String × Scalar)) (key : String) :
    (describe seed).lookup key =
      if key ∈ reservedKeys then none else seed.reverse.lookup key := by
  have kept := lookup_filter_keys (fun k => !reservedKeys.contains k) seed.reverse key
  rw [describe, lookup_foldl_putSorted, ← List.filter_reverse, kept]
  by_cases reserved : key ∈ reservedKeys <;> simp [reserved]

theorem mem_keys_describe (seed : List (String × Scalar)) (key : String) :
    ((describe seed).lookup key).isSome = true ↔ key ∈ seed.map Prod.fst ∧ key ∉ reservedKeys := by
  rw [lookup_describe]
  by_cases reserved : key ∈ reservedKeys
  · simp [reserved]
  · rw [if_neg reserved, ← mem_keys_iff, List.map_reverse, List.mem_reverse]
    simp [reserved]

end Summary

end FlowGauge
