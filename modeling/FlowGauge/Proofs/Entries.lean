import Mathlib.Data.List.Nodup

/-! Look-ups: what is found at a place of a list that grows at its end, and what is found under a
key among entries, where the order does not always matter. -/
namespace FlowGauge

theorem getElem?_concat_eq_some_iff {α : Type} {xs : List α} {x a : α} {i : Nat} :
    (xs ++ [x])[i]? = some a ↔ xs[i]? = some a ∨ i = xs.length ∧ a = x := by
  rw [List.getElem?_append]
  split
  · next inside =>
    exact (or_iff_left fun last => absurd last.1 (Nat.ne_of_lt inside)).symm
  · next beyond =>
    have absent : xs[i]? = none := List.getElem?_eq_none_iff.mpr (Nat.not_lt.mp beyond)
    rw [absent, List.getElem?_singleton, Option.ite_none_right_eq_some, Option.some.injEq,
      or_iff_right (by simp), eq_comm (a := x)]
    exact and_congr_left' (by omega)

theorem lookup_entry {α : Type} (e : String × α) (rest : List (String × α)) (key : String) :
    (e :: rest).lookup key = if key = e.1 then some e.2 else rest.lookup key := by
  obtain ⟨k, v⟩ := e
  by_cases here : key = k
  · simp [here]
  · simp [List.lookup_cons, beq_eq_false_iff_ne.mpr here, here]

theorem mem_keys_iff {α : Type} (d : List (String × α)) (key : String) :
    key ∈ d.map Prod.fst ↔ (d.lookup key).isSome = true := by
  induction d with
  | nil => simp
  | cons e rest ih =>
    rw [List.map_cons, List.mem_cons, lookup_entry, ih]
    by_cases here : key = e.1 <;> simp [here]

theorem mem_of_lookup {α : Type} {d : List (String × α)} {key : String} {a : α}
    (found : d.lookup key = some a) : (key, a) ∈ d := by
  obtain ⟨before, after, rfl, -⟩ := List.lookup_eq_some_iff.mp found
  simp

/-- A key that stands over one value only is looked up there. -/
theorem lookup_of_mem {α : Type} {d : List (String × α)} {e : String × α} (member : e ∈ d)
    (only : ∀ f ∈ d, f.1 = e.1 → f = e) : d.lookup e.1 = some e.2 := by
  obtain ⟨a, found⟩ := Option.isSome_iff_exists.mp
    ((mem_keys_iff d e.1).mp (List.mem_map_of_mem member))
  have same := only _ (mem_of_lookup found) rfl
  rw [found, ← same]

theorem lookup_of_nodup {α : Type} {d : List (String × α)} (distinct : (d.map Prod.fst).Nodup)
    {e : String × α} (member : e ∈ d) : d.lookup e.1 = some e.2 := by
  apply lookup_of_mem member
  intro f other same
  exact List.inj_on_of_nodup_map distinct other member same

/-- Where no key stands twice, the order does not matter to a look-up. -/
theorem lookup_eq_of_perm {α : Type} {a b : List (String × α)} (p : a.Perm b)
    (distinct : (a.map Prod.fst).Nodup) (key : String) : a.lookup key = b.lookup key := by
  induction p with
  | nil => rfl
  | cons e p ih => rw [lookup_entry, lookup_entry, ih (List.nodup_cons.mp distinct).2]
  | swap e f rest =>
    have other : f.1 ≠ e.1 := by
      rw [List.map_cons, List.map_cons, List.nodup_cons, List.mem_cons, not_or] at distinct
      exact distinct.1.1
    simp only [lookup_entry]
    by_cases here : key = f.1
    · rw [if_pos here, if_neg (here ▸ other), if_pos here]
    · rw [if_neg here, if_neg here]
  | trans p q ih₁ ih₂ =>
    exact (ih₁ distinct).trans (ih₂ ((p.map Prod.fst).nodup_iff.mp distinct))

theorem lookup_map_snd {α β : Type} (f : α → β) (d : List (String × α)) (key : String) :
    (d.map fun e => (e.1, f e.2)).lookup key = (d.lookup key).map f := by
  induction d with
  | nil => rfl
  | cons e rest ih =>
    rw [List.map_cons, lookup_entry, lookup_entry, ih]
    split <;> rfl

end FlowGauge
