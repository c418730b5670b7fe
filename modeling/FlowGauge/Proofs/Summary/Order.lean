import FlowGauge.Proofs.Summary.Description

namespace FlowGauge

/-- Keys strictly increasing, so no key twice. -/
def Ordered {α : Type} (d : List (String × α)) : Prop :=
  d.Pairwise fun a b => a.1 < b.1

theorem Ordered.nodup {α : Type} {d : List (String × α)} (h : Ordered d) :
    (d.map Prod.fst).Nodup := by
  refine List.pairwise_map.mpr (h.imp ?_)
  intro a b less same
  exact String.lt_irrefl b.1 (same ▸ less)

theorem mem_putSorted {α : Type} {key : String} {value : α} {d : List (String × α)}
    {e : String × α} (member : e ∈ putSorted key value d) : e = (key, value) ∨ e ∈ d := by
  induction d with
  | nil => exact .inl (List.mem_singleton.mp member)
  | cons f rest ih =>
    simp only [putSorted] at member
    split at member
    · exact List.mem_cons.mp member
    · split at member
      · exact (List.mem_cons.mp member).imp_right (List.mem_cons_of_mem f)
      · rcases List.mem_cons.mp member with rfl | later
        · exact .inr List.mem_cons_self
        · exact (ih later).imp_right (List.mem_cons_of_mem f)

theorem Ordered.putSorted {α : Type} {d : List (String × α)} (h : Ordered d) (key : String)
    (value : α) : Ordered (putSorted key value d) := by
  induction d with
  | nil => exact List.pairwise_singleton _ _
  | cons f rest ih =>
    obtain ⟨above, ordered⟩ := List.pairwise_cons.mp h
    simp only [FlowGauge.putSorted]
    split
    · next less =>
      refine List.pairwise_cons.mpr ⟨fun e member => ?_, h⟩
      rcases List.mem_cons.mp member with rfl | later
      · exact less
      · exact String.lt_trans less (above e later)
    · split
      · next same => exact List.pairwise_cons.mpr ⟨fun e member => same ▸ above e member, ordered⟩
      · next notLess other =>
        refine List.pairwise_cons.mpr ⟨fun e member => ?_, ih ordered⟩
        rcases mem_putSorted member with rfl | later
        · exact Decidable.byContradiction fun notAbove =>
            other (String.le_antisymm (String.not_lt.mp notAbove) (String.not_lt.mp notLess))
        · exact above e later

/-- A new key adds its entry and keeps the others. -/
theorem perm_putSorted {α : Type} {key : String} {d : List (String × α)}
    (fresh : key ∉ d.map Prod.fst) (value : α) :
    (putSorted key value d).Perm ((key, value) :: d) := by
  induction d with
  | nil => exact List.Perm.refl _
  | cons f rest ih =>
    rw [List.map_cons, List.mem_cons, not_or] at fresh
    simp only [putSorted]
    split
    · exact List.Perm.refl _
    · rw [if_neg fresh.1]
      exact ((ih fresh.2).cons f).trans (List.Perm.swap _ _ _)

theorem ordered_foldl {α : Type} (entries : List (String × α)) {d : List (String × α)}
    (h : Ordered d) : Ordered (entries.foldl (fun d e => putSorted e.1 e.2 d) d) := by
  induction entries generalizing d with
  | nil => exact h
  | cons e rest ih => exact ih (h.putSorted e.1 e.2)

theorem perm_foldl {α : Type} {entries d : List (String × α)}
    (distinct : ((d ++ entries).map Prod.fst).Nodup) :
    (entries.foldl (fun d e => putSorted e.1 e.2 d) d).Perm (d ++ entries) := by
  induction entries generalizing d with
  | nil => simp
  | cons e rest ih =>
    have moved : (d ++ e :: rest).Perm (e :: d ++ rest) := List.perm_middle
    have fresh : e.1 ∉ d.map Prod.fst := by
      rw [List.map_append, List.nodup_append] at distinct
      exact fun member => distinct.2.2 _ member _ List.mem_cons_self rfl
    have placed := (perm_putSorted fresh e.2).append_right rest
    have distinct' := ((placed.trans moved.symm).map Prod.fst).nodup_iff.mpr distinct
    exact (ih distinct').trans (placed.trans moved.symm)

theorem Summary.ordered_describe (seed : List (String × Scalar)) : Ordered (describe seed) :=
  ordered_foldl _ List.Pairwise.nil

end FlowGauge
