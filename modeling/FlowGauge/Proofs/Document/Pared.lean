import FlowGauge.Proofs.Document.Tidy

/-! Keys that no field of a record asks for.

A table is pared down to the fields, and so are the tables below it. A record reads the same from a
tidy table and from what paring leaves of it, down to the objection that it makes. -/
namespace FlowGauge.Document

/-- The entries under these names, and what stands there pared in its turn. -/
def paredEntries (known : List String) (within : String → Node → Node)
    (entries : List (String × Node)) : List (String × Node) :=
  (entries.filter fun e => e.1 ∈ known).map fun e => (e.1, within e.1 e.2)

def pare (known : List String) (within : String → Node → Node) : Node → Node
  | .table entries => .table (paredEntries known within entries)
  | n => n

variable {known : List String} {within : String → Node → Node} {entries : List (String × Node)}

theorem paredEntries_cons (e : String × Node) (rest : List (String × Node)) :
    paredEntries known within (e :: rest) =
      if e.1 ∈ known then (e.1, within e.1 e.2) :: paredEntries known within rest
      else paredEntries known within rest := by
  by_cases kept : e.1 ∈ known <;> simp [paredEntries, kept]

theorem lookup_pared {key : String} (isKnown : key ∈ known) (entries : List (String × Node)) :
    (paredEntries known within entries).lookup key = (entries.lookup key).map (within key) := by
  induction entries with
  | nil => rfl
  | cons e rest ih =>
    rw [lookup_entry e rest, paredEntries_cons]
    by_cases kept : e.1 ∈ known
    · rw [if_pos kept, lookup_entry]
      by_cases here : key = e.1
      · rw [if_pos here, if_pos here, here]
        rfl
      · rw [if_neg here, if_neg here]
        exact ih
    · have other : key ≠ e.1 := fun same => kept (same ▸ isKnown)
      rw [if_neg kept, if_neg other]
      exact ih

theorem Tidy.pare {n : Node} (tidy : Tidy n) (keeps : ∀ key n, Tidy n → Tidy (within key n)) :
    Tidy (pare known within n) := by
  cases tidy with
  | bool | integer | float | text => constructor
  | list each => exact .list each
  | @table entries distinct each =>
    apply Tidy.table
    · have keys : (paredEntries known within entries).map Prod.fst =
          (entries.filter fun e => e.1 ∈ known).map Prod.fst := by
        rw [paredEntries, List.map_map]
        rfl
      rw [keys]
      exact distinct.sublist (List.filter_sublist.map _)
    · intro e member
      obtain ⟨f, kept, rfl⟩ := List.mem_map.mp member
      exact keeps _ _ (each f (List.mem_filter.mp kept).1)

/-- What stands under the fields is pared so that none of them can tell. -/
structure Pares (fields : List Field) (within : String → Node → Node) : Prop where
  tidy : ∀ key n, Tidy n → Tidy (within key n)
  same : ∀ f ∈ fields, ∀ n, Tidy n → f.2 (within f.1 n) = f.2 n

theorem Pares.firstObjection_eq {fields : List Field} (h : Pares fields within)
    (tidy : Tidy (.table entries)) :
    firstObjection fields [] (paredEntries (names fields) within entries) =
      firstObjection fields [] entries := by
  have tidyPared : Tidy (.table (paredEntries (names fields) within entries)) := tidy.pare h.tidy
  obtain ⟨distinct, each⟩ := tidy_table_iff.mp tidy
  rw [firstObjection_eq_findSome? (tidy_table_iff.mp tidyPared).1 (by simp),
    firstObjection_eq_findSome? distinct (by simp)]
  clear distinct tidyPared tidy
  induction entries with
  | nil => rfl
  | cons e rest ih =>
    obtain ⟨here, later⟩ := List.forall_mem_cons.mp each
    rw [paredEntries_cons, List.findSome?_cons, ← ih later]
    by_cases isField : e.1 ∈ names fields
    · obtain ⟨check, own⟩ := Option.isSome_iff_exists.mp ((mem_keys_iff fields e.1).mp isField)
      have same : check (within e.1 e.2) = check e.2 := h.same _ (mem_of_lookup own) e.2 here
      rw [if_pos isField, List.findSome?_cons, entryObjection_of_lookup own here.keyed,
        entryObjection_of_lookup own (h.tidy e.1 e.2 here).keyed, same]
    · rw [if_neg isField, (entryObjection_of_other isField here.whole).mpr here.keyed]

theorem optional_pared {α : Type} {index : Nat} {name : String} {read : Read α} {absent : α}
    (tidy : Tidy (.table entries)) (isKnown : name ∈ known)
    (same : ∀ n, Tidy n → read (within name n) = read n) :
    (Record.named (paredEntries known within entries)).optional index name read absent =
      (Record.named entries).optional index name read absent := by
  simp only [Record.optional, Record.field?, lookup_pared isKnown]
  cases found : entries.lookup name with
  | none => rfl
  | some n => exact same n (tidy.of_lookup found)

theorem required_pared {α : Type} {index : Nat} {name whole : String} {read : Read α}
    (tidy : Tidy (.table entries)) (isKnown : name ∈ known)
    (same : ∀ n, Tidy n → read (within name n) = read n) :
    (Record.named (paredEntries known within entries)).required index name whole read =
      (Record.named entries).required index name whole read := by
  simp only [Record.required, Record.field?, lookup_pared isKnown]
  cases found : entries.lookup name with
  | none => rfl
  | some n => exact same n (tidy.of_lookup found)

theorem objection_congr {α : Type} {read : Read α} {m n : Node} (same : read m = read n) :
    objection read m = objection read n := by
  rw [objection, objection, same]

/-- A record of two fields that may be left out. -/
theorem read_pair_pared {α β γ : Type} {d : Dialect} {type first second : String}
    {readFirst : Read α} {readSecond : Read β} {absentFirst : α} {absentSecond : β}
    (make : α → β → γ) (tidy : Tidy (.table entries))
    (keeps : ∀ key n, Tidy n → Tidy (within key n))
    (sameFirst : ∀ n, Tidy n → readFirst (within first n) = readFirst n)
    (sameSecond : ∀ n, Tidy n → readSecond (within second n) = readSecond n) :
    (do
      let r ← readRecord type [field first readFirst, field second readSecond]
        (.table (paredEntries [first, second] within entries))
      let x ← r.optional 0 first readFirst absentFirst
      let y ← r.optional 1 second readSecond absentSecond
      r.close d 2
      return make x y) =
    (do
      let r ← readRecord type [field first readFirst, field second readSecond] (.table entries)
      let x ← r.optional 0 first readFirst absentFirst
      let y ← r.optional 1 second readSecond absentSecond
      r.close d 2
      return make x y) := by
  have pares : Pares [field first readFirst, field second readSecond] within := by
    refine ⟨keeps, ?_⟩
    simp only [List.forall_mem_cons]
    exact ⟨fun n tidyN => objection_congr (sameFirst n tidyN),
      fun n tidyN => objection_congr (sameSecond n tidyN), by simp⟩
  have objections : firstObjection [field first readFirst, field second readSecond] []
      (paredEntries [first, second] within entries) = firstObjection _ [] entries :=
    pares.firstObjection_eq tidy
  simp only [readRecord, objections]
  cases firstObjection [field first readFirst, field second readSecond] [] entries with
  | some e => rfl
  | none =>
    simp only [bind, Except.bind, optional_pared tidy List.mem_cons_self sameFirst,
      optional_pared tidy (List.mem_cons_of_mem _ List.mem_cons_self) sameSecond, Record.close]

end FlowGauge.Document
