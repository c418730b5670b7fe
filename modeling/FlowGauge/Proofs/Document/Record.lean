import FlowGauge.Document.Read
import FlowGauge.Proofs.Entries
import Mathlib.Data.List.Perm.Basic
import Mathlib.Data.List.Nodup

/-! What a record takes from the entries of a table.

The entries of its fields may stand in any order and among others. A record objects to no entries
that have each field once at most, with a value that suits it; the others only have to be free of
breaks. -/
namespace FlowGauge.Document

theorem bind_eq_ok {ε α β : Type} {x : Except ε α} {f : α → Except ε β} {b : β} :
    x >>= f = .ok b ↔ ∃ a, x = .ok a ∧ f a = .ok b := by
  cases x <;> simp [bind, Except.bind]

variable {fields : List Field} {members entries : List (String × Node)}

def names (fields : List Field) : List String :=
  fields.map Prod.fst

/-- An entry met earlier makes a difference only to an entry of the same field. -/
theorem entryObjection_eq_none_iff {seen : List String} {key : String} {n : Node} :
    entryObjection fields seen key n = none ↔
      entryObjection fields [] key n = none ∧ (key ∈ names fields → key ∉ seen) := by
  have known : key ∈ names fields ↔ (fields.lookup key).isSome := mem_keys_iff fields key
  cases field : fields.lookup key with
  | none => cases n <;> simp [entryObjection, known, field]
  | some check =>
    by_cases met : key ∈ seen <;> cases n <;> simp [entryObjection, known, field, met]

theorem firstObjection_eq_none_iff {seen : List String} :
    firstObjection fields seen entries = none ↔
      (∀ e ∈ entries, entryObjection fields [] e.1 e.2 = none) ∧
      ((entries.map Prod.fst).filter (· ∈ names fields)).Nodup ∧
      ∀ key ∈ entries.map Prod.fst, key ∈ names fields → key ∉ seen := by
  induction entries generalizing seen with
  | nil => simp [firstObjection]
  | cons e rest ih =>
    obtain ⟨key, n⟩ := e
    have first : firstObjection fields seen ((key, n) :: rest) = none ↔
        entryObjection fields seen key n = none ∧
          firstObjection fields (key :: seen) rest = none := by
      rw [firstObjection]
      cases entryObjection fields seen key n <;> simp
    rw [first, entryObjection_eq_none_iff, ih]
    by_cases known : key ∈ names fields <;> simp [known] <;> grind

theorem objection_eq_none {α : Type} {read : Read α} {n : Node} {a : α} (h : read n = .ok a) :
    objection read n = none := by
  rw [objection, h]

theorem readRecord_table_eq_ok_iff {type : String} {r : Record} :
    readRecord type fields (.table entries) = .ok r ↔
      firstObjection fields [] entries = none ∧ r = .named entries := by
  rw [readRecord]
  cases firstObjection fields [] entries <;> simp [eq_comm]

theorem required_eq_ok_iff {α : Type} {index : Nat} {name whole : String} {read : Read α} {a : α} :
    (Record.named entries).required index name whole read = .ok a ↔
      ∃ n, entries.lookup name = some n ∧ read n = .ok a := by
  simp only [Record.required, Record.field?]
  cases entries.lookup name <;> simp

theorem optional_of_lookup {α : Type} {index : Nat} {name : String} {read : Read α} {absent : α}
    {n : Node} (found : entries.lookup name = some n) :
    (Record.named entries).optional index name read absent = read n := by
  simp only [Record.optional, Record.field?, found]

/-- The entries are the members, each once and in any order, and others under keys of their own, all
of them texts. -/
def Lists (members entries : List (String × Node)) : Prop :=
  ∃ others, entries.Perm (members ++ others) ∧
    ∀ e ∈ others, e.1 ∉ members.map Prod.fst ∧ ∀ v, e.2 ≠ .keyless v

theorem Lists.refl (members : List (String × Node)) : Lists members members :=
  ⟨[], by simp⟩

theorem Lists.lookup_eq (h : Lists members entries) (distinct : (members.map Prod.fst).Nodup)
    {e : String × Node} (member : e ∈ members) : entries.lookup e.1 = some e.2 := by
  obtain ⟨others, perm, apart⟩ := h
  apply lookup_of_mem (perm.mem_iff.mpr (List.mem_append_left _ member))
  intro f found same
  rcases List.mem_append.mp (perm.mem_iff.mp found) with own | other
  · exact List.inj_on_of_nodup_map distinct own member same
  · exact absurd (same ▸ List.mem_map_of_mem member) (apart f other).1

theorem whole_of_mem (whole : Node.wholeEntries entries = true) {e : String × Node}
    (member : e ∈ entries) : e.2.whole = true := by
  induction entries with
  | nil => cases member
  | cons f rest ih =>
    simp only [Node.wholeEntries, Bool.and_eq_true] at whole
    rcases List.mem_cons.mp member with rfl | later
    · exact whole.1
    · exact ih whole.2 later

/-- An entry that is no field's is let pass if its key is a text and its value has no break. -/
theorem entryObjection_of_other {e : String × Node} (other : e.1 ∉ names fields)
    (whole : e.2.whole = true) :
    entryObjection fields [] e.1 e.2 = none ↔ ∀ v, e.2 ≠ .keyless v := by
  have unknown : fields.lookup e.1 = none := by
    rw [← Option.not_isSome_iff_eq_none, ← mem_keys_iff]
    exact other
  obtain ⟨key, n⟩ := e
  cases n <;> simp only [entryObjection, unknown, whole] <;> simp

/-- A member that is accepted as the value of a field. -/
def Suits (field : Field) (member : String × Node) : Prop :=
  field.1 = member.1 ∧ field.2 member.2 = none ∧ ∀ v, member.2 ≠ .keyless v

theorem suits_field {α : Type} {name : String} {read : Read α} {n : Node} {a : α}
    (accepted : read n = .ok a) (keyed : ∀ v, n ≠ .keyless v) :
    Suits (field name read) (name, n) :=
  ⟨rfl, objection_eq_none accepted, keyed⟩

theorem names_of_suits (suit : List.Forall₂ Suits fields members) :
    members.map Prod.fst = names fields := by
  induction suit with
  | nil => rfl
  | cons first _ ih => rw [List.map_cons, ih, ← first.1, names, names, List.map_cons]

theorem entryObjection_of_suits (suit : List.Forall₂ Suits fields members)
    (distinct : (names fields).Nodup) {e : String × Node} (member : e ∈ members) :
    entryObjection fields [] e.1 e.2 = none := by
  obtain ⟨field, isField, sameName, accepted, keyed⟩ : ∃ field ∈ fields, Suits field e := by
    obtain ⟨i, rfl⟩ := List.mem_iff_get.mp member
    have bound : i < fields.length := by
      rw [suit.length_eq]
      exact i.isLt
    exact ⟨fields.get ⟨i, bound⟩, List.get_mem _ _, suit.get bound i.isLt⟩
  have found : fields.lookup e.1 = some field.2 := by
    rw [← sameName]
    exact lookup_of_nodup distinct isField
  obtain ⟨key, n⟩ := e
  cases n <;> simp_all [entryObjection]

/-- The known entries are the members, if each member is looked up under its name. -/
theorem perm_known (sameNames : members.map Prod.fst = names fields)
    (distinct : (names fields).Nodup)
    (once : ((entries.map Prod.fst).filter (· ∈ names fields)).Nodup)
    (found : ∀ e ∈ members, entries.lookup e.1 = some e.2) :
    (entries.filter (·.1 ∈ names fields)).Perm members := by
  have keys : ((entries.filter (·.1 ∈ names fields)).map Prod.fst).Nodup := by
    rw [List.filter_map] at once
    exact once
  have known (e : String × Node) (member : e ∈ members) :
      e ∈ entries.filter (·.1 ∈ names fields) := by
    have named : e.1 ∈ names fields := sameNames ▸ List.mem_map_of_mem member
    exact List.mem_filter.mpr ⟨mem_of_lookup (found e member), decide_eq_true named⟩
  have ownKeys : (members.map Prod.fst).Nodup := sameNames ▸ distinct
  apply (List.perm_ext_iff_of_nodup keys.of_map ownKeys.of_map).mpr
  intro e
  constructor
  · intro kept
    have named : e.1 ∈ members.map Prod.fst := by
      rw [sameNames]
      exact of_decide_eq_true (List.mem_filter.mp kept).2
    obtain ⟨m, member, same⟩ := List.mem_map.mp named
    rwa [List.inj_on_of_nodup_map keys kept (known m member) same.symm]
  · exact known e

/-- Entries that list the members of a record meet no objection. -/
theorem Lists.firstObjection_eq (h : Lists members entries)
    (suit : List.Forall₂ Suits fields members) (distinct : (names fields).Nodup)
    (whole : Node.wholeEntries entries = true) : firstObjection fields [] entries = none := by
  obtain ⟨others, perm, apart⟩ := h
  have sameNames := names_of_suits suit
  rw [sameNames] at apart
  apply firstObjection_eq_none_iff.mpr
  refine ⟨?_, ?_, by simp⟩
  · intro e member
    rcases List.mem_append.mp (perm.mem_iff.mp member) with own | other
    · exact entryObjection_of_suits suit distinct own
    · obtain ⟨unknown, keyed⟩ := apart e other
      exact (entryObjection_of_other unknown (whole_of_mem whole member)).mpr keyed
  · -- Only a key of a field must not come twice, and none of these is among the others.
    have own : (members.map Prod.fst).filter (· ∈ names fields) = names fields := by
      simp [sameNames]
    have noOther : (others.map Prod.fst).filter (· ∈ names fields) = [] := by
      simpa using fun key n member => (apart (key, n) member).1
    rw [((perm.map Prod.fst).filter _).nodup_iff, List.map_append, List.filter_append, own,
      noOther, List.append_nil]
    exact distinct

/-- The known entries are the members, so the unknown ones are the others. -/
theorem lists_of_lookup (accepted : firstObjection fields [] entries = none)
    (found : ∀ e ∈ members, entries.lookup e.1 = some e.2)
    (sameNames : members.map Prod.fst = names fields) (distinct : (names fields).Nodup)
    (whole : Node.wholeEntries entries = true) : Lists members entries := by
  obtain ⟨each, once, -⟩ := firstObjection_eq_none_iff.mp accepted
  have own := perm_known sameNames distinct once found
  have split := List.filter_append_perm (fun e => decide (e.1 ∈ names fields)) entries
  refine ⟨_, split.symm.trans (own.append_right _), ?_⟩
  intro e other
  obtain ⟨member, unknown⟩ := List.mem_filter.mp other
  rw [Bool.not_eq_true', decide_eq_false_iff_not] at unknown
  constructor
  · rwa [sameNames]
  · exact (entryObjection_of_other unknown (whole_of_mem whole member)).mp (each e member)

/-- **A record takes entries exactly if they list its members.** There is one member for each field,
and it suits that field. -/
theorem lists_iff (suit : List.Forall₂ Suits fields members) (distinct : (names fields).Nodup)
    (whole : Node.wholeEntries entries = true) :
    Lists members entries ↔ firstObjection fields [] entries = none ∧
      ∀ e ∈ members, entries.lookup e.1 = some e.2 := by
  have sameNames := names_of_suits suit
  constructor
  · intro lists
    constructor
    · exact lists.firstObjection_eq suit distinct whole
    · intro e member
      exact lists.lookup_eq (sameNames ▸ distinct) member
  · rintro ⟨accepted, found⟩
    exact lists_of_lookup accepted found sameNames distinct whole

/-- A record of two fields that may be left out is read from its two members. -/
theorem read_pair {α β γ : Type} {d : Dialect} {type first second : String} {readFirst : Read α}
    {readSecond : Read β} {absentFirst : α} {absentSecond : β} {m n : Node} {a : α} {b : β}
    (make : α → β → γ) (different : first ≠ second) (firstOk : readFirst m = .ok a)
    (secondOk : readSecond n = .ok b) (keyedFirst : ∀ v, m ≠ .keyless v)
    (keyedSecond : ∀ v, n ≠ .keyless v) (whole : Node.wholeEntries entries = true)
    (lists : Lists [(first, m), (second, n)] entries) :
    (do
      let r ← readRecord type [field first readFirst, field second readSecond] (.table entries)
      let x ← r.optional 0 first readFirst absentFirst
      let y ← r.optional 1 second readSecond absentSecond
      r.close d 2
      return make x y) = .ok (make a b) := by
  have suit : List.Forall₂ Suits [field first readFirst, field second readSecond]
      [(first, m), (second, n)] :=
    .cons (suits_field firstOk keyedFirst) (.cons (suits_field secondOk keyedSecond) .nil)
  have distinct : (names [field first readFirst, field second readSecond]).Nodup := by
    simpa [names, field] using different
  obtain ⟨accepted, found⟩ := (lists_iff suit distinct whole).mp lists
  simp only [List.forall_mem_cons] at found
  obtain ⟨foundFirst, foundSecond, -⟩ := found
  simp only [bind_eq_ok, readRecord_table_eq_ok_iff]
  exact ⟨_, ⟨accepted, rfl⟩, a, (optional_of_lookup foundFirst).trans firstOk, b,
    (optional_of_lookup foundSecond).trans secondOk, (), rfl, rfl⟩

end FlowGauge.Document
