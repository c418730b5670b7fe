import FlowGauge.Proofs.Document.Record

/-! Trees in which everything has a value, and what records take from them.

In such a tree no key stands twice in a table, so a record meets the objections of its fields, each
by itself, and no others. -/
namespace FlowGauge.Document

/-- Every part has a value, and no table has a key twice. -/
inductive Tidy : Node → Prop
  | bool (b : Bool) : Tidy (.bool b)
  | integer (n : Int) : Tidy (.integer n)
  | float (x : Float) : Tidy (.float x)
  | text (s : String) : Tidy (.text s)
  | list {items : List Node} (each : ∀ n ∈ items, Tidy n) : Tidy (.list items)
  | table {entries : List (String × Node)} (distinct : (entries.map Prod.fst).Nodup)
      (each : ∀ e ∈ entries, Tidy e.2) : Tidy (.table entries)

theorem tidy_table_iff {entries : List (String × Node)} : Tidy (.table entries) ↔
    (entries.map Prod.fst).Nodup ∧ ∀ e ∈ entries, Tidy e.2 := by
  constructor
  · intro tidy
    cases tidy with
    | table distinct each => exact ⟨distinct, each⟩
  · rintro ⟨distinct, each⟩
    exact .table distinct each

theorem wholeItems_of_forall {items : List Node} (each : ∀ n ∈ items, n.whole = true) :
    Node.wholeItems items = true := by
  induction items with
  | nil => rfl
  | cons n rest ih =>
    obtain ⟨first, others⟩ := List.forall_mem_cons.mp each
    rw [Node.wholeItems, first, ih others]
    rfl

theorem wholeEntries_of_forall {entries : List (String × Node)}
    (each : ∀ e ∈ entries, e.2.whole = true) : Node.wholeEntries entries = true := by
  induction entries with
  | nil => rfl
  | cons e rest ih =>
    obtain ⟨first, others⟩ := List.forall_mem_cons.mp each
    rw [Node.wholeEntries, first, ih others]
    rfl

theorem Tidy.whole {n : Node} (h : Tidy n) : n.whole = true := by
  induction h with
  | bool | integer | float | text => rfl
  | list each ih => exact wholeItems_of_forall ih
  | table distinct each ih => exact wholeEntries_of_forall ih

theorem Tidy.keyed {n : Node} (h : Tidy n) (v : Node) : n ≠ .keyless v := by
  rintro rfl
  cases h

variable {fields : List Field} {entries : List (String × Node)}

theorem Tidy.of_lookup (tidy : Tidy (.table entries)) {key : String} {n : Node}
    (found : entries.lookup key = some n) : Tidy n :=
  (tidy_table_iff.mp tidy).2 _ (mem_of_lookup found)

theorem entryObjection_fresh {seen : List String} {key : String} (fresh : key ∉ seen) (n : Node) :
    entryObjection fields seen key n = entryObjection fields [] key n := by
  cases field : fields.lookup key with
  | none => cases n <;> simp only [entryObjection, field]
  | some check => cases n <;> simp [entryObjection, field, fresh]

/-- With no key twice, each entry is judged by itself. -/
theorem firstObjection_eq_findSome? {seen : List String} (distinct : (entries.map Prod.fst).Nodup)
    (fresh : ∀ key ∈ entries.map Prod.fst, key ∉ seen) :
    firstObjection fields seen entries =
      entries.findSome? fun e => entryObjection fields [] e.1 e.2 := by
  induction entries generalizing seen with
  | nil => rfl
  | cons e rest ih =>
    obtain ⟨key, n⟩ := e
    obtain ⟨apart, others⟩ := List.nodup_cons.mp distinct
    obtain ⟨here, later⟩ := List.forall_mem_cons.mp fresh
    have freshRest : ∀ k ∈ rest.map Prod.fst, k ∉ key :: seen := by
      intro k member
      rw [List.mem_cons, not_or]
      exact ⟨fun same => apart (same ▸ member), later k member⟩
    rw [firstObjection, entryObjection_fresh here, List.findSome?_cons, ih others freshRest]
    cases entryObjection fields [] key n <;> rfl

theorem entryObjection_of_lookup {key : String} {check : Node → Option Misreading} {n : Node}
    (field : fields.lookup key = some check) (keyed : ∀ v, n ≠ .keyless v) :
    entryObjection fields [] key n = check n := by
  cases n <;> simp_all [entryObjection]

/-- A tidy table is free of objections if its fields are, each by itself. -/
theorem Tidy.firstObjection_eq_none_iff (tidy : Tidy (.table entries))
    (distinct : (names fields).Nodup) : firstObjection fields [] entries = none ↔
      ∀ f ∈ fields, ∀ n, entries.lookup f.1 = some n → f.2 n = none := by
  obtain ⟨keys, each⟩ := tidy_table_iff.mp tidy
  rw [firstObjection_eq_findSome? keys (by simp), List.findSome?_eq_none_iff]
  constructor
  · intro accepted f field n found
    have own : fields.lookup f.1 = some f.2 := lookup_of_nodup distinct field
    rw [← entryObjection_of_lookup own (tidy.of_lookup found).keyed]
    exact accepted _ (mem_of_lookup found)
  · intro accepted e member
    by_cases known : e.1 ∈ names fields
    · obtain ⟨check, own⟩ := Option.isSome_iff_exists.mp ((mem_keys_iff fields e.1).mp known)
      rw [entryObjection_of_lookup own (each e member).keyed]
      exact accepted _ (mem_of_lookup own) _ (lookup_of_nodup keys member)
    · exact (entryObjection_of_other known (each e member).whole).mpr (each e member).keyed

/-- Members that suit the fields and are found under their names meet no objection. -/
theorem Tidy.firstObjection_of_suits {members : List (String × Node)}
    (tidy : Tidy (.table entries)) (distinct : (names fields).Nodup)
    (suit : List.Forall₂ Suits fields members)
    (found : ∀ e ∈ members, entries.lookup e.1 = some e.2) :
    firstObjection fields [] entries = none := by
  apply (tidy.firstObjection_eq_none_iff distinct).mpr
  intro f isField n here
  obtain ⟨i, rfl⟩ := List.mem_iff_get.mp isField
  have bound : i < members.length := by
    rw [← suit.length_eq]
    exact i.isLt
  obtain ⟨sameName, accepted, -⟩ : Suits (fields.get i) (members.get ⟨i, bound⟩) :=
    suit.get i.isLt bound
  have there := found _ (List.get_mem members ⟨i, bound⟩)
  rw [← sameName, here] at there
  rwa [Option.some.inj there]

/-- What a field that may be left out comes to. -/
def Takes {α : Type} (entries : List (String × Node)) (name : String) (read : Read α)
    (absent a : α) : Prop :=
  entries.lookup name = none ∧ a = absent ∨ ∃ n, entries.lookup name = some n ∧ read n = .ok a

theorem optional_eq_ok_iff {α : Type} {index : Nat} {name : String} {read : Read α} {absent a : α} :
    (Record.named entries).optional index name read absent = .ok a ↔
      Takes entries name read absent a := by
  simp only [Record.optional, Record.field?, Takes]
  cases entries.lookup name <;> simp [eq_comm]

theorem Takes.accepted {α : Type} {name : String} {read : Read α} {absent a : α}
    (h : Takes entries name read absent a) {n : Node} (found : entries.lookup name = some n) :
    objection read n = none := by
  rcases h with ⟨absent, -⟩ | ⟨m, present, ok⟩
  · rw [found] at absent
    cases absent
  · obtain rfl : m = n := Option.some.inj (present.symm.trans found)
    exact objection_eq_none ok

/-- Nothing but what stands under its name decides about such a field. -/
theorem Takes.unique {α : Type} {others : List (String × Node)} {name : String} {read : Read α}
    {absent a b : α} (h : Takes entries name read absent a) (h' : Takes others name read absent b)
    (same : entries.lookup name = others.lookup name) : a = b := by
  rcases h with ⟨missing, rfl⟩ | ⟨n, found, reads⟩
  · rcases h' with ⟨-, rfl⟩ | ⟨n, found, -⟩
    · rfl
    · rw [same, found] at missing
      cases missing
  · rw [same] at found
    rcases h' with ⟨missing, -⟩ | ⟨n', found', reads'⟩
    · rw [missing] at found
      cases found
    · cases found.symm.trans found'
      exact Except.ok.inj (reads.symm.trans reads')

/-- A record of two fields that may be left out takes each of them by itself. -/
theorem Tidy.read_pair_eq_ok_iff {α β γ : Type} {d : Dialect} {type first second : String}
    {readFirst : Read α} {readSecond : Read β} {absentFirst : α} {absentSecond : β} {c : γ}
    (make : α → β → γ) (tidy : Tidy (.table entries)) (different : first ≠ second) :
    (do
      let r ← readRecord type [field first readFirst, field second readSecond] (.table entries)
      let x ← r.optional 0 first readFirst absentFirst
      let y ← r.optional 1 second readSecond absentSecond
      r.close d 2
      return make x y) = .ok c ↔
    ∃ a b, Takes entries first readFirst absentFirst a ∧
      Takes entries second readSecond absentSecond b ∧ make a b = c := by
  have distinct : (names [field first readFirst, field second readSecond]).Nodup := by
    simpa [names, field] using different
  simp only [bind_eq_ok, readRecord_table_eq_ok_iff]
  constructor
  · rintro ⟨_, ⟨-, rfl⟩, a, readsFirst, b, readsSecond, -, -, made⟩
    exact ⟨a, b, optional_eq_ok_iff.mp readsFirst, optional_eq_ok_iff.mp readsSecond,
      Except.ok.inj made⟩
  · rintro ⟨a, b, takesFirst, takesSecond, rfl⟩
    refine ⟨_, ⟨?_, rfl⟩, a, optional_eq_ok_iff.mpr takesFirst, b,
      optional_eq_ok_iff.mpr takesSecond, (), rfl, rfl⟩
    apply (tidy.firstObjection_eq_none_iff distinct).mpr
    simp only [List.forall_mem_cons]
    exact ⟨fun _ => takesFirst.accepted, fun _ => takesSecond.accepted, by simp⟩

theorem Tidy.readOption_eq {α : Type} {n : Node} (tidy : Tidy n) (read : Read α) :
    readOption read n = (read n).map some := by
  cases tidy <;> rfl

end FlowGauge.Document
