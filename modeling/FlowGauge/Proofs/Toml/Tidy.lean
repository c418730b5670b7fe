import FlowGauge.Proofs.Document.Tidy
import FlowGauge.Toml.Reader
import Mathlib.Data.Option.Basic

/-! A TOML text is read as a tree in which everything has a value and no table has a key twice.

Tables grow by entries under new keys and by changes below the keys that are there. What a line does
to the tables is a chain of such steps, and the value on a line is tidy by itself. -/
namespace FlowGauge.Toml
open Document (Node Tidy)

theorem entryNodes_eq (entries : Entries) :
    entryNodes entries = entries.map fun e => (e.1, e.2.node) := by
  induction entries with
  | nil => rfl
  | cons e rest ih =>
    obtain ⟨key, item⟩ := e
    rw [entryNodes, ih, List.map_cons]

theorem tableNodes_eq (tables : List Entries) :
    tableNodes tables = tables.map fun t => .table (entryNodes t) := by
  induction tables with
  | nil => rfl
  | cons t rest ih => rw [tableNodes, ih, List.map_cons]

namespace Entries

/-- What the entries will be read as is tidy. -/
def Tidy (entries : Entries) : Prop :=
  Document.Tidy (.table (entryNodes entries))

theorem tidy_iff {entries : Entries} : entries.Tidy ↔
    (entries.map Prod.fst).Nodup ∧ ∀ e ∈ entries, Document.Tidy e.2.node := by
  have keys : (entryNodes entries).map Prod.fst = entries.map Prod.fst := by
    rw [entryNodes_eq, List.map_map]
    rfl
  rw [Tidy, Document.tidy_table_iff, keys, entryNodes_eq, List.forall_mem_map]

theorem tidy_nil : Tidy [] :=
  .table .nil (by simp [entryNodes])

theorem Tidy.of_lookup {entries : Entries} (tidy : entries.Tidy) {key : String} {item : Item}
    (found : entries.lookup key = some item) : Document.Tidy item.node :=
  (tidy_iff.mp tidy).2 _ (mem_of_lookup found)

theorem Tidy.concat {entries : Entries} (tidy : entries.Tidy) {key : String} {item : Item}
    (absent : entries.lookup key = none) (new : Document.Tidy item.node) :
    Tidy (entries ++ [(key, item)]) := by
  obtain ⟨distinct, each⟩ := tidy_iff.mp tidy
  have fresh : key ∉ entries.map Prod.fst := by
    rw [mem_keys_iff, absent]
    nofun
  rw [tidy_iff]
  constructor
  · rw [List.map_append, List.map_singleton, ← List.concat_eq_append]
    exact distinct.concat fresh
  · intro e member
    rcases List.mem_append.mp member with old | added
    · exact each e old
    · rw [List.mem_singleton.mp added]
      exact new

theorem mem_put {key : String} {item : Item} {entries : Entries} {e : String × Item}
    (member : e ∈ put key item entries) : e = (key, item) ∨ e ∈ entries := by
  induction entries with
  | nil => exact .inl (List.mem_singleton.mp member)
  | cons f rest ih =>
    rw [put] at member
    split at member
    · next same =>
      rcases List.mem_cons.mp member with rfl | later
      · exact .inl (by rw [same])
      · exact .inr (List.mem_cons_of_mem _ later)
    · rcases List.mem_cons.mp member with rfl | later
      · exact .inr List.mem_cons_self
      · exact (ih later).imp_right (List.mem_cons_of_mem _)

theorem nodup_put {entries : Entries} (distinct : (entries.map Prod.fst).Nodup) (key : String)
    (item : Item) : ((put key item entries).map Prod.fst).Nodup := by
  induction entries with
  | nil => exact List.nodup_singleton key
  | cons f rest ih =>
    obtain ⟨apart, later⟩ := List.nodup_cons.mp distinct
    rw [put]
    split
    · exact distinct
    · next other =>
      refine List.nodup_cons.mpr ⟨?_, ih later⟩
      intro again
      obtain ⟨e, member, same⟩ := List.mem_map.mp again
      rcases mem_put member with rfl | old
      · exact other same.symm
      · exact apart (same ▸ List.mem_map_of_mem old)

theorem Tidy.put {entries : Entries} (tidy : entries.Tidy) (key : String) {item : Item}
    (new : Document.Tidy item.node) : Tidy (put key item entries) := by
  obtain ⟨distinct, each⟩ := tidy_iff.mp tidy
  rw [tidy_iff]
  refine ⟨nodup_put distinct key item, ?_⟩
  intro e member
  rcases mem_put member with rfl | old
  · exact new
  · exact each e old

theorem Tidy.remove {entries : Entries} (tidy : entries.Tidy) (key : String) :
    Tidy (remove key entries) := by
  obtain ⟨distinct, each⟩ := tidy_iff.mp tidy
  rw [tidy_iff]
  constructor
  · exact distinct.sublist (List.filter_sublist.map _)
  · intro e member
    exact each e (List.mem_filter.mp member).1

/-! ### Changes below -/

theorem tidy_tables_iff {tables : List Entries} :
    Document.Tidy (Item.tables tables).node ↔ ∀ t ∈ tables, Tidy t := by
  rw [Item.node, tableNodes_eq]
  constructor
  · intro tidy
    cases tidy with
    | list each =>
      intro t member
      exact each _ (List.mem_map_of_mem member)
  · intro each
    apply Document.Tidy.list
    intro n member
    obtain ⟨t, isTable, rfl⟩ := List.mem_map.mp member
    exact each t isTable

/-- The table that is meant among tables under one name. -/
theorem tidy_last {tables : List Entries} (each : ∀ t ∈ tables, Tidy t) :
    Tidy (tables.getLast?.getD []) := by
  cases last : tables.getLast? with
  | none => exact tidy_nil
  | some t => exact each t (List.mem_of_getLast? last)

theorem tidy_addTable {tables : List Entries} (each : ∀ t ∈ tables, Tidy t) {t : Entries}
    (tidy : Tidy t) : Document.Tidy (Item.tables (tables ++ [t])).node := by
  rw [tidy_tables_iff]
  intro u member
  rcases List.mem_append.mp member with old | new
  · exact each u old
  · rw [List.mem_singleton.mp new]
    exact tidy

/-- A change keeps tables tidy, wherever it is made. -/
def Keeps (change : Change) : Prop :=
  ∀ origin entries after, change origin entries = some after → Tidy entries → Tidy after

theorem descend_tidy {byKey : Bool} {change : Change} (keeps : Keeps change) {path : List String}
    {origin : Origin} {entries after : Entries}
    (h : descend byKey change origin entries path = some after) (tidy : entries.Tidy) :
    after.Tidy := by
  induction path generalizing origin entries after with
  | nil => exact keeps _ _ _ h tidy
  | cons step path ih =>
    rw [descend] at h
    cases found : entries.lookup step with
    | none =>
      rw [found] at h
      simp only [Option.bind_eq_bind, Option.bind_eq_some_iff] at h
      obtain ⟨inner, made, ⟨⟩⟩ := h
      exact tidy.concat found (ih made tidy_nil)
    | some item =>
      have below := tidy.of_lookup found
      cases item with
      | value node =>
        rw [found] at h
        cases h
      | table origin inner =>
        rw [found] at h
        simp only at h
        split at h
        · cases h
        · simp only [Option.bind_eq_bind, Option.bind_eq_some_iff] at h
          obtain ⟨changed, made, ⟨⟩⟩ := h
          exact tidy.put step (ih made below)
      | tables items =>
        rw [found] at h
        simp only [Option.bind_eq_bind, Option.bind_eq_some_iff] at h
        obtain ⟨changed, made, ⟨⟩⟩ := h
        have each := tidy_tables_iff.mp below
        have kept : ∀ t ∈ items.dropLast, Tidy t := fun t old => each t (List.dropLast_subset _ old)
        exact tidy.put step (tidy_addTable kept (ih made (tidy_last each)))

theorem add_tidy {entries after : Entries} {key : List String} {node : Node}
    (h : entries.add key node = some after) (tidy : entries.Tidy) (value : Document.Tidy node) :
    after.Tidy := by
  have keeps : Keeps fun origin entries =>
      if origin = .dotted ↔ (splitKey key).1 = [] then none
      else if (entries.lookup (splitKey key).2).isSome then none
      else some (entries ++ [((splitKey key).2, .value node)]) := by
    intro origin entries after added tidy
    simp only [Option.ite_none_left_eq_some, Option.not_isSome_iff_eq_none,
      Option.some.injEq] at added
    obtain ⟨-, absent, rfl⟩ := added
    exact tidy.concat absent value
  exact descend_tidy keeps h tidy

end Entries

/-! ### Lines -/

/-- A step that keeps a property, repeated for each element of a list. -/
theorem foldlM_keeps {α σ : Type} {P : σ → Prop} {step : σ → α → Option σ} {l : List α}
    (keeps : ∀ s, ∀ a ∈ l, ∀ t, step s a = some t → P s → P t) {s t : σ}
    (h : l.foldlM step s = some t) (holds : P s) : P t := by
  induction l generalizing s with
  | nil =>
    cases h
    exact holds
  | cons a rest ih =>
    rw [List.foldlM_cons, Option.bind_eq_bind, Option.bind_eq_some_iff] at h
    obtain ⟨u, first, later⟩ := h
    exact ih (fun s a member => keeps s a (List.mem_cons_of_mem _ member)) later
      (keeps s a List.mem_cons_self u first holds)

theorem inlineTable_tidy {pairs : List (List String × Node)} {node : Node}
    (h : inlineTable pairs = some node) (values : ∀ p ∈ pairs, Tidy p.2) : Tidy node := by
  simp only [inlineTable, Option.bind_eq_bind, Option.bind_eq_some_iff] at h
  obtain ⟨entries, made, ⟨⟩⟩ := h
  refine foldlM_keeps (P := Entries.Tidy) ?_ made Entries.tidy_nil
  intro s p member t added tidy
  exact Entries.add_tidy added tidy (values p member)

namespace Assembly

/-- The complete tables and the open one. -/
def Tidy (a : Assembly) : Prop :=
  a.root.Tidy ∧ a.current.Tidy

theorem above_tidy {root after : Entries} {path : List String}
    {change : Entries → String → Option Entries} (h : above root path change = some after)
    (keeps : ∀ entries after, change entries (splitKey path).2 = some after → entries.Tidy →
      after.Tidy) (tidy : root.Tidy) : after.Tidy :=
  Entries.descend_tidy (fun _ entries after => keeps entries after) h tidy

theorem finish_tidy {a : Assembly} {root : Entries} (h : a.finish = some root) (tidy : a.Tidy) :
    root.Tidy := by
  obtain ⟨rootTidy, currentTidy⟩ := tidy
  rw [finish] at h
  split at h
  · cases h
    exact currentTidy
  · refine above_tidy h ?_ rootTidy
    intro entries after placed tidy
    split at placed
    · next absent _ =>
      cases placed
      have noOther : ∀ t ∈ ([] : List Entries), t.Tidy := by simp
      exact tidy.concat absent (Entries.tidy_addTable noOther currentTidy)
    · next absent _ =>
      cases placed
      exact tidy.concat absent currentTidy
    · next found _ =>
      cases placed
      have each := Entries.tidy_tables_iff.mp (tidy.of_lookup found)
      exact tidy.put _ (Entries.tidy_addTable each currentTidy)
    · cases placed

theorem lookupAt_tidy {entries : Entries} {outer : List String} {name : String} {item : Item}
    (h : openTable.lookupAt entries outer name = some item) (tidy : entries.Tidy) :
    Document.Tidy item.node := by
  induction outer generalizing entries with
  | nil => exact tidy.of_lookup h
  | cons step outer ih =>
    rw [openTable.lookupAt] at h
    split at h
    · next found => exact ih h (tidy.of_lookup found)
    · next found =>
      have each := Entries.tidy_tables_iff.mp (tidy.of_lookup found)
      exact ih h (Entries.tidy_last each)
    · cases h

theorem found_tidy {root taken : Entries} {outer : List String} {name : String}
    (h : openTable.found root outer name = some taken) (tidy : root.Tidy) : taken.Tidy := by
  rw [openTable.found] at h
  split at h
  · cases h
    exact Entries.tidy_nil
  · next found =>
    cases h
    exact (lookupAt_tidy found tidy :)
  · cases h

theorem openTable_tidy {a b : Assembly} {path : List String} (h : a.openTable path = some b)
    (tidy : a.Tidy) : b.Tidy := by
  simp only [openTable, Option.bind_eq_bind, Option.bind_eq_some_iff] at h
  obtain ⟨root, finished, taken, found, after, removed, ⟨⟩⟩ := h
  have rootTidy := finish_tidy finished tidy
  constructor
  · refine above_tidy removed ?_ rootTidy
    rintro entries _ ⟨⟩ tidy
    exact tidy.remove _
  · exact found_tidy found rootTidy

theorem appendTable_tidy {a b : Assembly} {path : List String} (h : a.appendTable path = some b)
    (tidy : a.Tidy) : b.Tidy := by
  simp only [appendTable, Option.bind_eq_bind, Option.bind_eq_some_iff] at h
  obtain ⟨root, finished, after, added, ⟨⟩⟩ := h
  refine ⟨above_tidy added ?_ (finish_tidy finished tidy), Entries.tidy_nil⟩
  intro entries after placed tidy
  split at placed
  · next absent =>
    cases placed
    exact tidy.concat absent (Entries.tidy_tables_iff.mpr (by simp))
  · cases placed
    exact tidy
  · cases placed

theorem line_tidy {a b : Assembly} {l : Line} (h : a.line l = some b)
    (values : ∀ key node, l = .entry key node → Document.Tidy node) (tidy : a.Tidy) : b.Tidy := by
  cases l with
  | entry key node =>
    simp only [line, Option.bind_eq_bind, Option.bind_eq_some_iff] at h
    obtain ⟨current, added, ⟨⟩⟩ := h
    exact ⟨tidy.1, Entries.add_tidy added tidy.2 (values key node rfl)⟩
  | header path => exact openTable_tidy h tidy
  | append path => exact appendTable_tidy h tidy

end Assembly

/-- The lines of a text make a tidy table. -/
theorem assemble_tidy {lines : List Line} {node : Node} (h : assemble lines = some node)
    (values : ∀ key node, .entry key node ∈ lines → Tidy node) :
    ∃ root, node = .table root ∧ Tidy node := by
  simp only [assemble, Option.bind_eq_bind, Option.bind_eq_some_iff] at h
  obtain ⟨a, made, root, finished, ⟨⟩⟩ := h
  have tidy : a.Tidy := by
    refine foldlM_keeps (P := Assembly.Tidy) ?_ made ⟨Entries.tidy_nil, Entries.tidy_nil⟩
    intro s l member t stepped tidy
    apply Assembly.line_tidy stepped _ tidy
    rintro key node rfl
    exact values key node member
  exact ⟨_, rfl, Assembly.finish_tidy finished tidy⟩

/-! ### Values -/

theorem dateNode_tidy (cs rest : List Char) : Tidy (dateNode cs rest) :=
  .table (List.nodup_singleton _) (by simpa using Tidy.text _)

theorem number?_tidy {cs rest : List Char} {node : Node} (h : number? cs = some (node, rest)) :
    Tidy node := by
  rw [number?] at h
  split at h
  · cases h
    exact dateNode_tidy cs _
  · split at h
    · cases h
      exact .float _
    · obtain ⟨⟨n, rest⟩, -, ⟨⟩⟩ := Option.map_eq_some_iff.mp h
      exact .integer n

theorem word?_tidy {word : String} {value node : Node} {cs rest : List Char}
    (h : word? word value cs = some (node, rest)) (tidy : Tidy value) : Tidy node := by
  obtain ⟨rest, -, ⟨⟩⟩ := Option.map_eq_some_iff.mp h
  exact tidy

/-- Whatever is read with this fuel is tidy: a value, the items of a list, the pairs of a table. -/
structure ReadsTidy (fuel : Nat) : Prop where
  value : ∀ depth cs node rest, value? fuel depth cs = some (node, rest) → Tidy node
  items : ∀ depth cs nodes rest, items? fuel depth cs = some (nodes, rest) → ∀ n ∈ nodes, Tidy n
  pairs : ∀ depth first cs pairs rest, pairs? fuel depth first cs = some (pairs, rest) →
    ∀ p ∈ pairs, Tidy p.2

variable {fuel depth : Nat} {cs rest : List Char}

theorem ReadsTidy.value_succ (h : ReadsTidy fuel) {node : Node}
    (read : value? (fuel + 1) depth cs = some (node, rest)) : Tidy node := by
  unfold value? at read
  split at read
  · obtain ⟨⟨s, rest⟩, -, ⟨⟩⟩ := Option.map_eq_some_iff.mp read
    exact .text s
  · obtain ⟨⟨s, rest⟩, -, ⟨⟩⟩ := Option.map_eq_some_iff.mp read
    exact .text s
  · simp only [Option.bind_eq_bind, Option.bind_eq_some_iff] at read
    obtain ⟨_, -, ⟨nodes, _⟩, inner, ⟨⟩⟩ := read
    exact .list (h.items _ _ _ _ inner)
  · simp only [Option.bind_eq_bind, Option.bind_eq_some_iff] at read
    obtain ⟨_, -, ⟨pairs, _⟩, inner, table, made, ⟨⟩⟩ := read
    exact inlineTable_tidy made (h.pairs _ _ _ _ _ inner)
  · exact word?_tidy read (.bool true)
  · exact word?_tidy read (.bool false)
  · obtain ⟨⟨x, rest⟩, -, ⟨⟩⟩ := Option.map_eq_some_iff.mp read
    exact .float x
  · obtain ⟨⟨x, rest⟩, -, ⟨⟩⟩ := Option.map_eq_some_iff.mp read
    exact .float x
  · split at read
    · exact number?_tidy read
    · cases read
  · cases read

theorem ReadsTidy.items_succ (h : ReadsTidy fuel) {nodes : List Node}
    (read : items? (fuel + 1) depth cs = some (nodes, rest)) : ∀ n ∈ nodes, Tidy n := by
  unfold items? at read
  split at read
  · cases read
    simp
  · simp only [Option.bind_eq_bind, Option.bind_eq_some_iff] at read
    obtain ⟨⟨node, _⟩, first, read⟩ := read
    have tidy := h.value _ _ _ _ first
    split at read
    · cases read
      simpa using tidy
    · simp only [Option.bind_eq_some_iff] at read
      obtain ⟨⟨others, _⟩, later, ⟨⟩⟩ := read
      exact List.forall_mem_cons.mpr ⟨tidy, h.items _ _ _ _ later⟩
    · cases read

theorem ReadsTidy.pairs_succ (h : ReadsTidy fuel) {first : Bool} {pairs : List (List String × Node)}
    (read : pairs? (fuel + 1) depth first cs = some (pairs, rest)) : ∀ p ∈ pairs, Tidy p.2 := by
  unfold pairs? at read
  split at read
  · cases read
    simp
  · simp only [Option.bind_eq_bind, Option.bind_eq_some_iff] at read
    obtain ⟨⟨key, _⟩, -, _, -, ⟨node, _⟩, first, read⟩ := read
    have tidy := h.value _ _ _ _ first
    split at read
    · cases read
      simpa using tidy
    · simp only [Option.bind_eq_some_iff] at read
      obtain ⟨⟨others, _⟩, later, ⟨⟩⟩ := read
      exact List.forall_mem_cons.mpr ⟨tidy, h.pairs _ _ _ _ _ later⟩
    · cases read

/-- The readers call each other with less fuel. -/
theorem readsTidy (fuel : Nat) : ReadsTidy fuel := by
  induction fuel with
  | zero => exact ⟨nofun, nofun, nofun⟩
  | succ fuel ih =>
    constructor
    · intro depth cs node rest
      exact ih.value_succ
    · intro depth cs nodes rest
      exact ih.items_succ
    · intro depth first cs pairs rest
      exact ih.pairs_succ

theorem entryLine?_tidy {key : List String} {node : Node}
    (h : entryLine? cs = some (.entry key node, rest)) : Tidy node := by
  simp only [entryLine?, Option.bind_eq_bind, Option.bind_eq_some_iff] at h
  obtain ⟨⟨_, _⟩, -, _, -, ⟨_, _⟩, read, _, -, ⟨⟩⟩ := h
  exact (readsTidy _).value _ _ _ _ read

theorem headerLine?_ne_entry {key : List String} {node : Node} :
    headerLine? cs ≠ some (.entry key node, rest) := by
  intro h
  unfold headerLine? at h
  split at h
  · simp only [Option.bind_eq_bind, Option.bind_eq_some_iff] at h
    obtain ⟨_, -, _, -, _, -, _, -, ⟨⟩⟩ := h
  · simp only [Option.bind_eq_bind, Option.bind_eq_some_iff] at h
    obtain ⟨_, -, _, -, _, -, ⟨⟩⟩ := h

theorem lines?_tidy {lines : List Line}
    (h : lines? fuel cs = some lines) {key : List String} {node : Node}
    (member : .entry key node ∈ lines) : Tidy node := by
  induction fuel generalizing cs lines with
  | zero => cases h
  | succ fuel ih =>
    unfold lines? at h
    split at h
    · cases h
      cases member
    · simp only [Option.bind_eq_bind, Option.bind_eq_some_iff] at h
      obtain ⟨⟨line, _⟩, read, others, later, ⟨⟩⟩ := h
      rcases List.mem_cons.mp member with rfl | member
      · exact absurd read headerLine?_ne_entry
      · exact ih later member
    · split at h
      · cases h
        cases member
      · exact ih h member
      · simp only [Option.bind_eq_bind, Option.bind_eq_some_iff] at h
        obtain ⟨⟨line, _⟩, read, others, later, ⟨⟩⟩ := h
        rcases List.mem_cons.mp member with rfl | member
        · exact entryLine?_tidy read
        · exact ih later member

theorem read?_eq_some_iff {text : String} {node : Node} : read? text = some node ↔
    ∃ lines, lines? ((afterMark text.toList).length + 1) (afterMark text.toList) = some lines ∧
      assemble lines = some node := by
  simp only [read?, Option.bind_eq_bind, Option.bind_eq_some_iff]

/-- A text that is well-formed is read as a tidy table. -/
theorem read?_tidy {text : String} {node : Node} (h : read? text = some node) :
    ∃ root, node = .table root ∧ Tidy node := by
  obtain ⟨lines, read, made⟩ := read?_eq_some_iff.mp h
  exact assemble_tidy made fun _ _ => lines?_tidy read

end FlowGauge.Toml
