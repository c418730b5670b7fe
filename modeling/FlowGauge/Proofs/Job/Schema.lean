import FlowGauge.Proofs.Document.Tidy
import FlowGauge.Proofs.Job.RoundTrip

/-! What a settings file says, and which files are refused.

`StandsIn` says of a configuration and a table that every field has the value under its name, or its
default where there is none; `Fits` says of a table alone that what stands under the names is of the
right kind. -/
namespace FlowGauge
open Document

/-- The entries of the table under a key; none if there is no such table. -/
def subtable (entries : List (String × Node)) (key : String) : List (String × Node) :=
  match entries.lookup key with
  | some (.table inner) => inner
  | _ => []

/-- Nothing but a table stands under the key. -/
def TableAt (entries : List (String × Node)) (key : String) : Prop :=
  ∀ n, entries.lookup key = some n → ∃ inner, n = .table inner

variable {entries : List (String × Node)} {d : Dialect}

theorem TableAt.cases {key : String} (h : TableAt entries key) :
    entries.lookup key = none ∧ subtable entries key = [] ∨
      entries.lookup key = some (.table (subtable entries key)) := by
  cases found : entries.lookup key with
  | none => exact .inl ⟨rfl, by rw [subtable, found]⟩
  | some n =>
    obtain ⟨inner, rfl⟩ := h n found
    exact .inr (by rw [subtable, found])

theorem TableAt.of_lookup {key : String} {inner : List (String × Node)}
    (found : entries.lookup key = some (.table inner)) : TableAt entries key :=
  fun _ other => ⟨inner, Option.some.inj (other.symm.trans found)⟩

theorem TableAt.of_absent {key : String} (missing : entries.lookup key = none) :
    TableAt entries key := by
  intro n found
  rw [missing] at found
  cases found

theorem tidy_subtable (tidy : Tidy (.table entries)) (key : String) :
    Tidy (.table (subtable entries key)) := by
  rw [subtable]
  split
  · next found => exact tidy.of_lookup found
  · exact .table .nil (by simp)

theorem takes_of_lookup {α : Type} {name : String} {n : Node} {read : Read α} {absent a : α}
    (found : entries.lookup name = some n) : Takes entries name read absent a ↔ read n = .ok a := by
  simp [Takes, found]

theorem takes_of_absent {α : Type} {name : String} {read : Read α} {absent a : α}
    (missing : entries.lookup name = none) : Takes entries name read absent a ↔ a = absent := by
  simp [Takes, missing]

theorem takes_bool_iff {name : String} {b : Bool} :
    Takes entries name readBool false b ↔
      entries.lookup name = none ∧ b = false ∨ entries.lookup name = some (.bool b) := by
  cases found : entries.lookup name with
  | none => simp [takes_of_absent found]
  | some n =>
    rw [takes_of_lookup found]
    cases n <;> simp [readBool]

theorem takes_text_iff {name expected : String} (tidy : Tidy (.table entries))
    {s : Option String} :
    Takes entries name (readOption (Document.readText expected)) none s ↔
      entries.lookup name = s.map .text := by
  cases found : entries.lookup name with
  | none =>
    rw [takes_of_absent found]
    cases s <;> simp
  | some n =>
    rw [takes_of_lookup found, (tidy.of_lookup found).readOption_eq]
    cases s with
    | none => cases n <;> simp [Document.readText, Except.map]
    | some t => cases n <;> simp [Document.readText, Except.map]

/-- A record that may be left out, where an absent one is like one without entries. -/
theorem takes_table_iff {α : Type} {name : String} {read : Read α} {absent a : α}
    {P : List (String × Node) → Prop} (table : TableAt entries name)
    (reads : read (.table (subtable entries name)) = .ok a ↔ P (subtable entries name))
    (empty : a = absent ↔ P []) :
    Takes entries name read absent a ↔ P (subtable entries name) := by
  rcases table.cases with ⟨missing, none⟩ | found
  · rw [takes_of_absent missing, none, empty]
  · rw [takes_of_lookup found, reads]

/-- Every value of the connection stands under its name. -/
structure RemoteSinkConfig.StandsIn (r : RemoteSinkConfig) (entries : List (String × Node)) :
    Prop where
  username : entries.lookup "username" = some (.text r.username)
  password : entries.lookup "password" = some (.text r.password)
  database : entries.lookup "database" = some (.text r.database)
  collection : entries.lookup "collection" = some (.text r.collection)
  address : entries.lookup "address" = some (.text r.address)
  port : entries.lookup "port" = some (.integer r.port.toNat)

theorem RemoteSinkConfig.standsIn_iff {r : RemoteSinkConfig} :
    r.StandsIn entries ↔ ∀ e ∈ r.members, entries.lookup e.1 = some e.2 := by
  simp only [members, List.forall_mem_cons]
  constructor
  · rintro ⟨username, password, database, collection, address, port⟩
    exact ⟨username, password, database, collection, address, port, by simp⟩
  · rintro ⟨username, password, database, collection, address, port, -⟩
    exact ⟨username, password, database, collection, address, port⟩

theorem RemoteSinkConfig.read_eq_ok_iff_standsIn (tidy : Tidy (.table entries))
    {r : RemoteSinkConfig} : read d (.table entries) = .ok r ↔ r.StandsIn entries := by
  rw [read_table_eq_ok_iff_lookup, standsIn_iff]
  constructor
  · exact And.right
  · intro found
    exact ⟨tidy.firstObjection_of_suits (by decide) r.members_suit found, found⟩

/-- The flag and the connection, each by itself. -/
structure JobConfig.StandsIn (c : JobConfig) (entries : List (String × Node)) : Prop where
  flag : entries.lookup "distributed_logging" = none ∧ c.distributedLogging = false ∨
    entries.lookup "distributed_logging" = some (.bool c.distributedLogging)
  remote : entries.lookup "remote" = none ∧ c.remote = none ∨
    ∃ inner r, entries.lookup "remote" = some (.table inner) ∧ c.remote = some r ∧
      r.StandsIn inner

theorem takes_remote_iff (tidy : Tidy (.table entries)) (table : TableAt entries "remote")
    {remote : Option RemoteSinkConfig} :
    Takes entries "remote" (readOption (RemoteSinkConfig.read d)) none remote ↔
      entries.lookup "remote" = none ∧ remote = none ∨
        ∃ inner r, entries.lookup "remote" = some (.table inner) ∧ remote = some r ∧
          r.StandsIn inner := by
  cases found : entries.lookup "remote" with
  | none => simp [takes_of_absent found]
  | some n =>
    obtain ⟨inner, rfl⟩ := table n found
    have tidyInner := tidy.of_lookup found
    rw [takes_of_lookup found, tidyInner.readOption_eq]
    constructor
    · intro reads
      cases connection : RemoteSinkConfig.read d (.table inner) with
      | error e =>
        rw [connection] at reads
        cases reads
      | ok r =>
        rw [connection] at reads
        cases reads
        exact .inr ⟨inner, r, rfl, rfl,
          (RemoteSinkConfig.read_eq_ok_iff_standsIn tidyInner).mp connection⟩
    · rintro (⟨⟨⟩, -⟩ | ⟨_, r, ⟨⟩, rfl, stands⟩)
      rw [(RemoteSinkConfig.read_eq_ok_iff_standsIn tidyInner).mpr stands]
      rfl

theorem JobConfig.read_eq_ok_iff_standsIn (tidy : Tidy (.table entries))
    (table : TableAt entries "remote") {c : JobConfig} :
    read d (.table entries) = .ok c ↔ c.StandsIn entries := by
  apply (tidy.read_pair_eq_ok_iff JobConfig.mk (by decide)).trans
  constructor
  · rintro ⟨flag, remote, takesFlag, takesRemote, rfl⟩
    exact ⟨takes_bool_iff.mp takesFlag, (takes_remote_iff tidy table).mp takesRemote⟩
  · rintro ⟨flag, remote⟩
    exact ⟨_, _, takes_bool_iff.mpr flag, (takes_remote_iff tidy table).mpr remote, rfl⟩

/-- The flag depends on what stands under its own name only. -/
theorem JobConfig.StandsIn.flag_eq {others : List (String × Node)} {c c' : JobConfig}
    (h : c.StandsIn entries) (h' : c'.StandsIn others)
    (same : entries.lookup "distributed_logging" = others.lookup "distributed_logging") :
    c.distributedLogging = c'.distributedLogging :=
  (takes_bool_iff.mpr h.flag).unique (takes_bool_iff.mpr h'.flag) same

/-- So does the connection. -/
theorem JobConfig.StandsIn.remote_eq {others : List (String × Node)} {c c' : JobConfig}
    (h : c.StandsIn entries) (h' : c'.StandsIn others)
    (tidy : Tidy (.table entries)) (tidy' : Tidy (.table others))
    (table : TableAt entries "remote") (table' : TableAt others "remote")
    (same : entries.lookup "remote" = others.lookup "remote") : c.remote = c'.remote := by
  -- how floats are told is of no importance here, so any dialect will do
  have takes : Takes entries "remote" (readOption (RemoteSinkConfig.read Json.dialect)) none
      c.remote := (takes_remote_iff tidy table).mpr h.remote
  exact takes.unique ((takes_remote_iff tidy' table').mpr h'.remote) same

structure LoggingConfig.StandsIn (c : LoggingConfig) (entries : List (String × Node)) :
    Prop where
  filter : entries.lookup "filter" = c.filter.map .text
  directory : entries.lookup "observation_dir" = c.observationDir.map .text

theorem LoggingConfig.read_eq_ok_iff_standsIn (tidy : Tidy (.table entries))
    {c : LoggingConfig} : read d (.table entries) = .ok c ↔ c.StandsIn entries := by
  apply (tidy.read_pair_eq_ok_iff LoggingConfig.mk (by decide)).trans
  constructor
  · rintro ⟨filter, directory, takesFilter, takesDirectory, rfl⟩
    exact ⟨(takes_text_iff tidy).mp takesFilter, (takes_text_iff tidy).mp takesDirectory⟩
  · rintro ⟨filter, directory⟩
    exact ⟨_, _, (takes_text_iff tidy).mpr filter, (takes_text_iff tidy).mpr directory, rfl⟩

structure MonitorConfig.StandsIn (c : MonitorConfig) (root : List (String × Node)) : Prop where
  job : c.job.StandsIn (subtable root "job")
  logging : c.logging.StandsIn (subtable root "logging")

theorem JobConfig.standsIn_nil_iff {c : JobConfig} : c = localOnly ↔ c.StandsIn [] := by
  constructor
  · rintro rfl
    exact ⟨.inl ⟨rfl, rfl⟩, .inl ⟨rfl, rfl⟩⟩
  · rintro ⟨⟨-, flag⟩ | ⟨⟨⟩⟩, ⟨-, remote⟩ | ⟨_, _, ⟨⟩, -⟩⟩
    obtain ⟨_, _⟩ := c
    cases flag
    cases remote
    rfl

theorem LoggingConfig.standsIn_nil_iff {c : LoggingConfig} : c = default ↔ c.StandsIn [] := by
  obtain ⟨filter, directory⟩ := c
  constructor
  · rintro ⟨⟩
    exact ⟨rfl, rfl⟩
  · rintro ⟨noFilter, noDirectory⟩
    cases filter with
    | some _ => cases noFilter
    | none =>
      cases directory with
      | some _ => cases noDirectory
      | none => rfl

/-- The tables of a settings file, each absent or a table indeed. -/
structure MonitorConfig.Tables (root : List (String × Node)) : Prop where
  job : TableAt root "job"
  logging : TableAt root "logging"
  remote : TableAt (subtable root "job") "remote"

theorem MonitorConfig.read_eq_ok_iff_standsIn {root : List (String × Node)}
    (tidy : Tidy (.table root)) (tables : Tables root) {c : MonitorConfig} :
    read d (.table root) = .ok c ↔ c.StandsIn root := by
  have job (job : JobConfig) : Takes root "job" (JobConfig.read d) JobConfig.localOnly job ↔
      job.StandsIn (subtable root "job") :=
    takes_table_iff tables.job
      (JobConfig.read_eq_ok_iff_standsIn (tidy_subtable tidy "job") tables.remote)
      JobConfig.standsIn_nil_iff
  have logging (logging : LoggingConfig) :
      Takes root "logging" (LoggingConfig.read d) LoggingConfig.default logging ↔
        logging.StandsIn (subtable root "logging") :=
    takes_table_iff tables.logging
      (LoggingConfig.read_eq_ok_iff_standsIn (tidy_subtable tidy "logging"))
      LoggingConfig.standsIn_nil_iff
  apply (tidy.read_pair_eq_ok_iff MonitorConfig.mk (by decide)).trans
  constructor
  · rintro ⟨j, l, takesJob, takesLogging, rfl⟩
    exact ⟨(job j).mp takesJob, (logging l).mp takesLogging⟩
  · rintro ⟨standsJob, standsLogging⟩
    exact ⟨_, _, (job _).mpr standsJob, (logging _).mpr standsLogging, rfl⟩

/-! ### Tables that fit -/

/-- A text under every name but the port's, which is a whole number of sixteen bits. -/
structure RemoteSinkConfig.Fits (entries : List (String × Node)) : Prop where
  texts : ∀ name ∈ ["username", "password", "database", "collection", "address"],
    ∃ s, entries.lookup name = some (.text s)
  port : ∃ n : Int, entries.lookup "port" = some (.integer n) ∧ 0 ≤ n ∧ n ≤ 65535

theorem RemoteSinkConfig.fits_iff : Fits entries ↔ ∃ r : RemoteSinkConfig, r.StandsIn entries := by
  constructor
  · rintro ⟨texts, port, atPort, atLeast, atMost⟩
    simp only [List.forall_mem_cons] at texts
    obtain ⟨⟨username, u⟩, ⟨password, w⟩, ⟨database, b⟩, ⟨collection, c⟩, ⟨address, a⟩, -⟩ := texts
    have same : ((port.toNat.toUInt16).toNat : Int) = port := by
      rw [UInt16.toNat_ofNat_of_lt' (by simp only [UInt16.size]; omega)]
      omega
    exact ⟨⟨username, password, database, collection, address, port.toNat.toUInt16⟩,
      u, w, b, c, a, by rw [atPort, same]⟩
  · rintro ⟨r, username, password, database, collection, address, port⟩
    constructor
    · simp only [List.forall_mem_cons]
      exact ⟨⟨_, username⟩, ⟨_, password⟩, ⟨_, database⟩, ⟨_, collection⟩, ⟨_, address⟩, by simp⟩
    · have bound := r.port.toNat_lt
      exact ⟨_, port, by omega, by omega⟩

structure JobConfig.Fits (entries : List (String × Node)) : Prop where
  flag : ∀ n, entries.lookup "distributed_logging" = some n → ∃ b, n = .bool b
  remote : ∀ inner, entries.lookup "remote" = some (.table inner) → RemoteSinkConfig.Fits inner

theorem JobConfig.fits_iff (table : TableAt entries "remote") :
    Fits entries ↔ ∃ c : JobConfig, c.StandsIn entries := by
  constructor
  · rintro ⟨flag, remote⟩
    obtain ⟨b, hasFlag⟩ : ∃ b, entries.lookup "distributed_logging" = none ∧ b = false ∨
        entries.lookup "distributed_logging" = some (.bool b) := by
      cases found : entries.lookup "distributed_logging" with
      | none => exact ⟨false, .inl ⟨rfl, rfl⟩⟩
      | some n =>
        obtain ⟨b, rfl⟩ := flag n found
        exact ⟨b, .inr rfl⟩
    rcases table.cases with ⟨missing, -⟩ | found
    · exact ⟨⟨b, none⟩, hasFlag, .inl ⟨missing, rfl⟩⟩
    · obtain ⟨r, stands⟩ := RemoteSinkConfig.fits_iff.mp (remote _ found)
      exact ⟨⟨b, some r⟩, hasFlag, .inr ⟨_, r, found, rfl, stands⟩⟩
  · rintro ⟨c, flag, remote⟩
    constructor
    · intro n found
      rcases flag with ⟨missing, -⟩ | present
      · rw [missing] at found
        cases found
      · exact ⟨_, Option.some.inj (found.symm.trans present)⟩
    · intro inner found
      rcases remote with ⟨missing, -⟩ | ⟨inner', r, present, -, stands⟩
      · rw [missing] at found
        cases found
      · cases found.symm.trans present
        exact RemoteSinkConfig.fits_iff.mpr ⟨r, stands⟩

structure LoggingConfig.Fits (entries : List (String × Node)) : Prop where
  texts : ∀ name ∈ ["filter", "observation_dir"], ∀ n, entries.lookup name = some n →
    ∃ s, n = .text s

theorem LoggingConfig.fits_iff : Fits entries ↔ ∃ c : LoggingConfig, c.StandsIn entries := by
  constructor
  · rintro ⟨texts⟩
    simp only [List.forall_mem_cons] at texts
    obtain ⟨filter, directory, -⟩ := texts
    have optional {name : String}
        (text : ∀ n, entries.lookup name = some n → ∃ s, n = .text s) :
        ∃ o : Option String, entries.lookup name = o.map .text := by
      cases found : entries.lookup name with
      | none => exact ⟨none, rfl⟩
      | some n =>
        obtain ⟨s, rfl⟩ := text n found
        exact ⟨some s, rfl⟩
    obtain ⟨_, hasFilter⟩ := optional filter
    obtain ⟨_, hasDirectory⟩ := optional directory
    exact ⟨⟨_, _⟩, hasFilter, hasDirectory⟩
  · rintro ⟨c, filter, directory⟩
    have text {o : Option String} {name : String} (stands : entries.lookup name = o.map .text)
        (n : Node) (found : entries.lookup name = some n) : ∃ s, n = .text s := by
      obtain ⟨s, -, same⟩ := Option.map_eq_some_iff.mp (stands.symm.trans found)
      exact ⟨s, same.symm⟩
    constructor
    simp only [List.forall_mem_cons]
    exact ⟨text filter, text directory, by simp⟩

structure MonitorConfig.Fits (root : List (String × Node)) : Prop where
  job : JobConfig.Fits (subtable root "job")
  logging : LoggingConfig.Fits (subtable root "logging")

theorem MonitorConfig.fits_iff {root : List (String × Node)} (tables : Tables root) :
    Fits root ↔ ∃ c : MonitorConfig, c.StandsIn root := by
  constructor
  · rintro ⟨job, logging⟩
    obtain ⟨job, standsJob⟩ := (JobConfig.fits_iff tables.remote).mp job
    obtain ⟨logging, standsLogging⟩ := LoggingConfig.fits_iff.mp logging
    exact ⟨⟨job, logging⟩, standsJob, standsLogging⟩
  · rintro ⟨c, job, logging⟩
    exact ⟨(JobConfig.fits_iff tables.remote).mpr ⟨_, job⟩, LoggingConfig.fits_iff.mpr ⟨_, logging⟩⟩

end FlowGauge
