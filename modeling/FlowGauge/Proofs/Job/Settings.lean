import FlowGauge.Job.Load
import FlowGauge.Proofs.Document.Pared
import FlowGauge.Proofs.Job.Schema
import FlowGauge.Proofs.Toml.Tidy

/-! The settings in a file.

The tree of a file is tidy, so what a file says is what stands in its tables, and the keys that
nothing asks for can be taken out of it. -/
namespace FlowGauge
open Document

variable {d : Dialect}

def RemoteSinkConfig.pare : Node → Node :=
  Document.pare (names fields) fun _ n => n

theorem RemoteSinkConfig.read_pare {n : Node} (tidy : Tidy n) :
    read d (pare n) = read d n := by
  cases tidy with
  | bool | integer | float | text | list => rfl
  | @table entries distinct each =>
    have tidy : Tidy (.table entries) := .table distinct each
    have pares : Pares fields fun _ n => n := ⟨fun _ _ tidy => tidy, fun _ _ _ _ => rfl⟩
    simp only [read, pare, Document.pare, readRecord, pares.firstObjection_eq tidy]
    cases firstObjection fields [] entries with
    | some e => rfl
    | none =>
      have same {α : Type} {index : Nat} {name : String} {value : Read α}
          (isField : name ∈ names fields) :
          (Record.named (paredEntries (names fields) (fun _ n => n) entries)).required index name
              extent value =
            (Record.named entries).required index name extent value :=
        required_pared tidy isField fun _ _ => rfl
      simp (disch := decide) only [bind, Except.bind, same, Record.close]

theorem RemoteSinkConfig.tidy_pare {n : Node} (tidy : Tidy n) : Tidy (pare n) :=
  tidy.pare fun _ _ tidyM => tidyM

theorem tidy_ite {p : Prop} [Decidable p] {m n : Node} (tidyM : Tidy m) (tidyN : Tidy n) :
    Tidy (if p then m else n) := by
  split
  · exact tidyM
  · exact tidyN

def JobConfig.pare : Node → Node :=
  Document.pare ["distributed_logging", "remote"] fun key n =>
    if key = "remote" then RemoteSinkConfig.pare n else n

theorem JobConfig.tidy_pare {n : Node} (tidy : Tidy n) : Tidy (pare n) :=
  tidy.pare fun _ _ tidyM => tidy_ite (RemoteSinkConfig.tidy_pare tidyM) tidyM

theorem JobConfig.read_pare {n : Node} (tidy : Tidy n) : read d (pare n) = read d n := by
  cases tidy with
  | bool | integer | float | text | list => rfl
  | @table entries distinct each =>
    apply read_pair_pared JobConfig.mk (.table distinct each)
    · exact fun _ _ tidyM => tidy_ite (RemoteSinkConfig.tidy_pare tidyM) tidyM
    · intro m tidyM
      rw [if_neg (by decide)]
    · intro m tidyM
      rw [if_pos rfl, tidyM.readOption_eq, (RemoteSinkConfig.tidy_pare tidyM).readOption_eq,
        RemoteSinkConfig.read_pare tidyM]

def LoggingConfig.pare : Node → Node :=
  Document.pare ["filter", "observation_dir"] fun _ n => n

theorem LoggingConfig.tidy_pare {n : Node} (tidy : Tidy n) : Tidy (pare n) :=
  tidy.pare fun _ _ tidyM => tidyM

theorem LoggingConfig.read_pare {n : Node} (tidy : Tidy n) : read d (pare n) = read d n := by
  cases tidy with
  | bool | integer | float | text | list => rfl
  | @table entries distinct each =>
    exact read_pair_pared LoggingConfig.mk (.table distinct each) (fun _ _ tidy => tidy)
      (fun _ _ => rfl) (fun _ _ => rfl)

/-- What of a settings file has a place in the settings. -/
def MonitorConfig.pare : Node → Node :=
  Document.pare ["job", "logging"] fun key n =>
    if key = "job" then JobConfig.pare n else LoggingConfig.pare n

theorem MonitorConfig.read_pare {n : Node} (tidy : Tidy n) : read d (pare n) = read d n := by
  cases tidy with
  | bool | integer | float | text | list => rfl
  | @table entries distinct each =>
    apply read_pair_pared MonitorConfig.mk (.table distinct each)
    · exact fun _ _ tidyM =>
        tidy_ite (JobConfig.tidy_pare tidyM) (LoggingConfig.tidy_pare tidyM)
    · intro m tidyM
      rw [if_pos rfl, JobConfig.read_pare tidyM]
    · intro m tidyM
      rw [if_neg (by decide), LoggingConfig.read_pare tidyM]

section
variable {text : String} {node : Node} {root : List (String × Node)}

theorem MonitorConfig.ofToml_eq (parsed : Toml.read? text = some node) : ofToml text =
    (read Toml.dialect node).mapError fun e => .toml (e.message? Toml.dialect.floatText) := by
  simp only [ofToml, parsed]
  cases read Toml.dialect node <;> rfl

theorem MonitorConfig.ofToml_eq_ok_iff (parsed : Toml.read? text = some (.table root))
    (tables : Tables root) {c : MonitorConfig} : ofToml text = .ok c ↔ c.StandsIn root := by
  obtain ⟨_, -, tidy⟩ := Toml.read?_tidy parsed
  rw [← read_eq_ok_iff_standsIn tidy tables, ofToml_eq parsed]
  cases read Toml.dialect (.table root) <;> simp [Except.mapError]

/-- A well-formed file that is not read has a fault of its values. -/
theorem MonitorConfig.ofToml_of_unread (parsed : Toml.read? text = some node)
    (unread : ¬∃ c, ofToml text = .ok c) : ∃ m, ofToml text = .error (.toml m) := by
  rw [ofToml_eq parsed] at unread ⊢
  cases result : read Toml.dialect node with
  | ok c =>
    rw [result] at unread
    exact absurd ⟨c, rfl⟩ unread
  | error e => exact ⟨_, rfl⟩

theorem MonitorConfig.ofToml_eq_of_pare {other : String} {node' : Node}
    (parsed : Toml.read? text = some node) (parsed' : Toml.read? other = some node')
    (same : pare node' = pare node) : ofToml other = ofToml text := by
  obtain ⟨_, -, tidy⟩ := Toml.read?_tidy parsed
  obtain ⟨_, -, tidy'⟩ := Toml.read?_tidy parsed'
  rw [ofToml_eq parsed', ofToml_eq parsed, ← read_pare tidy', ← read_pare tidy, same]

end

/-- **Settings files say what they say.** From a well-formed text whose tables are tables, settings
are read exactly if what stands under their names is of their kind; then each of them is the value
under its name or, without one, its default. Otherwise there is a fault of the configuration. The
flag of a job and its connection do not influence each other, and what stands under other names has
no influence on anything, at any depth. -/
theorem settings_read_by_schema {text : String} {node : Node}
    (parsed : Toml.read? text = some node) :
    ∃ root, node = .table root ∧
      (MonitorConfig.Tables root →
        ((∃ c, MonitorConfig.ofToml text = .ok c) ↔ MonitorConfig.Fits root) ∧
        (∀ c, MonitorConfig.ofToml text = .ok c ↔ c.StandsIn root) ∧
        (¬MonitorConfig.Fits root → ∃ m, MonitorConfig.ofToml text = .error (.toml m) ∧
          (Fault.toml m).isConfig = true) ∧
        ∀ other root', Toml.read? other = some (.table root') → MonitorConfig.Tables root' →
          ∀ c c', MonitorConfig.ofToml text = .ok c → MonitorConfig.ofToml other = .ok c' →
            ((subtable root "job").lookup "distributed_logging" =
                (subtable root' "job").lookup "distributed_logging" →
              c.job.distributedLogging = c'.job.distributedLogging) ∧
            ((subtable root "job").lookup "remote" = (subtable root' "job").lookup "remote" →
              c.job.remote = c'.job.remote)) ∧
      ∀ other node', Toml.read? other = some node' →
        MonitorConfig.pare node' = MonitorConfig.pare node →
          MonitorConfig.ofToml other = MonitorConfig.ofToml text := by
  obtain ⟨root, rfl, tidy⟩ := Toml.read?_tidy parsed
  refine ⟨root, rfl, ?_, fun _ _ => MonitorConfig.ofToml_eq_of_pare parsed⟩
  intro tables
  have stands (c : MonitorConfig) : MonitorConfig.ofToml text = .ok c ↔ c.StandsIn root :=
    MonitorConfig.ofToml_eq_ok_iff parsed tables
  have accepted : (∃ c, MonitorConfig.ofToml text = .ok c) ↔ MonitorConfig.Fits root := by
    rw [MonitorConfig.fits_iff tables]
    exact exists_congr stands
  refine ⟨accepted, stands, ?_, ?_⟩
  · intro misfit
    rw [← accepted] at misfit
    obtain ⟨m, failed⟩ := MonitorConfig.ofToml_of_unread parsed misfit
    exact ⟨m, failed, rfl⟩
  · intro other root' parsed' tables' c c' reads reads'
    obtain ⟨_, ⟨⟩, tidy'⟩ := Toml.read?_tidy parsed'
    have first := ((stands c).mp reads).job
    have second := ((MonitorConfig.ofToml_eq_ok_iff parsed' tables').mp reads').job
    exact ⟨first.flag_eq second, first.remote_eq second (tidy_subtable tidy "job")
      (tidy_subtable tidy' "job") tables.remote tables'.remote⟩

/-- A file, the same settings among other keys and tables, and a port that is too large. -/
theorem settings_read_among_others :
    MonitorConfig.ofToml "[job]\ndistributed_logging=true\n[logging]\nfilter='info'" =
      .ok ⟨⟨true, none⟩, ⟨some "info", none⟩⟩ ∧
    MonitorConfig.ofToml ("[job]\nretries=[1,'x']\ndistributed_logging=true\n" ++
        "[logging]\nfilter='info'\n[logging.filters]\ninfo=2") =
      .ok ⟨⟨true, none⟩, ⟨some "info", none⟩⟩ ∧
    ∃ m, MonitorConfig.ofToml "job.remote.port=65536" = .error (.toml m) := by
  have parsed : Toml.read? "[job]\ndistributed_logging=true\n[logging]\nfilter='info'" =
      some (.table [("job", .table [("distributed_logging", .bool true)]),
        ("logging", .table [("filter", .text "info")])]) :=
    Toml.read?_eq_some_iff.mpr ⟨[.header ["job"], .entry ["distributed_logging"] (.bool true),
      .header ["logging"], .entry ["filter"] (.text "info")], by cbv, rfl⟩
  have among : Toml.read? ("[job]\nretries=[1,'x']\ndistributed_logging=true\n" ++
        "[logging]\nfilter='info'\n[logging.filters]\ninfo=2") =
      some (.table [("job", .table [("retries", .list [.integer 1, .text "x"]),
          ("distributed_logging", .bool true)]),
        ("logging", .table [("filter", .text "info"),
          ("filters", .table [("info", .integer 2)])])]) :=
    Toml.read?_eq_some_iff.mpr ⟨[.header ["job"],
      .entry ["retries"] (.list [.integer 1, .text "x"]),
      .entry ["distributed_logging"] (.bool true), .header ["logging"],
      .entry ["filter"] (.text "info"), .header ["logging", "filters"],
      .entry ["info"] (.integer 2)], by cbv, rfl⟩
  have large : Toml.read? "job.remote.port=65536" =
      some (.table [("job", .table [("remote", .table [("port", .integer 65536)])])]) :=
    Toml.read?_eq_some_iff.mpr ⟨[.entry ["job", "remote", "port"] (.integer 65536)], by cbv, rfl⟩
  obtain ⟨_, ⟨⟩, within, alike⟩ := settings_read_by_schema parsed
  obtain ⟨_, ⟨⟩, withinLarge, -⟩ := settings_read_by_schema large
  have tables : MonitorConfig.Tables [("job", .table [("distributed_logging", .bool true)]),
      ("logging", .table [("filter", .text "info")])] :=
    ⟨.of_lookup rfl, .of_lookup rfl, .of_absent rfl⟩
  have tablesLarge : MonitorConfig.Tables
      [("job", .table [("remote", .table [("port", .integer 65536)])])] :=
    ⟨.of_lookup rfl, .of_absent rfl, .of_lookup rfl⟩
  have misfit : ¬MonitorConfig.Fits
      [("job", .table [("remote", .table [("port", .integer 65536)])])] := by
    rintro ⟨⟨-, remote⟩, -⟩
    obtain ⟨_, ⟨⟩, -, atMost⟩ := (remote _ rfl).port
    omega
  have read := ((within tables).2.1 ⟨⟨true, none⟩, ⟨some "info", none⟩⟩).mpr
    ⟨⟨.inr rfl, .inl ⟨rfl, rfl⟩⟩, ⟨rfl, rfl⟩⟩
  refine ⟨read, (alike _ _ among rfl).trans read, ?_⟩
  obtain ⟨m, failed, -⟩ := (withinLarge tablesLarge).2.2.1 misfit
  exact ⟨m, failed⟩

end FlowGauge
