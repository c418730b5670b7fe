import FlowGauge.Job.Schema
import FlowGauge.Json.Decode
import FlowGauge.Proofs.Document.Record
import FlowGauge.Proofs.Json.Reading

/-! Configurations are read back from the text that is written for them.

A connection to a store is moreover read from every object that has its six fields, in any order
and among any others, and from no other object. -/
namespace FlowGauge
open Document Json

theorem readText_eq_ok_iff {expected s : String} {n : Node} :
    Document.readText expected n = .ok s ↔ n = .text s := by
  cases n <;> simp [Document.readText]

theorem readPort_eq_ok_iff {port : UInt16} {n : Node} :
    readPort n = .ok port ↔ n = .integer port.toNat := by
  cases n with
  | integer i =>
    have small := port.toNat_lt
    simp only [readPort, Node.integer.injEq]
    split
    · next inRange =>
      rw [Except.ok.injEq, ← UInt16.toNat_inj]
      simp
      omega
    · simp
      omega
  | _ => simp [readPort]

/-- The tree of a value that may be absent. -/
def nodeOption {α : Type} (node : α → Node) : Option α → Node
  | none => .null
  | some a => node a

theorem readOption_nodeOption {α : Type} {read : Read α} {node : α → Node} {o : Option α}
    (back : ∀ a, read (node a) = .ok a) (present : ∀ a, node a ≠ .null) :
    readOption read (nodeOption node o) = .ok o := by
  cases o with
  | none => rfl
  | some a =>
    have other := present a
    rw [nodeOption, readOption]
    · rw [back a]
      rfl
    · exact other

theorem nodeOption_keyed {α : Type} {node : α → Node} (keyed : ∀ a v, node a ≠ .keyless v)
    (o : Option α) (v : Node) : nodeOption node o ≠ .keyless v := by
  cases o with
  | none => exact nofun
  | some a => exact keyed a v

theorem valueText_option {α : Type} {node : α → Node} {json : α → Json} (o : Option α)
    (written : ∀ a, ValueText (node a) (json a).written) :
    ValueText (nodeOption node o) (jsonOption json o).written := by
  cases o with
  | none => exact valueText_null
  | some a => exact written a

namespace RemoteSinkConfig

def members (r : RemoteSinkConfig) : List (String × Node) :=
  [("username", .text r.username), ("password", .text r.password), ("database", .text r.database),
    ("collection", .text r.collection), ("address", .text r.address),
    ("port", .integer r.port.toNat)]

theorem members_suit (r : RemoteSinkConfig) : List.Forall₂ Suits fields r.members := by
  have text (name s : String) :
      Suits (field name (Document.readText "a string")) (name, .text s) :=
    suits_field rfl (by simp)
  have port : Suits (field "port" readPort) ("port", .integer r.port.toNat) :=
    suits_field (readPort_eq_ok_iff.mpr rfl) (by simp)
  simp only [fields, members, List.forall₂_cons]
  exact ⟨text _ _, text _ _, text _ _, text _ _, text _ _, port, .nil⟩

/-- Each value of the record stands under the name of its field. -/
theorem read_table_eq_ok_iff_lookup {d : Dialect} {entries : List (String × Node)}
    {r : RemoteSinkConfig} : read d (.table entries) = .ok r ↔
      firstObjection fields [] entries = none ∧ ∀ e ∈ r.members, entries.lookup e.1 = some e.2 := by
  simp only [read, bind_eq_ok, readRecord_table_eq_ok_iff, required_eq_ok_iff, readText_eq_ok_iff,
    readPort_eq_ok_iff, exists_eq_right, and_assoc, exists_and_left, exists_eq_left, members,
    List.forall_mem_cons]
  constructor
  · rintro ⟨accepted, _, username, _, password, _, database, _, collection, _, address, _, port,
      _, -, ⟨⟩⟩
    exact ⟨accepted, username, password, database, collection, address, port, by simp⟩
  · rintro ⟨accepted, username, password, database, collection, address, port, -⟩
    exact ⟨accepted, _, username, _, password, _, database, _, collection, _, address, _, port,
      (), rfl, rfl⟩

/-- An object is read as a connection exactly if it lists the six fields of it. -/
theorem read_table_eq_ok_iff {d : Dialect} {entries : List (String × Node)}
    (whole : Node.wholeEntries entries = true) {r : RemoteSinkConfig} :
    read d (.table entries) = .ok r ↔ Lists r.members entries :=
  read_table_eq_ok_iff_lookup.trans (lists_iff r.members_suit (by decide) whole).symm

theorem valueText (r : RemoteSinkConfig) : ValueText (.table r.members) r.json.written := by
  have small := r.port.toNat_lt
  have word : (wordMax : Int) = 18446744073709551615 := rfl
  have port : ValueText (.integer r.port.toNat) (Json.integer r.port.toNat).written :=
    valueText_integer (by simp) (by omega)
  apply valueText_object
  simp only [TreesOf, members, List.forall₂_cons, true_and]
  exact ⟨valueText_text _, valueText_text _, valueText_text _, valueText_text _,
    valueText_text _, port, .nil⟩

theorem read_members (d : Dialect) (r : RemoteSinkConfig) : read d (.table r.members) = .ok r :=
  (read_table_eq_ok_iff r.valueText.whole).mpr (.refl _)

end RemoteSinkConfig

namespace JobConfig

def members (c : JobConfig) : List (String × Node) :=
  [("distributed_logging", .bool c.distributedLogging),
    ("remote", nodeOption (fun r => .table r.members) c.remote)]

theorem valueText (c : JobConfig) : ValueText (.table c.members) c.json.written := by
  have remote := valueText_option c.remote RemoteSinkConfig.valueText
  exact valueText_object (.cons ⟨rfl, valueText_bool _⟩ (.cons ⟨rfl, remote⟩ .nil))

theorem read_members (d : Dialect) (c : JobConfig) : read d (.table c.members) = .ok c := by
  have remote : readOption (RemoteSinkConfig.read d)
      (nodeOption (fun r => .table r.members) c.remote) = .ok c.remote := by
    apply readOption_nodeOption (RemoteSinkConfig.read_members d)
    simp
  exact read_pair JobConfig.mk (by decide) rfl remote (by simp)
    (nodeOption_keyed (by simp) c.remote) c.valueText.whole (.refl _)

end JobConfig

namespace LoggingConfig

def members (c : LoggingConfig) : List (String × Node) :=
  [("filter", nodeOption .text c.filter), ("observation_dir", nodeOption .text c.observationDir)]

theorem valueText (c : LoggingConfig) : ValueText (.table c.members) c.json.written := by
  have filter := valueText_option c.filter valueText_text
  have dir := valueText_option c.observationDir valueText_text
  exact valueText_object (.cons ⟨rfl, filter⟩ (.cons ⟨rfl, dir⟩ .nil))

theorem read_members (d : Dialect) (c : LoggingConfig) : read d (.table c.members) = .ok c := by
  have text (expected : String) (o : Option String) :
      readOption (Document.readText expected) (nodeOption .text o) = .ok o := by
    apply readOption_nodeOption
    · intro s
      rfl
    · simp
  exact read_pair LoggingConfig.mk (by decide) (text _ c.filter) (text _ c.observationDir)
    (nodeOption_keyed (by simp) _) (nodeOption_keyed (by simp) _) c.valueText.whole (.refl _)

end LoggingConfig

namespace MonitorConfig

def members (c : MonitorConfig) : List (String × Node) :=
  [("job", .table c.job.members), ("logging", .table c.logging.members)]

theorem valueText (c : MonitorConfig) : ValueText (.table c.members) c.json.written :=
  valueText_object (.cons ⟨rfl, c.job.valueText⟩ (.cons ⟨rfl, c.logging.valueText⟩ .nil))

theorem read_members (d : Dialect) (c : MonitorConfig) : read d (.table c.members) = .ok c :=
  read_pair MonitorConfig.mk (by decide) (c.job.read_members d) (c.logging.read_members d)
    (by simp) (by simp) c.valueText.whole (.refl _)

end MonitorConfig

/-- **Configurations survive JSON.** What is written for a configuration is read as this
configuration. A connection to a store is read from an object in any spelling exactly if the object
lists the six fields of the connection, each once, in any order and among any entries under other
keys; an object without one of the six is refused. -/
theorem config_json_round_trip :
    (∀ c : JobConfig, decode (JobConfig.read dialect) c.json.render = .ok c) ∧
    (∀ c : LoggingConfig, decode (LoggingConfig.read dialect) c.json.render = .ok c) ∧
    (∀ c : MonitorConfig, decode (MonitorConfig.read dialect) c.json.render = .ok c) ∧
    (∀ (r : RemoteSinkConfig) (entries : List (String × Node)) (text : String),
      ElementText (.table entries) text.toList →
        (decode (RemoteSinkConfig.read dialect) text = .ok r ↔ Lists r.members entries)) ∧
    ∀ (entries : List (String × Node)) (text : String), ElementText (.table entries) text.toList →
      ∀ name ∈ names RemoteSinkConfig.fields, name ∉ entries.map Prod.fst →
        ∃ e, decode (RemoteSinkConfig.read dialect) text = .error e := by
  have remote (r : RemoteSinkConfig) (entries : List (String × Node)) (text : String)
      (isText : ElementText (.table entries) text.toList) :
      decode (RemoteSinkConfig.read dialect) text = .ok r ↔ Lists r.members entries := by
    rw [decode_eq isText]
    exact RemoteSinkConfig.read_table_eq_ok_iff isText.whole
  refine ⟨?_, ?_, ?_, remote, ?_⟩
  · intro c
    rw [decode_eq c.valueText.render, c.read_members]
  · intro c
    rw [decode_eq c.valueText.render, c.read_members]
  · intro c
    rw [decode_eq c.valueText.render, c.read_members]
  · intro entries text isText name field missing
    cases result : decode (RemoteSinkConfig.read dialect) text with
    | error e => exact ⟨e, rfl⟩
    | ok r =>
      obtain ⟨others, perm, -⟩ := (remote r entries text isText).mp result
      have keys := (perm.map Prod.fst).mem_iff.not.mp missing
      rw [List.map_append, List.mem_append, not_or, names_of_suits r.members_suit] at keys
      exact absurd field keys.1

/-- The fields of a connection, the last one first, behind an entry that is nobody's. -/
theorem backwards_object_read :
    decode (RemoteSinkConfig.read dialect) (Json.object [("retries", .null),
        ("port", .integer 65535), ("address", .text "\\"), ("collection", .text "\x07"),
        ("database", .text "😀"), ("password", .text "\""), ("username", .text "")]).render =
      .ok ⟨"", "\"", "😀", "\x07", "\\", 65535⟩ ∧
    ∃ e, decode (RemoteSinkConfig.read dialect) (Json.object []).render = .error e := by
  obtain ⟨-, -, -, listed, missing⟩ := config_json_round_trip
  let r : RemoteSinkConfig := ⟨"", "\"", "😀", "\x07", "\\", 65535⟩
  have trees : TreesOf [("retries", .null), ("port", .integer 65535), ("address", .text "\\"),
      ("collection", .text "\x07"), ("database", .text "😀"), ("password", .text "\""),
      ("username", .text "")] (("retries", Node.null) :: r.members.reverse) :=
    .cons ⟨rfl, valueText_null⟩ (.cons ⟨rfl, valueText_integer (by decide) (by decide)⟩
      (.cons ⟨rfl, valueText_text _⟩ (.cons ⟨rfl, valueText_text _⟩ (.cons ⟨rfl, valueText_text _⟩
        (.cons ⟨rfl, valueText_text _⟩ (.cons ⟨rfl, valueText_text _⟩ .nil))))))
  have backwards : Lists r.members (("retries", Node.null) :: r.members.reverse) := by
    refine ⟨[("retries", Node.null)], ?_, ?_⟩
    · exact ((List.reverse_perm r.members).cons _).trans (List.perm_append_singleton _ _).symm
    · simp [r, RemoteSinkConfig.members]
  exact ⟨(listed r _ _ (valueText_object trees).render).mpr backwards,
    missing [] _ (valueText_object .nil).render "port" (by decide) (by simp)⟩

end FlowGauge
