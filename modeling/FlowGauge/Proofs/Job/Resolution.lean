import FlowGauge.Proofs.Job.Parameters
import FlowGauge.Proofs.Sampler.SinkChoice

/-! Where a job's summaries go, and that the sink for them agrees.

The mode of a job and its sink come from two looks at the configuration. The second look has a
complaint of its own, but whatever it could complain about has been refused by the first. -/
namespace FlowGauge

/-- A text has nothing but blanks, and the complaint about its name. -/
inductive Blank : String × String → Fault → Prop
  | text {key text : String} (blank : ∀ c ∈ text.toList, Text.isBlank c = true) :
      Blank (key, text) (.missingParameter key)

theorem blank_iff {t : String × String} {fault : Fault} :
    Blank t fault ↔ Text.allBlank t.2 = true ∧ fault = .missingParameter t.1 := by
  constructor
  · rintro ⟨blank⟩
    exact ⟨List.all_eq_true.mpr blank, rfl⟩
  · rintro ⟨blank, rfl⟩
    exact .text (List.all_eq_true.mp blank)

theorem first_blank_iff {texts : List (String × String)} {fault : Fault} :
    First Blank texts fault ↔
      ∃ t, (texts.find? fun t => Text.allBlank t.2) = some t ∧ fault = .missingParameter t.1 := by
  induction texts with
  | nil =>
    constructor
    · nofun
    · rintro ⟨_, ⟨⟩, -⟩
  | cons t rest ih =>
    rw [first_cons_iff, ih, blank_iff, List.find?_cons]
    cases blank : Text.allBlank t.2 with
    | true =>
      constructor
      · rintro (⟨-, complaint⟩ | ⟨nothing, -⟩)
        · exact ⟨t, rfl, complaint⟩
        · exact absurd (blank_iff.mpr ⟨blank, rfl⟩) (nothing _)
      · rintro ⟨_, ⟨⟩, complaint⟩
        exact .inl ⟨rfl, complaint⟩
    | false =>
      have nothing (fault : Fault) : ¬Blank t fault := by
        rw [blank_iff, blank]
        nofun
      constructor
      · rintro (⟨⟨⟩, -⟩ | ⟨-, later⟩)
        exact later
      · intro later
        exact .inr ⟨nothing, later⟩

namespace RemoteSinkConfig

variable {r : RemoteSinkConfig}

/-- Every text has a character that is not blank. -/
def Filled (r : RemoteSinkConfig) : Prop :=
  ∀ text ∈ [r.username, r.password, r.database, r.collection, r.address],
    ∃ c ∈ text.toList, Text.isBlank c = false

/-- The complaint about the first blank text. -/
def FirstBlank (r : RemoteSinkConfig) : Fault → Prop :=
  First Blank [(usernameParameter, r.username), (passwordParameter, r.password),
    (databaseParameter, r.database), (collectionParameter, r.collection),
    (addressParameter, r.address)]

theorem firstBlank_iff {fault : Fault} :
    r.FirstBlank fault ↔ ∃ key, r.firstBlank? = some key ∧ fault = .missingParameter key := by
  apply first_blank_iff.trans
  rw [firstBlank?]
  constructor
  · rintro ⟨t, found, complaint⟩
    exact ⟨t.1, Option.map_eq_some_iff.mpr ⟨t, found, rfl⟩, complaint⟩
  · rintro ⟨key, found, complaint⟩
    obtain ⟨t, first, rfl⟩ := Option.map_eq_some_iff.mp found
    exact ⟨t, first, complaint⟩

theorem filled_iff : r.Filled ↔ r.firstBlank? = none := by
  simp [Filled, firstBlank?, texts, Text.allBlank]

theorem validate_eq_ok_iff : r.validate = .ok () ↔ r.Filled ∧ r.port ≠ 0 := by
  rw [filled_iff, validate]
  cases r.firstBlank? with
  | some key => simp
  | none => by_cases noPort : r.port = 0 <;> simp [noPort]

theorem validate_eq_error_iff {fault : Fault} : r.validate = .error fault ↔
    r.FirstBlank fault ∨ r.Filled ∧ r.port = 0 ∧ fault = .invalidParameter portParameter "0" := by
  rw [filled_iff, firstBlank_iff, validate]
  cases r.firstBlank? with
  | some key => simp [eq_comm]
  | none => by_cases noPort : r.port = 0 <;> simp [noPort, eq_comm]

end RemoteSinkConfig

namespace JobConfig

variable {c : JobConfig}

def noConnection : Fault :=
  .config "distributed logging requested without remote sink parameters"

/-- Where the summaries of a job go, or what is wrong with it. -/
inductive Resolves (c : JobConfig) : Except Fault SinkMode → Prop
  | kept (off : c.distributedLogging = false) : Resolves c (.ok .localLog)
  | sent {r : RemoteSinkConfig} (on : c.distributedLogging = true) (remote : c.remote = some r)
      (filled : r.Filled) (port : r.port ≠ 0) : Resolves c (.ok .remoteStore)
  | unconnected (on : c.distributedLogging = true) (absent : c.remote = none) :
      Resolves c (.error noConnection)
  | blank {r : RemoteSinkConfig} {fault : Fault} (on : c.distributedLogging = true)
      (remote : c.remote = some r) (first : r.FirstBlank fault) : Resolves c (.error fault)
  | portless {r : RemoteSinkConfig} (on : c.distributedLogging = true) (remote : c.remote = some r)
      (filled : r.Filled) (port : r.port = 0) :
      Resolves c (.error (.invalidParameter portParameter "0"))

theorem resolveSinkMode_of_kept (off : c.distributedLogging = false) :
    c.resolveSinkMode = .ok .localLog := by
  simp [resolveSinkMode, off]

theorem resolveSinkMode_of_unconnected (on : c.distributedLogging = true)
    (absent : c.remote = none) : c.resolveSinkMode = .error noConnection := by
  simp [resolveSinkMode, on, absent, noConnection]

theorem resolveSinkMode_of_remote {r : RemoteSinkConfig} (on : c.distributedLogging = true)
    (remote : c.remote = some r) :
    c.resolveSinkMode = r.validate.map fun _ => SinkMode.remoteStore := by
  simp only [resolveSinkMode, on, remote]
  cases r.validate <;> rfl

theorem resolves_resolveSinkMode (c : JobConfig) : c.Resolves c.resolveSinkMode := by
  cases on : c.distributedLogging with
  | false =>
    rw [resolveSinkMode_of_kept on]
    exact .kept on
  | true =>
    cases remote : c.remote with
    | none =>
      rw [resolveSinkMode_of_unconnected on remote]
      exact .unconnected on remote
    | some r =>
      rw [resolveSinkMode_of_remote on remote]
      cases checked : r.validate with
      | ok =>
        obtain ⟨filled, port⟩ := RemoteSinkConfig.validate_eq_ok_iff.mp checked
        exact .sent on remote filled port
      | error fault =>
        rcases RemoteSinkConfig.validate_eq_error_iff.mp checked with first | ⟨filled, port, rfl⟩
        · exact .blank on remote first
        · exact .portless on remote filled port

theorem Resolves.eq_resolveSinkMode {outcome : Except Fault SinkMode} (h : c.Resolves outcome) :
    c.resolveSinkMode = outcome := by
  cases h with
  | kept off => exact resolveSinkMode_of_kept off
  | unconnected on absent => exact resolveSinkMode_of_unconnected on absent
  | sent on remote filled port =>
    rw [resolveSinkMode_of_remote on remote,
      RemoteSinkConfig.validate_eq_ok_iff.mpr ⟨filled, port⟩]
    rfl
  | blank on remote first =>
    rw [resolveSinkMode_of_remote on remote,
      RemoteSinkConfig.validate_eq_error_iff.mpr (.inl first)]
    rfl
  | portless on remote filled port =>
    rw [resolveSinkMode_of_remote on remote,
      RemoteSinkConfig.validate_eq_error_iff.mpr (.inr ⟨filled, port, rfl⟩)]
    rfl

/-- Only configurations are to blame. -/
theorem Resolves.isConfig {fault : Fault} (h : c.Resolves (.error fault)) :
    fault.isConfig = true := by
  cases h with
  | unconnected => rfl
  | portless => rfl
  | blank on remote first =>
    obtain ⟨key, -, rfl⟩ := RemoteSinkConfig.firstBlank_iff.mp first
    rfl

/-- A complaint in words of its own is made about a missing connection only. -/
theorem Resolves.unconnected_of_config {text : String} (h : c.Resolves (.error (.config text))) :
    c.distributedLogging = true ∧ c.remote = none ∧ .config text = noConnection := by
  generalize refused : Except.error (Fault.config text) = outcome at h
  cases h with
  | kept | sent | portless => cases refused
  | unconnected on absent => exact ⟨on, absent, Except.error.inj refused⟩
  | blank on remote first =>
    obtain ⟨key, -, rfl⟩ := RemoteSinkConfig.firstBlank_iff.mp first
    cases refused

end JobConfig

/-- What parameters make has a connection if it distributes its summaries. -/
theorem JobConfig.Given.connected {params : Parameters} {c : JobConfig}
    (h : Given params (.ok c)) (on : c.distributedLogging = true) : c.remote ≠ none := by
  cases h with
  | unflagged | kept => cases on
  | sent => exact nofun

theorem JobConfig.Decides.name {c : JobConfig} {mode : SinkMode} {sink : Sink}
    (h : c.Decides mode sink) : sink.name = mode.display := by
  cases h <;> rfl

/-- The sink goes by the mode: there is one, of that name, or the same complaint. -/
theorem Sink.name_ofJob (c : JobConfig) :
    (ofJob c).map name = c.resolveSinkMode.map SinkMode.display := by
  cases resolved : c.resolveSinkMode with
  | error fault =>
    rw [ofJob, resolved]
    rfl
  | ok mode =>
    obtain ⟨sink, found, decided, -⟩ := ofJob_decides resolved
    rw [found]
    exact congrArg Except.ok decided.name

theorem map_eq_error_iff {ε α β : Type} {f : α → β} {x : Except ε α} {e : ε} :
    x.map f = .error e ↔ x = .error e := by
  cases x <;> simp [Except.map]

/-- **Mode and sink agree.** A job keeps its summaries unless it says that it distributes them; it
sends them to a store if it does and its connection has no blank text and a port. Otherwise it is
refused: for want of a connection, else for its first blank text, else for its port. There is a sink
for every job that has a mode, under the name of the mode, and none for the others, with the
complaint about the mode; so the sink's own complaint about a missing connection is never made. The
configuration is to blame for every refusal, and parameters never make a job that lacks its
connection. -/
theorem mode_and_sink_agree (c : JobConfig) :
    (∀ outcome, c.resolveSinkMode = outcome ↔ c.Resolves outcome) ∧
    (∀ fault, Sink.ofJob c = .error fault ↔ c.resolveSinkMode = .error fault) ∧
    (Sink.ofJob c).map Sink.name = c.resolveSinkMode.map SinkMode.display ∧
    Sink.ofJob c ≠ .error (.config "remote sink parameters missing") ∧
    (∀ fault, c.resolveSinkMode = .error fault → fault.isConfig = true) ∧
    ∀ params, JobConfig.ofParameters params = .ok c →
      c.resolveSinkMode ≠ .error JobConfig.noConnection := by
  have resolves (outcome : Except Fault SinkMode) :
      c.resolveSinkMode = outcome ↔ c.Resolves outcome := by
    constructor
    · rintro rfl
      exact c.resolves_resolveSinkMode
    · exact JobConfig.Resolves.eq_resolveSinkMode
  have sameFault (fault : Fault) :
      Sink.ofJob c = .error fault ↔ c.resolveSinkMode = .error fault := by
    rw [← map_eq_error_iff, Sink.name_ofJob, map_eq_error_iff]
  refine ⟨resolves, sameFault, Sink.name_ofJob c, ?_, ?_, ?_⟩
  · intro complaint
    have refused := (resolves _).mp ((sameFault _).mp complaint)
    exact absurd refused.unconnected_of_config.2.2 (by decide)
  · intro fault refused
    exact ((resolves _).mp refused).isConfig
  · intro params made refused
    obtain ⟨on, absent, -⟩ := ((resolves _).mp refused).unconnected_of_config
    have given := made ▸ JobConfig.given_ofParameters params
    exact given.connected on absent

/-- With several faults the first one counts. -/
example : (JobConfig.distributed ⟨"u", "\u2003", "", "c", "a", 0⟩).resolveSinkMode =
    .error (.missingParameter "-storePassword") := rfl

end FlowGauge
