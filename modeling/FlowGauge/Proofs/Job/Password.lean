import FlowGauge.Proofs.Job.Parameters
import FlowGauge.Sink

/-! The password of a store is told to the store only.

Two passwords for one connection make the same texts, the same outcomes and the same complaints, as
long as one of them is blank only if the other is. Whatever else the connection holds is the same in
both, and may well hold one of the passwords itself. -/
namespace FlowGauge

def RemoteSinkConfig.withheld (r : RemoteSinkConfig) : RemoteSinkConfig :=
  { r with password := "" }

def JobConfig.withheld (c : JobConfig) : JobConfig :=
  { c with remote := c.remote.map RemoteSinkConfig.withheld }

def Sink.withheld : Sink → Sink
  | remoteStore config timeout connected => remoteStore config.withheld timeout connected
  | sink => sink

theorem RemoteSinkConfig.describe_withheld (r : RemoteSinkConfig) :
    r.withheld.describe = r.describe :=
  rfl

theorem RemoteSinkConfig.endpoint_withheld (r : RemoteSinkConfig) :
    r.withheld.endpoint = r.endpoint :=
  rfl

theorem JobConfig.describe_withheld (c : JobConfig) : c.withheld.describe = c.describe := by
  obtain ⟨flag, remote⟩ := c
  cases remote <;> rfl

theorem Sink.describe_withheld (sink : Sink) : sink.withheld.describe = sink.describe := by
  cases sink <;> rfl

/-- Of each text it only matters under which name it stands and whether it is blank. -/
theorem RemoteSinkConfig.firstBlank?_eq (r : RemoteSinkConfig) :
    r.firstBlank? =
      ((r.texts.map fun t => (t.1, Text.allBlank t.2)).find? fun t => t.2).map Prod.fst := by
  rw [firstBlank?, List.find?_map, Option.map_map]
  rfl

/-- Two passwords for one connection, both of them blank or neither. -/
theorem RemoteSinkConfig.validate_password (r : RemoteSinkConfig) {p q : String}
    (blank : Text.allBlank p = Text.allBlank q) :
    ({ r with password := p } : RemoteSinkConfig).validate =
      ({ r with password := q } : RemoteSinkConfig).validate := by
  have first : ({ r with password := p } : RemoteSinkConfig).firstBlank? =
      ({ r with password := q } : RemoteSinkConfig).firstBlank? := by
    rw [firstBlank?_eq, firstBlank?_eq]
    simp only [texts, List.map_cons, List.map_nil, blank]
  rw [validate, validate, first]

theorem JobConfig.resolveSinkMode_password (flag : Bool) (r : RemoteSinkConfig) {p q : String}
    (blank : Text.allBlank p = Text.allBlank q) :
    (⟨flag, some { r with password := p }⟩ : JobConfig).resolveSinkMode =
      (⟨flag, some { r with password := q }⟩ : JobConfig).resolveSinkMode := by
  cases flag with
  | false => rfl
  | true =>
    simp only [resolveSinkMode, r.validate_password blank]

theorem Sink.ofJob_password (flag : Bool) (r : RemoteSinkConfig) {p q : String}
    (blank : Text.allBlank p = Text.allBlank q) :
    (ofJob ⟨flag, some { r with password := p }⟩).map withheld =
      (ofJob ⟨flag, some { r with password := q }⟩).map withheld := by
  rw [ofJob, ofJob, JobConfig.resolveSinkMode_password flag r blank]
  cases (⟨flag, some { r with password := q }⟩ : JobConfig).resolveSinkMode with
  | error fault => rfl
  | ok mode => cases mode <;> rfl

/-- Two steps that come to the same under `g`, before steps that only look at that. -/
theorem map_bind_alike {ε α β γ δ : Type} {f : β → γ} (g : α → δ) {x y : Except ε α}
    {k l : α → Except ε β} (alike : x.map g = y.map g)
    (goesOn : ∀ a b, g a = g b → (k a).map f = (l b).map f) :
    (x >>= k).map f = (y >>= l).map f := by
  cases x with
  | error e =>
    cases y with
    | error e' =>
      cases alike
      rfl
    | ok b => cases alike
  | ok a =>
    cases y with
    | error e => cases alike
    | ok b => exact goesOn a b (Except.ok.inj alike)

namespace JobConfig

/-- Two maps of parameters that differ in the password at most. -/
structure SameButPassword (a b : Parameters) : Prop where
  others : ∀ key ≠ passwordParameter, a.lookup key = b.lookup key
  given : (a.lookup passwordParameter).isSome = (b.lookup passwordParameter).isSome

variable {a b : Parameters}

theorem required_congr {key : String} (same : a.lookup key = b.lookup key) :
    required a key = required b key := by
  rw [required, required, same]

/-- Without its text a parameter is there or missing. -/
theorem required_given (params : Parameters) (key : String) :
    (required params key).map (fun _ => ()) =
      if (params.lookup key).isSome then .ok () else .error (.missingParameter key) := by
  rw [required]
  cases params.lookup key <;> rfl

theorem SameButPassword.flagged_eq (h : SameButPassword a b) : flagged a = flagged b := by
  rw [flagged, flagged, h.others flagParameter (by decide)]

theorem SameButPassword.connection_withheld (h : SameButPassword a b) :
    (connection a).map RemoteSinkConfig.withheld =
      (connection b).map RemoteSinkConfig.withheld := by
  have asked (key : String) (other : key ≠ passwordParameter) : required a key = required b key :=
    required_congr (h.others key other)
  simp only [connection, asked portParameter (by decide), asked usernameParameter (by decide),
    asked databaseParameter (by decide), asked collectionParameter (by decide),
    asked addressParameter (by decide)]
  apply map_bind_alike id rfl
  rintro portText _ rfl
  apply map_bind_alike id rfl
  rintro port _ rfl
  apply map_bind_alike id rfl
  rintro username _ rfl
  apply map_bind_alike fun _ => ()
  · rw [required_given, required_given, h.given]
  intro password other _
  apply map_bind_alike id rfl
  rintro database _ rfl
  apply map_bind_alike id rfl
  rintro collection _ rfl
  apply map_bind_alike id rfl
  rintro address _ rfl
  rfl

theorem SameButPassword.ofParameters_withheld (h : SameButPassword a b) :
    (ofParameters a).map withheld = (ofParameters b).map withheld := by
  rw [ofParameters, ofParameters, h.flagged_eq]
  apply map_bind_alike id rfl
  rintro flag _ rfl
  cases flag with
  | false => rfl
  | true =>
    apply map_bind_alike RemoteSinkConfig.withheld h.connection_withheld
    intro r s same
    change Except.ok (distributed r.withheld) = Except.ok (distributed s.withheld)
    rw [same]

end JobConfig

/-- **The password is not told.** Jobs whose connections differ in the password only, both
passwords being blank or neither, are described by the same texts, as are their connections and the
sinks made of them; they have the same endpoint, pass or fail the same checks with the same
complaint, resolve to the same mode and open the same sink but for the password. Parameters that
differ in the text of the password only are refused with the same complaint, or make jobs that are
the same but for the password. -/
theorem password_not_told :
    (∀ (flag : Bool) (r : RemoteSinkConfig) (p q : String), Text.allBlank p = Text.allBlank q →
      let one : RemoteSinkConfig := { r with password := p }
      let two : RemoteSinkConfig := { r with password := q }
      let jobOne : JobConfig := ⟨flag, some one⟩
      let jobTwo : JobConfig := ⟨flag, some two⟩
      jobOne.describe = jobTwo.describe ∧ one.describe = two.describe ∧
      (∀ timeout connected, (Sink.remoteStore one timeout connected).describe =
        (Sink.remoteStore two timeout connected).describe) ∧
      one.endpoint = two.endpoint ∧ one.validate = two.validate ∧
      jobOne.resolveSinkMode = jobTwo.resolveSinkMode ∧
      (Sink.ofJob jobOne).map Sink.withheld = (Sink.ofJob jobTwo).map Sink.withheld) ∧
    ∀ a b : Parameters, JobConfig.SameButPassword a b →
      (JobConfig.ofParameters a).map JobConfig.withheld =
        (JobConfig.ofParameters b).map JobConfig.withheld := by
  constructor
  · intro flag r p q blank one two jobOne jobTwo
    have description : one.describe = two.describe := one.describe_withheld.symm
    have endpoint : one.endpoint = two.endpoint := one.endpoint_withheld.symm
    refine ⟨?_, description, ?_, endpoint, r.validate_password blank,
      JobConfig.resolveSinkMode_password flag r blank, Sink.ofJob_password flag r blank⟩
    · exact jobOne.describe_withheld.symm.trans jobTwo.describe_withheld
    · intro timeout connected
      exact (Sink.remoteStore one timeout connected).describe_withheld.symm
  · intro a b same
    exact same.ofParameters_withheld

/-- The user and the collection are called like one password, and the address like the other. -/
theorem password_not_told_of_namesake :
    let namesake : RemoteSinkConfig := ⟨"secret", "", "d", "secret", "hidden", 0⟩
    let store (password : String) : Parameters := [("-distributedLogging", "true"),
      ("-storePassword", password), ("-storePort", "secret"), ("-storeUsername", "hidden")]
    ({ namesake with password := "secret" } : RemoteSinkConfig).describe =
      ({ namesake with password := "hidden" } : RemoteSinkConfig).describe ∧
    ({ namesake with password := "secret" } : RemoteSinkConfig).validate =
      ({ namesake with password := "hidden" } : RemoteSinkConfig).validate ∧
    (JobConfig.ofParameters (store "secret")).map JobConfig.withheld =
      (JobConfig.ofParameters (store "hidden")).map JobConfig.withheld := by
  intro namesake store
  obtain ⟨-, texts, -, -, checks, -⟩ :=
    password_not_told.1 true namesake "secret" "hidden" (by decide)
  refine ⟨texts, checks, password_not_told.2 _ _ ⟨?_, rfl⟩⟩
  intro key other
  have unequal : (key == "-storePassword") = false := beq_eq_false_iff_ne.mpr other
  simp only [store, List.lookup_cons, unequal]

end FlowGauge
