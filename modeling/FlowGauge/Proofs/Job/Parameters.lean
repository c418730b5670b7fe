import FlowGauge.Job.Parameters
import FlowGauge.Proofs.Document.Record
import FlowGauge.Proofs.Text.Blank
import FlowGauge.Proofs.Text.Natural

/-! Which parameters make which job.

`Given` lists what may become of parameters, by what stands under the seven names and nothing else.
Several parameters of a store may be at fault at once; the complaint is about the first of `flaws`
that they have. -/
namespace FlowGauge
open Document (bind_eq_ok)

/-! ### The first of several -/

/-- What `finds` makes of the first element of which it makes anything. -/
inductive First {α β : Type} (finds : α → β → Prop) : List α → β → Prop
  | here {a : α} {as : List α} {b : β} (found : finds a b) : First finds (a :: as) b
  | later {a : α} {as : List α} {b : β} (nothing : ∀ b, ¬finds a b) (rest : First finds as b) :
      First finds (a :: as) b

theorem first_cons_iff {α β : Type} {finds : α → β → Prop} {a : α} {as : List α} {b : β} :
    First finds (a :: as) b ↔ finds a b ∨ (∀ b, ¬finds a b) ∧ First finds as b := by
  constructor
  · intro first
    cases first with
    | here found => exact .inl found
    | later nothing rest => exact .inr ⟨nothing, rest⟩
  · rintro (found | ⟨nothing, rest⟩)
    · exact .here found
    · exact .later nothing rest

/-- A step whose failures are what is found in the first element, before steps whose failures are
found in the others. -/
theorem bind_eq_error_iff_first {α β γ ε : Type} {finds : γ → ε → Prop} {c : γ} {cs : List γ}
    {x : Except ε α} {next : α → Except ε β} (here : ∀ e, x = .error e ↔ finds c e)
    (later : ∀ a, x = .ok a → ∀ e, next a = .error e ↔ First finds cs e) (e : ε) :
    x >>= next = .error e ↔ First finds (c :: cs) e := by
  rw [first_cons_iff, ← here]
  cases x with
  | error fault =>
    have found : finds c fault := (here fault).mp rfl
    constructor
    · rintro ⟨⟩
      exact .inl rfl
    · rintro (⟨⟨⟩⟩ | ⟨nothing, -⟩)
      · rfl
      · exact absurd found (nothing fault)
  | ok a =>
    have nothing (e : ε) : ¬finds c e := fun found => nomatch (here e).mpr found
    constructor
    · intro failed
      exact .inr ⟨nothing, (later a rfl e).mp failed⟩
    · rintro (other | ⟨-, rest⟩)
      · cases other
      · exact (later a rfl e).mpr rest

namespace JobConfig

variable {params : Parameters}

theorem flag?_eq_some_iff {text : String} {b : Bool} :
    flag? text = some b ↔ Text.Clears text.toList (toString b).toList := by
  rw [← Text.trimmed_eq_iff, flag?]
  constructor
  · intro read
    split at read
    · next yes =>
      cases read
      exact yes
    · split at read
      · next no =>
        cases read
        exact no
      · cases read
  · intro word
    rw [word]
    cases b <;> rfl

/-- A number of sixteen bits between blanks. -/
def PortText (text : String) (n : Nat) : Prop :=
  n ≤ 65535 ∧ ∃ numeral, Text.Clears text.toList numeral ∧ Text.Numeral numeral n

theorem naturalUpTo?_trimmed_iff {text : String} {n : Nat} :
    Text.naturalUpTo? 65535 (Text.trimmed text.toList) = some n ↔ PortText text n := by
  rw [Text.naturalUpTo?_eq_some_iff, PortText]
  simp only [← Text.trimmed_eq_iff, exists_eq_left']

theorem port?_eq_some_iff {text : String} {port : UInt16} :
    port? text = some port ↔ PortText text port.toNat := by
  rw [port?, Option.map_eq_some_iff]
  constructor
  · rintro ⟨n, numeral, rfl⟩
    have reads := naturalUpTo?_trimmed_iff.mp numeral
    have small : n < UInt16.size := Nat.lt_succ_of_le reads.1
    rwa [Nat.toUInt16, UInt16.toNat_ofNat_of_lt' small]
  · intro reads
    exact ⟨_, naturalUpTo?_trimmed_iff.mpr reads, UInt16.ofNat_toNat⟩

theorem port?_eq_none_iff {text : String} : port? text = none ↔ ∀ n, ¬PortText text n := by
  rw [port?, Option.map_eq_none_iff, Option.eq_none_iff_forall_ne_some]
  exact forall_congr' fun n => not_congr naturalUpTo?_trimmed_iff

theorem required_eq_ok_iff {key text : String} :
    required params key = .ok text ↔ params.lookup key = some text := by
  rw [required]
  cases params.lookup key <;> simp

theorem understood_eq_ok_iff {α : Type} {key text : String} {meaning? : String → Option α} {a : α} :
    understood key text meaning? = .ok a ↔ meaning? text = some a := by
  rw [understood]
  cases meaning? text <;> simp

theorem understood_eq_error_iff {α : Type} {key text : String} {meaning? : String → Option α}
    {fault : Fault} : understood key text meaning? = .error fault ↔
      meaning? text = none ∧ fault = .invalidParameter key text := by
  rw [understood]
  cases meaning? text <;> simp [eq_comm]

/-- What may be wrong with the parameters of a store. -/
inductive Flaw where
  | missing (key : String)
  | illegiblePort

/-- The flaws in the order in which they are complained about. -/
def flaws : List Flaw :=
  [.missing portParameter, .illegiblePort, .missing usernameParameter, .missing passwordParameter,
    .missing databaseParameter, .missing collectionParameter, .missing addressParameter]

/-- The parameters have a flaw, and the complaint about it. -/
inductive Flaw.Found (params : Parameters) : Flaw → Fault → Prop
  | missing {key : String} (absent : params.lookup key = none) :
      Found params (.missing key) (.missingParameter key)
  | illegiblePort {text : String} (given : params.lookup portParameter = some text)
      (illegible : ∀ n, ¬PortText text n) :
      Found params .illegiblePort (.invalidParameter portParameter text)

/-- The parameters have everything about a store: the texts as they are, and its port. -/
structure Complete (params : Parameters) (r : RemoteSinkConfig) : Prop where
  port : ∃ text, params.lookup portParameter = some text ∧ PortText text r.port.toNat
  username : params.lookup usernameParameter = some r.username
  password : params.lookup passwordParameter = some r.password
  database : params.lookup databaseParameter = some r.database
  collection : params.lookup collectionParameter = some r.collection
  address : params.lookup addressParameter = some r.address

theorem required_eq_error_iff {key : String} {fault : Fault} :
    required params key = .error fault ↔ (Flaw.missing key).Found params fault := by
  rw [required]
  constructor
  · intro failed
    cases given : params.lookup key with
    | none =>
      rw [given] at failed
      cases failed
      exact .missing given
    | some text =>
      rw [given] at failed
      cases failed
  · rintro ⟨absent⟩
    rw [absent]

theorem understood_port_eq_error_iff {text : String} {fault : Fault}
    (given : params.lookup portParameter = some text) :
    understood portParameter text port? = .error fault ↔ Flaw.illegiblePort.Found params fault := by
  rw [understood_eq_error_iff, port?_eq_none_iff]
  constructor
  · rintro ⟨illegible, rfl⟩
    exact .illegiblePort given illegible
  · intro found
    cases found with
    | illegiblePort other illegible =>
      obtain rfl : _ = text := Option.some.inj (other.symm.trans given)
      exact ⟨illegible, rfl⟩

theorem connection_eq_ok_iff {r : RemoteSinkConfig} :
    connection params = .ok r ↔ Complete params r := by
  simp only [connection, bind_eq_ok, required_eq_ok_iff, understood_eq_ok_iff, port?_eq_some_iff]
  constructor
  · rintro ⟨text, given, port, reads, _, username, _, password, _, database, _, collection, _,
      address, ⟨⟩⟩
    exact ⟨⟨text, given, reads⟩, username, password, database, collection, address⟩
  · rintro ⟨⟨text, given, reads⟩, username, password, database, collection, address⟩
    exact ⟨text, given, _, reads, _, username, _, password, _, database, _, collection, _, address,
      rfl⟩

theorem connection_eq_error_iff (fault : Fault) :
    connection params = .error fault ↔ First (Flaw.Found params) flaws fault := by
  have missing (key : String) (fault : Fault) :
      required params key = .error fault ↔ (Flaw.missing key).Found params fault :=
    required_eq_error_iff
  apply bind_eq_error_iff_first (missing _)
  intro portText given
  have given := required_eq_ok_iff.mp given
  apply bind_eq_error_iff_first fun _ => understood_port_eq_error_iff given
  intro port _
  apply bind_eq_error_iff_first (missing _)
  intro username _
  apply bind_eq_error_iff_first (missing _)
  intro password _
  apply bind_eq_error_iff_first (missing _)
  intro database _
  apply bind_eq_error_iff_first (missing _)
  intro collection _
  apply bind_eq_error_iff_first (missing _)
  intro address _ fault
  exact ⟨nofun, nofun⟩

/-- What becomes of parameters. -/
inductive Given (params : Parameters) : Except Fault JobConfig → Prop
  | unflagged (absent : params.lookup flagParameter = none) : Given params (.ok localOnly)
  | kept {text : String} (flag : params.lookup flagParameter = some text)
      (no : Text.Clears text.toList "false".toList) : Given params (.ok localOnly)
  | unclear {text : String} (flag : params.lookup flagParameter = some text)
      (notYes : ¬Text.Clears text.toList "true".toList)
      (notNo : ¬Text.Clears text.toList "false".toList) :
      Given params (.error (.invalidParameter flagParameter text))
  | sent {text : String} {r : RemoteSinkConfig} (flag : params.lookup flagParameter = some text)
      (yes : Text.Clears text.toList "true".toList) (complete : Complete params r) :
      Given params (.ok (distributed r))
  | flawed {text : String} {fault : Fault} (flag : params.lookup flagParameter = some text)
      (yes : Text.Clears text.toList "true".toList)
      (first : First (Flaw.Found params) flaws fault) : Given params (.error fault)

theorem flagged_of_lookup {text : String} (flag : params.lookup flagParameter = some text) :
    flagged params = understood flagParameter text flag? := by
  rw [flagged, flag]

theorem flagged_of_word {text : String} {b : Bool} (flag : params.lookup flagParameter = some text)
    (word : Text.Clears text.toList (toString b).toList) : flagged params = .ok b :=
  (flagged_of_lookup flag).trans (understood_eq_ok_iff.mpr (flag?_eq_some_iff.mpr word))

theorem ofParameters_of_kept (kept : flagged params = .ok false) :
    ofParameters params = .ok localOnly := by
  rw [ofParameters, kept]
  rfl

theorem ofParameters_of_sent (sent : flagged params = .ok true) :
    ofParameters params = distributed <$> connection params := by
  rw [ofParameters, sent]
  cases connection params <;> rfl

theorem ofParameters_of_unclear {fault : Fault} (unclear : flagged params = .error fault) :
    ofParameters params = .error fault := by
  rw [ofParameters, unclear]
  rfl

theorem given_ofParameters (params : Parameters) : Given params (ofParameters params) := by
  cases flag : params.lookup flagParameter with
  | none =>
    have kept : flagged params = .ok false := by rw [flagged, flag]
    rw [ofParameters_of_kept kept]
    exact .unflagged flag
  | some text =>
    have asked := flagged_of_lookup flag
    cases read : flag? text with
    | none =>
      rw [ofParameters_of_unclear (asked.trans (understood_eq_error_iff.mpr ⟨read, rfl⟩))]
      have neither (b : Bool) : ¬Text.Clears text.toList (toString b).toList := by
        rw [← flag?_eq_some_iff, read]
        exact nofun
      exact .unclear flag (neither true) (neither false)
    | some b =>
      have word := flag?_eq_some_iff.mp read
      have said := flagged_of_word flag word
      cases b with
      | false =>
        rw [ofParameters_of_kept said]
        exact .kept flag word
      | true =>
        rw [ofParameters_of_sent said]
        cases outcome : connection params with
        | ok r => exact .sent flag word (connection_eq_ok_iff.mp outcome)
        | error fault => exact .flawed flag word ((connection_eq_error_iff fault).mp outcome)

theorem Given.eq_ofParameters {outcome : Except Fault JobConfig} (given : Given params outcome) :
    ofParameters params = outcome := by
  cases given with
  | unflagged absent =>
    apply ofParameters_of_kept
    rw [flagged, absent]
  | kept flag no => exact ofParameters_of_kept (flagged_of_word flag no)
  | @unclear text flag notYes notNo =>
    apply ofParameters_of_unclear
    rw [flagged_of_lookup flag, understood_eq_error_iff]
    refine ⟨?_, rfl⟩
    cases read : flag? text with
    | none => rfl
    | some b =>
      have word := flag?_eq_some_iff.mp read
      cases b with
      | false => exact absurd word notNo
      | true => exact absurd word notYes
  | sent flag yes complete =>
    rw [ofParameters_of_sent (flagged_of_word flag yes), connection_eq_ok_iff.mpr complete]
    rfl
  | flawed flag yes first =>
    rw [ofParameters_of_sent (flagged_of_word flag yes), (connection_eq_error_iff _).mpr first]
    rfl

/-- The names under which something is looked up. -/
def askedNames : List String :=
  [flagParameter, portParameter, usernameParameter, passwordParameter, databaseParameter,
    collectionParameter, addressParameter]

/-- **What a job's parameters mean.** A job without the flag, or with the word `false` for it,
keeps its summaries, whatever else is given; any other word than `true` is complained about as it
was given. With `true` the job is the one that the six parameters of the store describe, if all of
them are there and the port is a number of sixteen bits; otherwise the complaint is about their
first flaw. Nothing under any other name matters. -/
theorem ofParameters_eq_iff_given (params : Parameters) :
    (∀ outcome, ofParameters params = outcome ↔ Given params outcome) ∧
    ∀ other : Parameters, (∀ key ∈ askedNames, other.lookup key = params.lookup key) →
      ofParameters other = ofParameters params := by
  constructor
  · intro outcome
    constructor
    · rintro rfl
      exact given_ofParameters params
    · exact Given.eq_ofParameters
  · intro other same
    simp only [askedNames, List.forall_mem_cons] at same
    obtain ⟨flag, port, username, password, database, collection, address, -⟩ := same
    simp only [ofParameters, flagged, connection, required, flag, port, username, password,
      database, collection, address]

/-- All texts but flag and port are kept as they are, blanks included. -/
theorem blanks_around_port :
    let store := [("-storePort", "\u2003+0080\n"), ("-storeUsername", ""), ("-storePassword", " p"),
      ("-distributedLogging", "\ttrue "), ("-storeDatabase", "d"), ("-storeAddress", "::1"),
      ("-storeCollectionObservations", "c")]
    ofParameters store = .ok (distributed ⟨"", " p", "d", "c", "::1", 80⟩) ∧
    ofParameters (("-storePort", "65536") :: store) =
      .error (.invalidParameter "-storePort" "65536") := by
  intro store
  have yes : Text.Clears "\ttrue ".toList "true".toList := Text.trimmed_eq_iff.mp (by decide)
  constructor
  · refine ((ofParameters_eq_iff_given store).1 _).mpr (.sent rfl yes ?_)
    exact ⟨⟨_, rfl, port?_eq_some_iff.mp (by decide)⟩, rfl, rfl, rfl, rfl, rfl⟩
  · refine ((ofParameters_eq_iff_given _).1 _).mpr (.flawed rfl yes (.later ?_ (.here ?_)))
    · rintro _ ⟨absent⟩
      exact absurd absent (by decide)
    · exact .illegiblePort rfl (port?_eq_none_iff.mp (by decide))

end JobConfig

end FlowGauge
