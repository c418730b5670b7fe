import FlowGauge.Fault
import FlowGauge.Text.Blank

/-! Where the summaries of a job go.

A job either keeps its summaries in the local log or sends them to a document store, whose
connection then has to be complete. -/
namespace FlowGauge

/-- The connection to a document store. -/
structure RemoteSinkConfig where
  username : String
  password : String
  database : String
  collection : String
  address : String
  port : UInt16
  deriving Repr, DecidableEq

structure JobConfig where
  distributedLogging : Bool
  remote : Option RemoteSinkConfig
  deriving Repr, DecidableEq

inductive SinkMode where
  | localLog
  | remoteStore
  deriving Repr, DecidableEq

def SinkMode.display : SinkMode → String
  | .localLog => "local"
  | .remoteStore => "remote"

/-- The identifier, which documents use. -/
def SinkMode.name : SinkMode → String
  | .localLog => "Local"
  | .remoteStore => "Remote"

/-! The names that parameters have in a job. -/

def flagParameter : String := "-distributedLogging"
def usernameParameter : String := "-storeUsername"
def passwordParameter : String := "-storePassword"
def databaseParameter : String := "-storeDatabase"
def addressParameter : String := "-storeAddress"
def portParameter : String := "-storePort"
def collectionParameter : String := "-storeCollectionObservations"

namespace RemoteSinkConfig

/-- The texts that may not be blank, in the order in which they are checked. -/
def texts (r : RemoteSinkConfig) : List (String × String) :=
  [(usernameParameter, r.username), (passwordParameter, r.password),
    (databaseParameter, r.database), (collectionParameter, r.collection),
    (addressParameter, r.address)]

def firstBlank? (r : RemoteSinkConfig) : Option String :=
  (r.texts.find? fun t => Text.allBlank t.2).map (·.1)

def validate (r : RemoteSinkConfig) : Except Fault Unit :=
  match r.firstBlank? with
  | some key => .error (.missingParameter key)
  | none => if r.port = 0 then .error (.invalidParameter portParameter "0") else .ok ()

/-- Where documents are inserted. The parts stand in the text as they are. -/
def endpoint (r : RemoteSinkConfig) : String :=
  "http://" ++ r.address ++ ":" ++ toString r.port.toNat ++ "/" ++ r.database ++ "/" ++
    r.collection

/-- The password is withheld. -/
def describe (r : RemoteSinkConfig) : String :=
  "RemoteSinkConfig \x7b username: " ++ Text.quoted r.username ++
    ", password: " ++ Text.quoted "<redacted>" ++
    ", database: " ++ Text.quoted r.database ++
    ", collection: " ++ Text.quoted r.collection ++
    ", address: " ++ Text.quoted r.address ++
    ", port: " ++ toString r.port.toNat ++ " \x7d"

end RemoteSinkConfig

namespace JobConfig

/-- Summaries stay in the local log. -/
def localOnly : JobConfig :=
  ⟨false, none⟩

def distributed (remote : RemoteSinkConfig) : JobConfig :=
  ⟨true, some remote⟩

def resolveSinkMode (c : JobConfig) : Except Fault SinkMode :=
  if c.distributedLogging then
    match c.remote with
    | none =>
      .error (.config "distributed logging requested without remote sink parameters")
    | some remote => do
      remote.validate
      return .remoteStore
  else .ok .localLog

def describe (c : JobConfig) : String :=
  "JobConfig \x7b distributed_logging: " ++ (if c.distributedLogging then "true" else "false") ++
    ", remote: " ++
    (match c.remote with
      | none => "None"
      | some r => "Some(" ++ r.describe ++ ")") ++ " \x7d"

end JobConfig

end FlowGauge
