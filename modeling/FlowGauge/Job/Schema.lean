import FlowGauge.Document.Read
import FlowGauge.Job.Settings
import FlowGauge.Json.Printer
import FlowGauge.NodeKind

namespace FlowGauge
open Document

namespace RemoteSinkConfig

def fields : List Field :=
  [field "username" (readText "a string"), field "password" (readText "a string"),
    field "database" (readText "a string"), field "collection" (readText "a string"),
    field "address" (readText "a string"), field "port" readPort]

/-- The record with the number of its fields. -/
def extent : String := "struct RemoteSinkConfig with 6 elements"

/-- No field may be left out. -/
def read (d : Dialect) : Read RemoteSinkConfig := fun n => do
  let r ← readRecord "struct RemoteSinkConfig" fields n
  let username ← r.required 0 "username" extent (readText "a string")
  let password ← r.required 1 "password" extent (readText "a string")
  let database ← r.required 2 "database" extent (readText "a string")
  let collection ← r.required 3 "collection" extent (readText "a string")
  let address ← r.required 4 "address" extent (readText "a string")
  let port ← r.required 5 "port" extent readPort
  r.close d 6
  return ⟨username, password, database, collection, address, port⟩

def json (r : RemoteSinkConfig) : Json :=
  .object [("username", .text r.username), ("password", .text r.password),
    ("database", .text r.database), ("collection", .text r.collection),
    ("address", .text r.address), ("port", .integer r.port.toNat)]

end RemoteSinkConfig

def jsonOption {α : Type} (json : α → Json) : Option α → Json
  | none => .null
  | some a => json a

namespace JobConfig

def fields (d : Dialect) : List Field :=
  [field "distributed_logging" readBool,
    field "remote" (readOption (RemoteSinkConfig.read d))]

def read (d : Dialect) : Read JobConfig := fun n => do
  let r ← readRecord "struct JobConfig" (fields d) n
  let distributedLogging ← r.optional 0 "distributed_logging" readBool false
  let remote ← r.optional 1 "remote" (readOption (RemoteSinkConfig.read d)) none
  r.close d 2
  return ⟨distributedLogging, remote⟩

def json (c : JobConfig) : Json :=
  .object [("distributed_logging", .bool c.distributedLogging),
    ("remote", jsonOption RemoteSinkConfig.json c.remote)]

end JobConfig

namespace LoggingConfig

def fields : List Field :=
  [field "filter" (readOption (readText "a string")),
    field "observation_dir" (readOption (readText "path string"))]

def read (d : Dialect) : Read LoggingConfig := fun n => do
  let r ← readRecord "struct LoggingConfig" fields n
  let filter ← r.optional 0 "filter" (readOption (readText "a string")) none
  let dir ← r.optional 1 "observation_dir" (readOption (readText "path string")) none
  r.close d 2
  return ⟨filter, dir⟩

def json (c : LoggingConfig) : Json :=
  .object [("filter", jsonOption .text c.filter),
    ("observation_dir", jsonOption .text c.observationDir)]

end LoggingConfig

namespace MonitorConfig

def fields (d : Dialect) : List Field :=
  [field "job" (JobConfig.read d), field "logging" (LoggingConfig.read d)]

def read (d : Dialect) : Read MonitorConfig := fun n => do
  let r ← readRecord "struct MonitorConfig" (fields d) n
  let job ← r.optional 0 "job" (JobConfig.read d) JobConfig.localOnly
  let logging ← r.optional 1 "logging" (LoggingConfig.read d) LoggingConfig.default
  r.close d 2
  return ⟨job, logging⟩

def json (c : MonitorConfig) : Json :=
  .object [("job", c.job.json), ("logging", c.logging.json)]

end MonitorConfig

namespace NodeKind

def ofName? (name : String) : Option NodeKind :=
  all.find? fun kind => kind.name == name

def read : Read NodeKind := fun n => do
  let name ← readVariant (all.map NodeKind.name) n
  match ofName? name with
  | some kind => return kind
  | none => throw .malformed

def json (kind : NodeKind) : Json :=
  .text kind.name

end NodeKind

namespace SinkMode

def all : List SinkMode :=
  [.localLog, .remoteStore]

def ofName? (name : String) : Option SinkMode :=
  all.find? fun mode => mode.name == name

def read : Read SinkMode := fun n => do
  let name ← readVariant (all.map SinkMode.name) n
  match ofName? name with
  | some mode => return mode
  | none => throw .malformed

def json (mode : SinkMode) : Json :=
  .text mode.name

end SinkMode

end FlowGauge
