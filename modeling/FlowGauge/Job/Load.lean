import FlowGauge.Job.Schema
import FlowGauge.Logging.Directory
import FlowGauge.Toml.Reader

namespace FlowGauge
open Document

/-- Floats are told in full and have a point; a list for a record may go on. -/
def Toml.dialect : Dialect where
  floatText x :=
    let text := Decimal.Notation.message.write x
    if x.isFinite && !text.toList.contains '.' then text ++ ".0" else text
  surplus := true

/-- What stands under the name of a file. -/
inductive FileContent where
  | bytes (bytes : ByteArray)
  | unreadable (fault : Logging.DiskFault)

namespace MonitorConfig

/-- A message of its own has only a fault of the values, not one of the text. -/
def ofToml (text : String) : Except Fault MonitorConfig :=
  match Toml.read? text with
  | none => .error (.toml none)
  | some node =>
    match MonitorConfig.read Toml.dialect node with
    | .ok c => .ok c
    | .error e => .error (.toml (e.message? Toml.dialect.floatText))

def readFault (path reason : String) : Fault :=
  .config ("Failed to read config file " ++ Text.quoted path ++ ": " ++ reason)

def ofFile (path : String) (content : FileContent) : Except Fault MonitorConfig :=
  match content with
  | .unreadable fault => .error (readFault path fault.text)
  | .bytes bytes =>
    match String.fromUTF8? bytes with
    | none => .error (readFault path "stream did not contain valid UTF-8")
    | some text => ofToml text

end MonitorConfig

end FlowGauge
