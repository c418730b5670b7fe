import FlowGauge.Text.Located
import FlowGauge.Text.Quoted

namespace FlowGauge

inductive Fault where
  | config (text : String)
  | missingParameter (key : String)
  | invalidParameter (key value : String)
  | invalidWindowState (text : String)
  | sink (text : String)
  | http (text : String)
  | serialization (text : String)
  /-- A settings file that cannot be read; a fault in its text has no message of its own. -/
  | toml (message : Option String)
  | poisoned
  | withContext (context : String) (source : Fault)
  deriving Repr, DecidableEq, Inhabited

namespace Fault

/-- The message of the settings reader ends its line. -/
def tomlLine (message : Option String) : String :=
  message.getD "" ++ "\n"

/-- A text with the place it ends with written anew. -/
def placed (text : String) : String :=
  (Text.Located.ofText text).text

def text : Fault → String
  | config text => "Configuration error: " ++ text
  | missingParameter key => "Missing job parameter: " ++ key
  | invalidParameter key value => "Invalid job parameter " ++ key ++ ": " ++ Text.quoted value
  | invalidWindowState text => "Illegal window state: " ++ text
  | sink text => "Sink error: " ++ text
  | http text => "HTTP error: " ++ text
  | serialization text => "Serialization error: " ++ placed text
  | toml message => "TOML parse error: " ++ tomlLine message
  | poisoned => "Sampler lock poisoned"
  | withContext context source => context ++ ": " ++ source.text

/-- Whether the configuration is to blame, below any context. -/
def isConfig : Fault → Bool
  | config _ | missingParameter _ | invalidParameter _ _ | toml _ => true
  | withContext _ source => source.isConfig
  | _ => false

/-- The texts of what lies behind a fault, from the outside in. -/
def sources : Fault → List String
  | withContext _ source => source.text :: source.sources
  | http text => [text]
  | serialization text => [placed text]
  | toml message => [tomlLine message]
  | _ => []

end Fault

end FlowGauge
