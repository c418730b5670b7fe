import FlowGauge.Job.Config
import FlowGauge.Text.Natural

namespace FlowGauge

/-- Each name is looked up; other names have no influence. -/
abbrev Parameters := List (String × String)

namespace JobConfig

def flag? (text : String) : Option Bool :=
  let t := Text.trimmed text.toList
  if t = "true".toList then some true
  else if t = "false".toList then some false
  else none

def port? (text : String) : Option UInt16 :=
  (Text.naturalUpTo? 65535 (Text.trimmed text.toList)).map Nat.toUInt16

def required (params : Parameters) (key : String) : Except Fault String :=
  match params.lookup key with
  | some text => .ok text
  | none => .error (.missingParameter key)

/-- What a text stands for; the complaint quotes it as it was given. -/
def understood {α : Type} (key text : String) (meaning? : String → Option α) : Except Fault α :=
  match meaning? text with
  | some a => .ok a
  | none => .error (.invalidParameter key text)

/-- Without the flag summaries stay local. -/
def flagged (params : Parameters) : Except Fault Bool :=
  match params.lookup flagParameter with
  | none => .ok false
  | some text => understood flagParameter text flag?

/-- Everything about the store has to be given. Only flag and port are cleared of blanks, and only
to be understood. -/
def connection (params : Parameters) : Except Fault RemoteSinkConfig := do
  let portText ← required params portParameter
  let port ← understood portParameter portText port?
  let username ← required params usernameParameter
  let password ← required params passwordParameter
  let database ← required params databaseParameter
  let collection ← required params collectionParameter
  let address ← required params addressParameter
  return ⟨username, password, database, collection, address, port⟩

/-- The store is only looked at if the flag is set. -/
def ofParameters (params : Parameters) : Except Fault JobConfig := do
  if ← flagged params then return distributed (← connection params)
  else return localOnly

end JobConfig

end FlowGauge
