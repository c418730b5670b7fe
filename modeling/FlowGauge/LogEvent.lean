namespace FlowGauge

inductive Level where
  | error
  | warn
  | info
  | debug
  | trace
  deriving Repr, DecidableEq

namespace Level

/-- Higher levels let more events through. -/
def verbosity : Level → Nat
  | error => 1
  | warn => 2
  | info => 3
  | debug => 4
  | trace => 5

def name : Level → String
  | error => "ERROR"
  | warn => "WARN"
  | info => "INFO"
  | debug => "DEBUG"
  | trace => "TRACE"

end Level

/-- Summaries go to a target of their own. -/
inductive Target where
  | observation
  | diagnostic
  deriving Repr, DecidableEq

structure LogEvent where
  level : Level
  target : Target
  message : String
  fields : List (String × String)
  deriving Repr, DecidableEq

end FlowGauge
