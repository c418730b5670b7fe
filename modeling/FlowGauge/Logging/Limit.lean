import FlowGauge.LogEvent
import FlowGauge.Text.Natural

namespace FlowGauge.Logging

/-- The last level that is let through; `none` lets nothing through. -/
abbrev Limit := Option Level

namespace Limit

def name : Limit → String
  | none => "off"
  | some .error => "error"
  | some .warn => "warn"
  | some .info => "info"
  | some .debug => "debug"
  | some .trace => "trace"

/-- From the strictest on. -/
def all : List Limit :=
  [none, some .error, some .warn, some .info, some .debug, some .trace]

def verbosity : Limit → Nat
  | none => 0
  | some level => level.verbosity

def admits (limit : Limit) (level : Level) : Bool :=
  level.verbosity ≤ verbosity limit

def looser (a b : Limit) : Limit :=
  if verbosity a < verbosity b then b else a

/-- By name in any case, or by number. -/
def ofText? (s : String) : Option Limit :=
  match all.find? fun l => name l == s.map Char.toLower with
  | some l => some l
  | none => (Text.natural? s.toList).bind (all[·]?)

end Limit

end FlowGauge.Logging
