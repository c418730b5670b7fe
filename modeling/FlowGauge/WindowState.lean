import FlowGauge.Fault
import FlowGauge.Scalar

namespace FlowGauge

inductive WindowState where
  | number
  | sequence (length : Nat)
  | mapping (entries : Nat)
  | json (value : Json)
  | scalar (value : Scalar)
  | reference (inner : WindowState)
  deriving Inhabited

namespace WindowState

/-- The type of the state is left open in the message. -/
def illegal (what : String) : Except Fault Nat :=
  .error (.invalidWindowState (what ++ " (_) is neither a scalar nor a collection"))

/-- A number is a window aggregated to one element. -/
def length : WindowState → Except Fault Nat
  | number => .ok 1
  | sequence n => .ok n
  | mapping _ => illegal "mapping"
  | json (.integer _) => .ok 1
  | json (.float _) => .ok 1
  | json (.list items) => .ok items.length
  | json (.object _) => illegal "object"
  | json .null => illegal "null"
  | json (.bool _) => illegal "boolean"
  | json (.text _) => illegal "string"
  | scalar (.integer _) => .ok 1
  | scalar (.float _) => .ok 1
  | scalar .null => illegal "null"
  | scalar (.bool _) => illegal "boolean"
  | scalar (.text _) => illegal "string"
  | reference inner => inner.length

end WindowState

end FlowGauge
