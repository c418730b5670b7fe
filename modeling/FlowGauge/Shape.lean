namespace FlowGauge

/-- The form of a value, as far as it decides whether the value has a fixed number of fields. -/
inductive Shape where
  /-- Fields side by side; with none of them it is the unit. -/
  | tuple (fields : UInt64)
  | array (length : UInt64)
  | plain
  | optional
  | growable
  | slice
  | scalar
  | json
  | boxed (inner : Shape)
  | reference (inner : Shape)
  deriving Repr, DecidableEq, Inhabited

namespace Shape

/-- The number of fields, if the form fixes it. -/
def width? : Shape → Option UInt64
  | tuple n => some n
  | array n => some n
  | boxed inner => inner.width?
  | reference inner => inner.width?
  | _ => none

/-- The width as a summary records it, with -1 for one that is not fixed. -/
def recorded (s : Shape) : Int64 :=
  match s.width? with
  | some w => w.toInt64
  | none => -1

end Shape

/-- Values that know their form. -/
class Shaped (α : Type) where
  shape : α → Shape

end FlowGauge
