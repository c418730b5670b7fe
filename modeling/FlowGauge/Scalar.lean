import FlowGauge.Decimal.Notation
import FlowGauge.Document.Read
import FlowGauge.Json.Value

namespace FlowGauge

inductive Scalar where
  | null
  | bool (value : Bool)
  | integer (value : Int64)
  | float (value : Float)
  | text (value : String)
  deriving BEq, Inhabited

namespace Scalar

def isNull : Scalar → Bool
  | null => true
  | _ => false

def display : Scalar → String
  | null => "null"
  | bool b => if b then "true" else "false"
  | integer n => toString n.toInt
  | float x => Decimal.Notation.message.write x
  | text s => s

/-- A float that is not finite has no place in a document. -/
def json : Scalar → Json
  | null => .null
  | bool b => .bool b
  | integer n => .integer n.toInt
  | float x => if x.isFinite then .float x else .null
  | text s => .text s

/-- A value that may be absent. -/
def ofOption {α : Type} (of : α → Scalar) : Option α → Scalar
  | none => null
  | some a => of a

/-- Whole numbers of 64 bits with a sign are exact, larger ones are floats. -/
def ofInteger (n : Int) : Scalar :=
  if Int64.minValue.toInt ≤ n ∧ n ≤ Int64.maxValue.toInt then integer (Int64.ofInt n)
  else float (if n < 0 then -Float.ofNat n.natAbs else Float.ofNat n.natAbs)

open Document

/-- Deeper than this no value is read. -/
def maxDepth : Nat := 128

/-- The kind of a scalar is found in its node alone. Everything below a node is read before any
objection to the node itself is made. -/
def read : Read Scalar := fun n =>
  if !n.readable || maxDepth ≤ n.depth then .error .malformed
  else
    match n with
    | .null => .ok null
    | .bool b => .ok (bool b)
    | .integer i => .ok (ofInteger i)
    | .float x => .ok (float x)
    | .text s => .ok (text s)
    | _ => .error (.noVariant "ScalarValue")

end Scalar

end FlowGauge
