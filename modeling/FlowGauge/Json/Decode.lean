import FlowGauge.Decimal.Notation
import FlowGauge.Document.Read
import FlowGauge.Json.Reader

namespace FlowGauge.Json
open Document

/-- Floats are told as they are written, and a list for a record ends with its last field. -/
def dialect : Dialect where
  floatText := Decimal.Notation.document.write
  surplus := false

/-- An objection to the value comes before one to what follows it. -/
def decode {α : Type} (read : Read α) (s : String) : Except Misreading α := do
  let r := Json.read s
  let value ← read r.node
  if r.ended then return value else throw .malformed

end FlowGauge.Json
