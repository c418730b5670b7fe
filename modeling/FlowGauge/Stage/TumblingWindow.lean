import FlowGauge.Stage.Operator

namespace FlowGauge

structure TumblingWindow (α β : Type) where
  name : String
  size : Nat
  aggregate : List α → β
  pending : List α := []
  fired : Nat := 0

namespace TumblingWindow

/-- A window holds one element at least. -/
def new {α β : Type} (name : String) (size : Nat) (aggregate : List α → β) :
    TumblingWindow α β :=
  { name := name, size := max size 1, aggregate := aggregate }

/-- The length of a full window is reported before its aggregate is put out. -/
def process {α β σ : Type} (host : Host σ) (w : TumblingWindow α β) (element : α)
    (hosted : Hosted σ) : Processed (TumblingWindow α β) β σ :=
  let filled := { w with pending := w.pending ++ [element] }
  if filled.pending.length < w.size then ⟨.ok (), filled, [], hosted⟩
  else
    match hosted.report host (.window (.sequence filled.pending.length)) with
    | (.error e, hosted) => ⟨.error e, filled, [], hosted⟩
    | (.ok (), hosted) =>
      ⟨.ok (), { filled with pending := [], fired := w.fired + 1 },
        [w.aggregate filled.pending], hosted⟩

instance (α β : Type) : Operator (TumblingWindow α β) α β where
  name w := w.name
  capabilities _ := NodeKind.windowing.capabilities
  process := process

end TumblingWindow

end FlowGauge
