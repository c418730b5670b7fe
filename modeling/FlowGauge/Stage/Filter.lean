import FlowGauge.Stage.Operator

namespace FlowGauge

structure Filter (α : Type) where
  name : String
  keep : α → Bool
  passed : Nat := 0
  dropped : Nat := 0

namespace Filter

def process {α σ : Type} (f : Filter α) (element : α) (hosted : Hosted σ) :
    Processed (Filter α) α σ :=
  if f.keep element then ⟨.ok (), { f with passed := f.passed + 1 }, [element], hosted⟩
  else ⟨.ok (), { f with dropped := f.dropped + 1 }, [], hosted⟩

instance (α : Type) : Operator (Filter α) α α where
  name f := f.name
  capabilities _ := NodeKind.filter.capabilities
  process _ f element hosted := f.process element hosted

end Filter

end FlowGauge
