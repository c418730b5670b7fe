import FlowGauge.Stage.Filter
import FlowGauge.Stage.TumblingWindow

namespace FlowGauge

/-- A number with its place in the sequence. -/
structure Measurement where
  sequence : UInt64
  value : Float

instance : Shaped Measurement where
  shape _ := .tuple 2

/-- The mean of a number of measurements. -/
structure WindowMean where
  count : Nat
  mean : Float

instance : Shaped WindowMean where
  shape _ := .tuple 2

namespace Demo

def measurement (sequence : UInt64) : Measurement :=
  ⟨sequence, (sequence * 7919 % 100).toFloat - 50⟩

def meanOf (w : List Measurement) : WindowMean :=
  ⟨w.length, w.foldl (fun sum m => sum + m.value) 0 / Float.ofNat w.length⟩

def windowSize : Nat := 8

def positive : Filter Measurement :=
  { name := "positive", keep := fun m => m.value > 0 }

def means : TumblingWindow Measurement WindowMean :=
  TumblingWindow.new "mean8" windowSize meanOf

/-- Both stages at work, with the time they were last told and what they have done. -/
structure Pipeline where
  filter : Stage (Filter Measurement) Instant
  window : Stage (TumblingWindow Measurement WindowMean) Instant
  drained : Nat

/-- A host that knows the time and has no sink of its own. -/
def host (delivery : Except Fault Unit) : Host Instant where
  answers now := ⟨now, now, .error (.sink "no sink is supplied"), delivery⟩
  witness now _ := now

def pipeline (config : JobConfig) : Pipeline where
  filter := ⟨positive, ⟨Stage.samplerFor positive "filter-positive", 0⟩, config⟩
  window := ⟨means, ⟨Stage.samplerFor means "window-mean8", 0⟩, config⟩
  drained := 0

/-- Which stage gives up. -/
inductive Failure where
  | filter (fault : Fault)
  | window (fault : Fault)

def Failure.text : Failure → String
  | filter _ => "filter stage"
  | window _ => "window stage"

def told {ω : Type} (now : Instant) (s : Stage ω Instant) : Stage ω Instant :=
  { s with hosted := { s.hosted with around := now } }

def pushWindow (host : Host Instant) (now : Instant) (p : Pipeline) (m : Measurement) :
    Except Failure Pipeline :=
  let pushed := Stage.push host (told now p.window) m []
  match pushed.result with
  | .error e => .error (.window e)
  | .ok () => .ok { p with window := pushed.stage, drained := p.drained + pushed.out.length }

/-- One measurement on its way through the pipeline. -/
def feed (host : Host Instant) (now : Instant) (p : Pipeline) (sequence : UInt64) :
    Except Failure Pipeline := do
  let pushed := Stage.push host (told now p.filter) (measurement sequence) []
  match pushed.result with
  | .error e => throw (.filter e)
  | .ok () => pushed.out.foldlM (pushWindow host now) { p with filter := pushed.stage }

end Demo

end FlowGauge
