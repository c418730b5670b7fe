import FlowGauge.Sampler

namespace FlowGauge

/-- A host with states `σ`: how it answers the next callback, and what becomes of it when it sees
what that callback did. -/
structure Host (σ : Type) where
  answers : σ → Answers
  witness : σ → List Effect → σ

/-- A sampler with the host it works for. -/
structure Hosted (σ : Type) where
  sampler : Sampler
  around : σ

def Hosted.report {σ : Type} (host : Host σ) (h : Hosted σ) (c : Callback) :
    Except Fault Unit × Hosted σ :=
  let outcome := h.sampler.step c (host.answers h.around)
  (outcome.result, ⟨outcome.sampler, host.witness h.around outcome.effects⟩)

/-- What an operator makes of one element. -/
structure Processed (ω β σ : Type) where
  result : Except Fault Unit
  operator : ω
  produced : List β
  hosted : Hosted σ

/-- An operator takes elements one by one, and may report to its sampler what only it knows. -/
class Operator (ω : Type) (α β : outParam Type) where
  name : ω → String
  capabilities : ω → Capabilities
  process {σ : Type} (host : Host σ) (operator : ω) (element : α) (hosted : Hosted σ) :
    Processed ω β σ

/-- An operator under observation. -/
structure Stage (ω σ : Type) where
  operator : ω
  hosted : Hosted σ
  config : JobConfig

namespace Stage
variable {ω α β σ : Type}

/-- The earlier fault. -/
def first (a b : Except Fault Unit) : Except Fault Unit :=
  match a with
  | .ok () => b
  | .error e => .error e

/-- Every element is reported, also after a report has failed. -/
def reportOutputs [Shaped β] (host : Host σ) :
    List β → Except Fault Unit × Hosted σ → Except Fault Unit × Hosted σ
  | [], sofar => sofar
  | b :: rest, (result, hosted) =>
    let (reported, hosted) := hosted.report host (.output (Shaped.shape b))
    reportOutputs host rest (first result reported, hosted)

/-- The sampler for an operator that is known by an identifier. -/
def samplerFor [Operator ω α β] (operator : ω) (id : String) : Sampler :=
  Sampler.new (Operator.capabilities operator).kind
    [("id", .text id), ("operator", .text (Operator.name operator))] .builtIn

structure Push (ω β σ : Type) where
  result : Except Fault Unit
  stage : Stage ω σ
  out : List β

/-- One element through the operator. The operator works whether or not observing succeeds, and its
own fault goes before every fault of observing. -/
def push [Operator ω α β] [Shaped α] [Shaped β] (host : Host σ) (stage : Stage ω σ) (element : α)
    (out : List β) : Push ω β σ :=
  let (observed, hosted) :=
    stage.hosted.report host (.input (Shaped.shape element) stage.config)
  let done := Operator.process host stage.operator element hosted
  let out := out ++ done.produced
  match done.result with
  | .error e => ⟨.error e, { stage with operator := done.operator, hosted := done.hosted }, out⟩
  | .ok () =>
    let (result, hosted) := reportOutputs host done.produced (observed, done.hosted)
    ⟨result, { stage with operator := done.operator, hosted := hosted }, out⟩

/-- A callback that does not come from the stage itself. -/
def report (host : Host σ) (stage : Stage ω σ) (c : Callback) :
    Except Fault Unit × Stage ω σ :=
  let (result, hosted) := stage.hosted.report host c
  (result, { stage with hosted := hosted })

end Stage

end FlowGauge
