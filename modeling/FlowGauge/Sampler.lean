import FlowGauge.Clock
import FlowGauge.Selectivity
import FlowGauge.Shape
import FlowGauge.Sink
import FlowGauge.WindowState

/-! A sampler watches one node for one window of time and hands over one summary.

The window opens with the first input. Every later input and output looks at the clock; the first
to find that more than the window has passed closes it, once and for all. What the sampler asks of
its surroundings while a callback runs (the time, a sink, whether the summary was taken) comes as
`Answers` beside the callback, and what it does to them is listed as effects. -/
namespace FlowGauge

inductive Phase where
  | uninitialized
  | observing
  | closed
  deriving Repr, DecidableEq

def Phase.name : Phase → String
  | uninitialized => "Uninitialized"
  | observing => "Observing"
  | closed => "Closed"

/-- Who opens the sink. -/
inductive Opener where
  | builtIn
  | host
  deriving Repr, DecidableEq

structure Sampler where
  summary : Summary
  selectivity : Selectivity
  phase : Phase
  start : Instant
  inputs : Nat
  outputs : Nat
  disabled : Bool
  sinkMode : Option SinkMode
  sink : Option Sink
  opener : Opener

/-- What the surroundings say while one callback runs, if they are asked. -/
structure Answers where
  /-- The time when the window opens. -/
  openedAt : Instant
  /-- The time when the window is checked. -/
  checkedAt : Instant
  /-- The outcome of the host's opener. -/
  opening : Except Fault Sink
  /-- The outcome of handing the summary over. -/
  delivery : Except Fault Unit

inductive Callback where
  | input (shape : Shape) (config : JobConfig)
  | output (shape : Shape)
  | join (left right matched : Nat)
  | window (state : WindowState)
  | disable (value : Bool)

structure Outcome where
  result : Except Fault Unit
  sampler : Sampler
  effects : List Effect

namespace Sampler

/-- The length of the window in nanoseconds. -/
def window : Nat := 30000000000

def new (kind : NodeKind) (seed : List (String × Scalar)) (opener : Opener) : Sampler where
  summary := Summary.new seed kind
  selectivity := { kind := kind }
  phase := .uninitialized
  start := 0
  inputs := 0
  outputs := 0
  disabled := false
  sinkMode := none
  sink := none
  opener := opener

def kind (s : Sampler) : NodeKind :=
  s.selectivity.kind

/-- Nothing happens. -/
def idle (s : Sampler) : Outcome :=
  ⟨.ok (), s, []⟩

/-- Events in a second, when `count` of them came in `elapsed` nanoseconds. -/
def rate (count : Nat) (elapsed : Instant) : Float :=
  Float.ofNat count * 1000000000 / elapsed.toFloat

/-- The summary as it is when the window closes. -/
def finalSummary (s : Sampler) (elapsed : Instant) : Summary :=
  { s.summary with
    outputRate := some (rate s.outputs elapsed)
    inputRate := some (rate s.inputs elapsed)
    realSelectivity :=
      (s.selectivity.compute s.inputs s.outputs).or s.summary.realSelectivity }

def closedEvent (s : Sampler) (elapsed : Instant) : LogEvent where
  level := .debug
  target := .diagnostic
  message := "observation window closed"
  fields :=
    [("inputs", toString s.inputs), ("outputs", toString s.outputs),
      ("elapsed_ms", toString (elapsed.toNat / 1000000))]

def discardedEvent : LogEvent where
  level := .trace
  target := .diagnostic
  message := "sampler has no id, discarding summary"
  fields := []

def emissionContext (id : Scalar) : String :=
  "Failed to emit observation for node " ++ id.display

def inContext (context : String) : Except Fault Unit → Except Fault Unit
  | .ok () => .ok ()
  | .error e => .error (.withContext context e)

/-- Hands the summary to the sink if the node has an identifier. -/
def deliver (s : Sampler) (delivery : Except Fault Unit) : Outcome :=
  match s.summary.id? with
  | none => ⟨.ok (), s, [.logged discardedEvent]⟩
  | some id =>
    match s.sink with
    | none => ⟨.error (.sink "sink was never opened"), s, []⟩
    | some sink =>
      let emission := sink.emit s.summary delivery
      ⟨inContext (emissionContext id) emission.result, { s with sink := some emission.sink },
        emission.effects⟩

def close (s : Sampler) (elapsed : Instant) (delivery : Except Fault Unit) : Outcome :=
  let closed := { s with phase := .closed, summary := s.finalSummary elapsed }
  let outcome := closed.deliver delivery
  { outcome with effects := .logged (s.closedEvent elapsed) :: outcome.effects }

/-- More than the window has passed, not just as much. -/
def due (s : Sampler) (now : Instant) : Bool :=
  window < (now.since s.start).toNat

def checkWindow (s : Sampler) (a : Answers) : Outcome :=
  if s.phase = .observing ∧ s.due a.checkedAt then
    s.close (a.checkedAt.since s.start) a.delivery
  else s.idle

/-- The sink for a job whose configuration is in order, and the calls made for it. -/
def obtainSink (s : Sampler) (config : JobConfig) (a : Answers) :
    Except Fault Sink × List Effect :=
  match s.opener with
  | .host => (a.opening, [.openerCalled config])
  | .builtIn => (Sink.ofJob config, [])

def openedEvent (s : Sampler) (mode : SinkMode) (sink : Sink) : LogEvent where
  level := .debug
  target := .diagnostic
  message := "sampler observing"
  fields := [("kind", s.kind.display), ("mode", mode.display), ("sink", sink.name)]

/-- The sampler with its window open. -/
def opened (s : Sampler) (shape : Shape) (mode : SinkMode) (sink : Sink) (now : Instant) :
    Sampler :=
  { s with
    opener := .builtIn
    sink := some sink
    sinkMode := some mode
    start := now
    summary := { s.summary with tupleWidthIn := shape.recorded, tupleWidthOut := -1 }
    phase := .observing }

/-- Either everything is opened or nothing changes. -/
def openWindow (s : Sampler) (shape : Shape) (config : JobConfig) (a : Answers) : Outcome :=
  match config.resolveSinkMode with
  | .error e => ⟨.error e, s, []⟩
  | .ok mode =>
    match s.obtainSink config a with
    | (.error e, calls) => ⟨.error e, s, calls⟩
    | (.ok sink, calls) =>
      ⟨.ok (), s.opened shape mode sink a.openedAt, calls ++ [.logged (s.openedEvent mode sink)]⟩

def countInput (s : Sampler) : Sampler :=
  { s with inputs := s.inputs + 1 }

def countOutput (s : Sampler) (shape : Shape) : Sampler :=
  { s with
    outputs := s.outputs + 1
    summary := { s.summary with tupleWidthOut := shape.recorded } }

/-- An open sampler's part of an input. -/
def takeInput (s : Sampler) (a : Answers) : Outcome :=
  s.countInput.checkWindow a

def reportInput (s : Sampler) (shape : Shape) (config : JobConfig) (a : Answers) : Outcome :=
  if s.disabled then s.idle
  else if s.phase = .uninitialized then
    let opening := s.openWindow shape config a
    match opening.result with
    | .error _ => opening
    | .ok () =>
      let outcome := opening.sampler.takeInput a
      { outcome with effects := opening.effects ++ outcome.effects }
  else s.takeInput a

/-- An output before the first input is ignored. One after the window has closed is still counted,
and its width is still recorded. -/
def reportOutput (s : Sampler) (shape : Shape) (a : Answers) : Outcome :=
  if s.disabled || s.phase = .uninitialized then s.idle
  else (s.countOutput shape).checkWindow a

def reportJoin (s : Sampler) (left right matched : Nat) : Sampler :=
  if s.disabled then s
  else { s with selectivity := s.selectivity.recordJoin left right matched }

/-- The state has to be legal even where its length is not recorded. -/
def reportWindow (s : Sampler) (state : WindowState) : Outcome :=
  if s.disabled then s.idle
  else
    match state.length with
    | .error e => ⟨.error e, s, []⟩
    | .ok n => ⟨.ok (), { s with selectivity := s.selectivity.recordWindow n }, []⟩

def setDisabled (s : Sampler) (value : Bool) : Sampler :=
  { s with disabled := value }

def step (s : Sampler) (c : Callback) (a : Answers) : Outcome :=
  match c with
  | .input shape config => s.reportInput shape config a
  | .output shape => s.reportOutput shape a
  | .join left right matched => (s.reportJoin left right matched).idle
  | .window state => s.reportWindow state
  | .disable value => (s.setDisabled value).idle

def isInitialized (s : Sampler) : Bool :=
  s.phase ≠ .uninitialized

def observationMade (s : Sampler) : Bool :=
  s.phase = .closed

def describeMode : Option SinkMode → String
  | none => "None"
  | some mode => "Some(" ++ mode.name ++ ")"

def describe (s : Sampler) : String :=
  "Sampler \x7b kind: " ++ s.kind.name ++ ", state: " ++ s.phase.name ++
    ", input_count: " ++ toString s.inputs ++ ", output_count: " ++ toString s.outputs ++
    ", disabled: " ++ (if s.disabled then "true" else "false") ++
    ", sink_mode: " ++ describeMode s.sinkMode ++ " \x7d"

end Sampler

end FlowGauge
