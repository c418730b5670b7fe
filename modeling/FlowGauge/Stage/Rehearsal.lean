import FlowGauge.Stage.Operator

/-! A host that follows a script, and operators to try a stage out with.

The script is for one scene. In every scene the calls of the opener and the summaries handed over
are counted anew, and each is answered as the script has it for its number. -/
namespace FlowGauge

structure Rehearsal where
  clock : Instant := 0
  /-- The sampler has a clock of its own, on which the scenes take no time. -/
  apart : Bool := false
  /-- The faults of the opener's calls in a scene; past the end a call succeeds. -/
  openings : List (Option Fault) := []
  /-- The faults of the summaries handed over in a scene. -/
  deliveries : List (Option Fault) := []
  /-- The store that summaries are sent to cannot be reached. -/
  unreachable : Bool := false
  /-- What has been done in this scene. -/
  seen : List Effect := []

namespace Rehearsal

def recorder : Sink :=
  .supplied "recorder"

/-- The answer to a call by its number. -/
def outcome {α : Type} (value : α) (faults : List (Option Fault)) (call : Nat) :
    Except Fault α :=
  match faults[call]? with
  | some (some e) => .error e
  | _ => .ok value

def isOpening : Effect → Bool
  | .openerCalled _ => true
  | _ => false

def isEmission : Effect → Bool
  | .emitted .. => true
  | _ => false

def reading (r : Rehearsal) : Instant :=
  if r.apart then 0 else r.clock

def unreachableFault : Fault :=
  .http "error sending request"

def answers (r : Rehearsal) : Answers where
  openedAt := r.reading
  checkedAt := r.reading
  opening := outcome recorder r.openings (r.seen.countP isOpening)
  delivery :=
    if r.unreachable then .error unreachableFault
    else outcome () r.deliveries (r.seen.countP isEmission)

def host : Host Rehearsal where
  answers := answers
  witness r effects := { r with seen := r.seen ++ effects }

/-- The next scene. -/
def next (r : Rehearsal) : Rehearsal :=
  { r with seen := [] }

def tick (r : Rehearsal) (t : Tick) : Rehearsal :=
  { r with clock := t.apply r.clock }

end Rehearsal

/-- A number that claims to be a tuple of some width, or a plain value. -/
structure Element where
  value : Int64
  width : Option UInt64
  deriving Repr, DecidableEq

instance : Shaped Element where
  shape e :=
    match e.width with
    | some w => .tuple w
    | none => .plain

/-- Puts out what comes in. -/
structure Echo where
  name : String

instance : Operator Echo Element Element where
  name e := e.name
  capabilities _ := Capabilities.none
  process _ e element hosted := ⟨.ok (), e, [element], hosted⟩

/-- Reports joins and windows on its own. A negative element shows what is left behind when the
operator itself fails. -/
structure Expander where
  name : String
  capabilities : Capabilities

namespace Expander

def joinOf (v : Nat) : Callback :=
  .join v (v + 1) 1

def process {σ : Type} (host : Host σ) (x : Expander) (element : Element) (hosted : Hosted σ) :
    Processed Expander Element σ :=
  if element.value < 0 then
    match hosted.report host (.window (.scalar (.bool true))) with
    | (.error e, hosted) => ⟨.error e, x, [element], hosted⟩
    | (.ok (), hosted) => ⟨.ok (), x, [element, element], hosted⟩
  else
    let v := element.value.toInt.toNat
    let (_, hosted) := hosted.report host (joinOf v)
    match hosted.report host (.window (.sequence (v % 16))) with
    | (.error e, hosted) => ⟨.error e, x, [], hosted⟩
    | (.ok (), hosted) => ⟨.ok (), x, List.replicate (v % 4) element, hosted⟩

instance : Operator Expander Element Element where
  name x := x.name
  capabilities x := x.capabilities
  process := process

end Expander

end FlowGauge
