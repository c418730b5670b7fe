import FlowGauge.NodeKind

namespace FlowGauge

structure Selectivity where
  kind : NodeKind
  joins : List Float := []
  windows : List Nat := []

namespace Selectivity

/-- The matches of a join as a share of all pairs. -/
def joinRatio (left right matched : Nat) : Float :=
  Float.ofNat matched / (Float.ofNat left * Float.ofNat right)

/-- A join with an empty side has no pairs and is not recorded. -/
def recordsJoin (s : Selectivity) (left right : Nat) : Bool :=
  s.kind = .joinWrapping && left ≠ 0 && right ≠ 0

def recordJoin (s : Selectivity) (left right matched : Nat) : Selectivity :=
  if s.recordsJoin left right then
    { s with joins := s.joins ++ [joinRatio left right matched] }
  else s

def recordsWindow (s : Selectivity) : Bool :=
  s.kind = .windowing

def recordWindow (s : Selectivity) (length : Nat) : Selectivity :=
  if s.recordsWindow then { s with windows := s.windows ++ [length] } else s

def mean? (xs : List Float) : Option Float :=
  if xs.isEmpty then none else some (xs.foldl (· + ·) 0 / Float.ofNat xs.length)

/-- A filter's share of outputs is not guarded against a count of no inputs. -/
def compute (s : Selectivity) (inputs outputs : Nat) : Option Float :=
  match s.kind with
  | .filter => some (Float.ofNat outputs / Float.ofNat inputs)
  | .joinWrapping => some ((mean? s.joins).getD 0)
  | .windowing => some (1 / (mean? (s.windows.map Float.ofNat)).getD 0)
  | .other => none

end Selectivity

end FlowGauge
