namespace FlowGauge

/-- The kind decides what counts as the selectivity of a node. -/
inductive NodeKind where
  | filter
  | windowing
  | joinWrapping
  | other
  deriving Repr, DecidableEq

/-- What a node answers when it is asked what it does. -/
structure Capabilities where
  filter : Bool
  windowing : Bool
  joinWrapping : Bool
  deriving Repr, DecidableEq

namespace NodeKind

def all : List NodeKind :=
  [filter, windowing, joinWrapping, other]

/-- The identifier, which documents use. -/
def name : NodeKind → String
  | filter => "Filter"
  | windowing => "Windowing"
  | joinWrapping => "JoinWrapping"
  | other => "Other"

/-- The name that people read. -/
def display : NodeKind → String
  | joinWrapping => "Join Wrapping"
  | kind => kind.name

def hasSelectivity (kind : NodeKind) : Bool :=
  kind ≠ other

/-- A node with the capability of one kind only. -/
def capabilities (kind : NodeKind) : Capabilities where
  filter := kind = filter
  windowing := kind = windowing
  joinWrapping := kind = joinWrapping

end NodeKind

namespace Capabilities

def none : Capabilities :=
  ⟨false, false, false⟩

/-- Filtering wins over windowing, and either over wrapping a join. -/
def kind (c : Capabilities) : NodeKind :=
  if c.filter then .filter
  else if c.windowing then .windowing
  else if c.joinWrapping then .joinWrapping
  else .other

end Capabilities

theorem NodeKind.kind_capabilities (kind : NodeKind) : kind.capabilities.kind = kind := by
  cases kind <;> rfl

end FlowGauge
