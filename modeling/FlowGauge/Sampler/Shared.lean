import FlowGauge.Sampler

/-! A sampler behind a lock that many threads may hold in turn.

All handles to it are alike. A caller that panics while it holds the lock poisons it, and from then
on every call through every handle is refused. -/
namespace FlowGauge

structure Shared where
  sampler : Sampler
  poisoned : Bool

namespace Shared

def new (s : Sampler) : Shared :=
  ⟨s, false⟩

/-- What a call made under the lock comes to: its value, or a panic. -/
inductive Held (α : Type) where
  | returned (value : α) (sampler : Sampler)
  | panicked (sampler : Sampler)

/-- How a call through a handle ends. -/
inductive Ending (α : Type) where
  | returned (value : α)
  | refused
  | panicked

/-- Runs `f` with the lock held. -/
def run {α : Type} (h : Shared) (f : Sampler → Held α) : Ending α × Shared :=
  if h.poisoned then (.refused, h)
  else
    match f h.sampler with
    | .returned value s => (.returned value, ⟨s, false⟩)
    | .panicked s => (.panicked, ⟨s, true⟩)

/-- A refusal as a fault. -/
def Ending.value {α : Type} : Ending α → Except Fault α
  | returned value => .ok value
  | refused => .error .poisoned
  | panicked => .error .poisoned

structure Report where
  result : Except Fault Unit
  shared : Shared
  effects : List Effect

/-- A callback made through a handle. -/
def report (h : Shared) (c : Callback) (a : Answers) : Report :=
  match h.run fun s => let o := s.step c a; .returned (o.result, o.effects) o.sampler with
  | (.returned (result, effects), h) => ⟨result, h, effects⟩
  | (ending, h) => ⟨ending.value.map fun _ => (), h, []⟩

/-- A value read off the sampler. -/
def inspect {α : Type} (h : Shared) (f : Sampler → α) : Except Fault α :=
  (h.run fun s => .returned (f s) s).1.value

def phase (h : Shared) : Except Fault Phase :=
  h.inspect Sampler.phase

def summary (h : Shared) : Except Fault Summary :=
  h.inspect Sampler.summary

/-- A panic while the lock is held. -/
def poison (h : Shared) : Ending Unit × Shared :=
  h.run fun s => .panicked s

/-- Whoever cannot have the lock at once does not see the sampler. -/
def describe (h : Shared) (held : Bool) : String :=
  if held || h.poisoned then "SharedSampler(<locked>)"
  else "SharedSampler(" ++ h.sampler.describe ++ ")"

end Shared

end FlowGauge
