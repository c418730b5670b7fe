/-! Clocks that are moved by hand. A clock and its clones show the same time. -/
namespace FlowGauge

/-- Nanoseconds in a word of 64 bits. -/
abbrev Instant := UInt64

namespace Instant

/-- The time from `start` to `now`, and none if `now` is before `start`. -/
def since (now start : Instant) : Instant :=
  if start ≤ now then now - start else 0

theorem toNat_since (now start : Instant) :
    (now.since start).toNat = now.toNat - start.toNat := by
  unfold since
  split
  · next h => exact UInt64.toNat_sub_of_le _ _ h
  · next h =>
    have : now.toNat < start.toNat := by
      simpa [UInt64.le_iff_toNat_le] using h
    simp; omega

end Instant

/-- One move of a clock. -/
inductive Tick where
  /-- The nanoseconds are added in 64 bits. -/
  | advance (seconds nanos : Nat)
  | set (target : Instant)
  deriving Repr, DecidableEq

namespace Tick

def apply (t : Tick) (now : Instant) : Instant :=
  match t with
  | advance seconds nanos => now + (seconds * 1000000000 + nanos).toUInt64
  | set target => target

/-- A clock must not be set back; it is set all the same. -/
def backwards (t : Tick) (now : Instant) : Bool :=
  match t with
  | advance .. => false
  | set target => target < now

end Tick

/-- Clocks by number. Each shows one of the times. -/
structure Clocks where
  times : List Instant
  shows : List Nat
  deriving Repr, DecidableEq

namespace Clocks

/-- One clock at zero. -/
def single : Clocks :=
  ⟨[0], [0]⟩

inductive Step where
  | new
  | clone (clock : Nat)
  | move (clock : Nat) (tick : Tick)
  deriving Repr, DecidableEq

def read? (c : Clocks) (clock : Nat) : Option Instant :=
  (c.shows[clock]?).bind fun i => c.times[i]?

def step (c : Clocks) : Step → Clocks
  | .new => ⟨c.times ++ [0], c.shows ++ [c.times.length]⟩
  | .clone clock =>
    match c.shows[clock]? with
    | some i => { c with shows := c.shows ++ [i] }
    | none => c
  | .move clock tick =>
    match c.shows[clock]? with
    | some i => { c with times := c.times.modify i tick.apply }
    | none => c

/-- Whether a step sets a clock back. -/
def backwards (c : Clocks) : Step → Bool
  | .move clock tick => ((c.read? clock).map tick.backwards).getD false
  | _ => false

def readings (c : Clocks) : List Instant :=
  c.shows.filterMap fun i => c.times[i]?

def backwardsMessage : String := "ManualClock moved backwards"

end Clocks

end FlowGauge
