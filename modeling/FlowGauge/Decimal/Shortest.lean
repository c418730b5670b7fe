/-! The fewest decimal digits that identify a double-precision number.

A number stands for all reals that round to it. The grid of a whole number `g` holds the multiples
of `10 ^ g`; the answer is taken from the coarsest grid that has a point among those reals, and of
two such points it is the nearer one. -/
namespace FlowGauge.Decimal

/-- `digits * 10 ^ exponent`. -/
structure Digits where
  digits : Nat
  exponent : Int
  deriving Repr, DecidableEq

/-- Which neighbour wins when both are equally near. -/
inductive Tie where
  | even
  | up
  deriving Repr, DecidableEq

namespace Shortest

/-- A quarter of the last binary place, `2 ^ (q - 2)`, measured in units of a grid:
`x` quarters are `x * scale` parts, and one grid step is `step` parts. -/
structure Ruler where
  scale : Nat
  step : Nat

def ruler (q g : Int) : Ruler where
  scale := Nat.pow 2 (q - 2).toNat * Nat.pow 10 (-g).toNat
  step := Nat.pow 2 (2 - q).toNat * Nat.pow 10 g.toNat

/-- The space below the smallest significand of an exponent is half as wide as the one above. -/
def narrowBelow (m : Nat) (q : Int) : Bool :=
  m == Nat.pow 2 52 && q != -1074

def lowest (m : Nat) (q : Int) : Nat :=
  if narrowBelow m q then 4 * m - 1 else 4 * m - 2

def highest (m : Nat) : Nat :=
  4 * m + 2

/-- Both ends round to `m` when it is even, neither when it is odd. -/
def identifies (m : Nat) (q g : Int) (d : Nat) : Bool :=
  let r := ruler q g
  let place := d * r.step
  if m % 2 = 0 then lowest m q * r.scale ≤ place && place ≤ highest m * r.scale
  else lowest m q * r.scale < place && place < highest m * r.scale

def below (m : Nat) (q g : Int) : Nat :=
  4 * m * (ruler q g).scale / (ruler q g).step

/-- Of the grid points `d` and `d + 1`, the nearer one. -/
def nearer (tie : Tie) (m : Nat) (q g : Int) (d : Nat) : Nat :=
  let r := ruler q g
  let twice := 2 * (4 * m * r.scale)
  let middle := (2 * d + 1) * r.step
  if twice < middle then d
  else if middle < twice then d + 1
  else match tie with
    | .up => d + 1
    | .even => if d % 2 = 0 then d else d + 1

def onGrid (tie : Tie) (m : Nat) (q g : Int) : Option Digits :=
  let d := below m q g
  match identifies m q g d, identifies m q g (d + 1) with
  | true, true => some ⟨nearer tie m q g d, g⟩
  | true, false => some ⟨d, g⟩
  | false, true => some ⟨d + 1, g⟩
  | false, false => none

/-- A grid on which `m * 2 ^ q` is less than one step; `30103 / 100000` is just above the
logarithm of two. -/
def coarsest (m : Nat) (q : Int) : Int :=
  ((m.log2 : Int) + 1 + q) * 30103 / 100000 + 1

/-- Seventeen digits always suffice, and the first of them is at most two grids down. -/
def grids (m : Nat) (q : Int) : List Int :=
  (List.range 20).map fun (i : Nat) => coarsest m q - i

end Shortest

/-- The shortest decimal that identifies `m * 2 ^ q`, for a positive `m`. -/
def shortest (tie : Tie) (m : Nat) (q : Int) : Digits :=
  ((Shortest.grids m q).findSome? (Shortest.onGrid tie m q)).getD
    ⟨Shortest.below m q (Shortest.coarsest m q - 19), Shortest.coarsest m q - 19⟩

end FlowGauge.Decimal
