/-
This file finds the shortest decimal inside an interval around a value `significand * 2 ^ power`.

The value and the ends of the interval are multiples of one quarter of the unit of the
significand. The decimal grids are tried from coarse to fine: on each grid only the two points
next to the value count, and the first grid with a point inside the interval wins. If both
points lie inside, the nearer one is taken, and the upper one in the middle.
-/

namespace Polyglot.Decimal

/-- A value between two ends, all three counted in units of `2 ^ power`. The ends belong to
the interval if it is closed. -/
structure Interval where
  low : Nat
  value : Nat
  high : Nat
  power : Int
  closed : Bool
  deriving DecidableEq

/-- A decimal `digits * 10 ^ exponent`. -/
structure Scaled where
  digits : Nat
  exponent : Int
  deriving DecidableEq

namespace Interval

/-- The factor that turns units of the interval into a common unit with the grid. -/
def unit (interval : Interval) (exponent : Int) : Nat :=
  Nat.pow 2 interval.power.toNat * Nat.pow 10 (-exponent).toNat

/-- The factor that turns steps of the grid into a common unit with the interval. -/
def step (interval : Interval) (exponent : Int) : Nat :=
  Nat.pow 2 (-interval.power).toNat * Nat.pow 10 exponent.toNat

/-- Does the point `count * 10 ^ exponent` lie inside the interval? -/
def holds (interval : Interval) (exponent : Int) (count : Nat) : Bool :=
  let point := count * interval.step exponent
  let low := interval.low * interval.unit exponent
  let high := interval.high * interval.unit exponent
  if interval.closed then decide (low ≤ point ∧ point ≤ high)
  else decide (low < point ∧ point < high)

/-- The last point of the grid that is not above the value. -/
def floor (interval : Interval) (exponent : Int) : Nat :=
  interval.value * interval.unit exponent / interval.step exponent

/-- Is the value at least as near to the point above as to the point below? -/
def leansUp (interval : Interval) (exponent : Int) : Bool :=
  interval.step exponent ≤
    2 * (interval.value * interval.unit exponent % interval.step exponent)

/-- The point of the grid that stands for the value, if the grid has one in the interval. -/
def onGrid (interval : Interval) (exponent : Int) : Option Nat :=
  let below := interval.floor exponent
  match interval.holds exponent below, interval.holds exponent (below + 1) with
  | true, true => some (if interval.leansUp exponent then below + 1 else below)
  | true, false => some below
  | false, true => some (below + 1)
  | false, false => none

/-- The first of `count` grids, each ten times finer than the one before, with a point in the
interval. -/
def search (interval : Interval) : (count : Nat) → (exponent : Int) → Option Scaled
  | 0, _ => none
  | count + 1, exponent =>
    match interval.onGrid exponent with
    | some digits => some ⟨digits, exponent⟩
    | none => interval.search count (exponent - 1)

/-- The exponent of a grid whose steps are longer than the whole interval is high. -/
def coarsest (interval : Interval) : Nat :=
  let whole := interval.high * Nat.pow 2 interval.power.toNat / Nat.pow 2 (-interval.power).toNat
  (Nat.toDigits 10 whole).length

/-- The shortest decimal in the interval. The value itself is a point of the grid whose
exponent is the power, so the search ends there at the latest. -/
def shortest (interval : Interval) : Scaled :=
  let grids := interval.coarsest + (-interval.power).toNat + 1
  (interval.search grids interval.coarsest).getD ⟨0, 0⟩

end Interval

end Polyglot.Decimal
