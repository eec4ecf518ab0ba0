/-
Module: ShaderFlow.Scalar.Shortest
Purpose: The fewest decimal digits that still denote a given scalar.
Main exports: ShortDecimal, Scalar.shortest
-/
import ShaderFlow.Scalar.Rounding

namespace ShaderFlow

/-!
The reals that round to a finite scalar form an interval around it, ends included exactly when the
significand is even.  Decimal grids are tried from coarse to fine; on each grid only the two points
around the scalar can lie in the interval, because the interval holds the scalar.  The first grid
with a hit gives the fewest digits; of two hits the nearer is taken, and of two equally near ones
the upper.
-/

/-- A positive decimal `digits · 10 ^ exponent`. -/
structure ShortDecimal where
  digits : Nat
  exponent : Int
deriving DecidableEq, Repr, Inhabited

namespace Scalar

/-- The interval of reals that round to a scalar, in quarters of its last place. -/
structure RoundingInterval where
  low : Nat
  value : Nat
  high : Nat
  /-- Exponent of two of a quarter of the last place. -/
  unit : Int
  closed : Bool
deriving DecidableEq, Repr, Inhabited

/-- The interval of a positive finite scalar.  Below a power of two the neighbours are twice as
close, except where the exponent cannot shrink further. -/
def roundingInterval (x : Scalar) : RoundingInterval :=
  let m := x.significand
  let narrowBelow := x.fractionField = 0 ∧ 1 < x.exponentField
  { low := 4 * m - (if narrowBelow then 1 else 2)
    value := 4 * m
    high := 4 * m + 2
    unit := x.exponent - 2
    closed := m % 2 = 0 }

/-- Whether `point` lies in the interval, both measured in the same unit. -/
def RoundingInterval.holds (interval : RoundingInterval) (unit point : Nat) : Bool :=
  let low := interval.low * unit
  let high := interval.high * unit
  if interval.closed then low ≤ point && point ≤ high else low < point && point < high

/-- The point of the grid of multiples of `10 ^ exponent` that denotes the scalar, if there is
one. -/
def RoundingInterval.onGrid? (interval : RoundingInterval) (exponent : Int) : Option Nat :=
  -- one quarter is `quarter` and one grid step is `step`, over a common denominator
  let quarter := Nat.pow 2 interval.unit.toNat * Nat.pow 10 (-exponent).toNat
  let step := Nat.pow 10 exponent.toNat * Nat.pow 2 (-interval.unit).toNat
  let value := interval.value * quarter
  let below := value / step
  let above := below + 1
  match interval.holds quarter (below * step), interval.holds quarter (above * step) with
  | true, true =>
      if value - below * step < above * step - value then some below else some above
  | true, false => some below
  | false, true => some above
  | false, false => none

/-- Move trailing zeros of the digits into the exponent; `fuel` bounds their number. -/
def dropTrailingZeros : Nat → ShortDecimal → ShortDecimal
  | 0, x => x
  | fuel + 1, x =>
      if x.digits % 10 = 0 then dropTrailingZeros fuel ⟨x.digits / 10, x.exponent + 1⟩ else x

/-- Grids from coarse to fine; the first lies above and the last below every scalar's digits. -/
def gridExponents : List Int := (List.range 95).map fun (i : Nat) => 40 - (i : Int)

/-- The shortest decimal of a positive finite scalar. -/
def shortest (x : Scalar) : ShortDecimal :=
  let interval := x.roundingInterval
  let found := gridExponents.findSome? fun exponent =>
    (interval.onGrid? exponent).map fun digits => ShortDecimal.mk digits exponent
  dropTrailingZeros 10 (found.getD ⟨0, 0⟩)

end Scalar

end ShaderFlow
