/-
Module: ShaderFlow.Scalar.Rounding
Purpose: Correct rounding of exact ratios to binary formats, and the arithmetic built on it.
Main exports: Ratio, BinaryFormat.round, Scalar.ofRatio, Scalar.ofDecimal, Scalar.ofNat,
  Scalar.mul, Scalar.div, Scalar.toPixels
-/
import ShaderFlow.Scalar.Basic

namespace ShaderFlow

/-!
All arithmetic is done on exact ratios of natural numbers and rounded once: to the nearest number
of the format, and from the middle of two neighbours to the one with an even significand.
-/

/-- A non-negative ratio.  Every ratio built here has a positive denominator. -/
structure Ratio where
  num : Nat
  den : Nat
deriving DecidableEq, Repr, Inhabited

namespace Ratio

/-- The ratio `m · b ^ e`. -/
def scaled (m b : Nat) (e : Int) : Ratio := ⟨m * Nat.pow b e.toNat, Nat.pow b (-e).toNat⟩

/-- Product. -/
def mul (x y : Ratio) : Ratio := ⟨x.num * y.num, x.den * y.den⟩

/-- Quotient. -/
def div (x y : Ratio) : Ratio := ⟨x.num * y.den, x.den * y.num⟩

/-- Nearest natural number; a half goes to the even neighbour. -/
def nearestEven (x : Ratio) : Nat :=
  let whole := x.num / x.den
  let twice := 2 * (x.num % x.den)
  if twice < x.den ∨ (twice = x.den ∧ whole % 2 = 0) then whole else whole + 1

/-- Nearest natural number; a half goes up. -/
def nearestUp (x : Ratio) : Nat := (2 * x.num + x.den) / (2 * x.den)

/-- Largest `e` with `2 ^ e ≤ x`, for positive `x`. -/
def log2 (x : Ratio) : Int :=
  let guess : Int := x.num.log2 - x.den.log2
  if x.den * Nat.pow 2 guess.toNat ≤ x.num * Nat.pow 2 (-guess).toNat then guess else guess - 1

end Ratio

/-- A binary format: how many bits a significand has and the least exponent of its last bit. -/
structure BinaryFormat where
  precision : Nat
  minExponent : Int
deriving DecidableEq, Repr, Inhabited

namespace BinaryFormat

/-- Single precision. -/
def single : BinaryFormat := ⟨24, -149⟩

/-- Double precision. -/
def double : BinaryFormat := ⟨53, -1074⟩

/-- The number `m · 2 ^ q` of the format, with unbounded exponent, nearest to a positive ratio. -/
def round (format : BinaryFormat) (x : Ratio) : Nat × Int :=
  let exponent := max format.minExponent (x.log2 + 1 - format.precision)
  ((x.mul (.scaled 1 2 (-exponent))).nearestEven, exponent)

end BinaryFormat

/-- An exact decimal `± digits · 10 ^ exponent`. -/
structure Decimal where
  negative : Bool
  digits : Nat
  exponent : Int
deriving DecidableEq, Repr, Inhabited

namespace Scalar

/-- Put a sign in front of magnitude bits below the sign bit. -/
def withSign (negative : Bool) (magnitude : Nat) : Scalar :=
  ⟨UInt32.ofNat (if negative then magnitude + magnitudeCount else magnitude)⟩

/-- The scalar nearest to a signed ratio; what lies beyond the largest scalar is infinite.  A
significand `m` at exponent `q` has the magnitude bits `(q + 149) · 2 ^ 23 + m`: a carry out of the
fraction moves into the exponent by itself. -/
def ofRatio (negative : Bool) (x : Ratio) : Scalar :=
  if x.num = 0 then withSign negative 0
  else
    let (m, q) := BinaryFormat.single.round x
    let magnitude := (q + 149).toNat * fractionCount + m
    if magnitude < 0x7F800000 then withSign negative magnitude else infinity negative

/-- The scalar of a decimal, rounded first to double and then to single precision.  Decimals far
outside the range of both formats are settled by their size alone. -/
def ofDecimal (x : Decimal) : Scalar :=
  if x.digits = 0 then withSign x.negative 0
  else if x.exponent > 400 then infinity x.negative
  else if x.exponent + x.digits.log2 < -400 then withSign x.negative 0
  else
    let (m, q) := BinaryFormat.double.round (.scaled x.digits 10 x.exponent)
    ofRatio x.negative (.scaled m 2 q)

/-- The scalar nearest to a natural number. -/
def ofNat (n : Nat) : Scalar := ofRatio false ⟨n, 1⟩

/-- Magnitude of a finite scalar. -/
def magnitude (x : Scalar) : Ratio := .scaled x.significand 2 x.exponent

/-- Product. -/
def mul (x y : Scalar) : Scalar :=
  let negative := x.isNegative != y.isNegative
  if x.isNaN || y.isNaN then nan
  else if x.isFinite && y.isFinite then ofRatio negative (x.magnitude.mul y.magnitude)
  else if x.isZero || y.isZero then nan
  else infinity negative

/-- Quotient. -/
def div (x y : Scalar) : Scalar :=
  let negative := x.isNegative != y.isNegative
  if x.isNaN || y.isNaN then nan
  else if x.isFinite then
    if !y.isFinite then withSign negative 0
    else if y.isZero then (if x.isZero then nan else infinity negative)
    else ofRatio negative (x.magnitude.div y.magnitude)
  else if y.isFinite then infinity negative
  else nan

/-- Whole number of pixels nearest to a scalar, a half going up, cut to the range of 32 bits.  A NaN
and everything negative give zero. -/
def toPixels (x : Scalar) : UInt32 :=
  if x.isNaN || x.isNegative then 0
  else if x.isFinite then UInt32.ofNat (min x.magnitude.nearestUp 0xFFFFFFFF)
  else 0xFFFFFFFF

end Scalar

end ShaderFlow
