/-
Module: ShaderFlow.Scalar.Basic
Purpose: Single-precision numbers as the 32-bit patterns that reach the GPU.
Main exports: Scalar, Scalar.isFinite, Scalar.isNaN, Scalar.equal, Scalar.bytes
-/

namespace ShaderFlow

/-!
A scalar is its bit pattern: one sign bit, eight exponent bits, twenty-three fraction bits.  Equality
of the structure is equality of bits, which tells `0.0` from `-0.0` and one NaN from another;
`Scalar.equal` is the comparison of numbers.
-/

/-- A single-precision floating-point number, given by its bits. -/
structure Scalar where
  bits : UInt32
deriving DecidableEq, Repr, Inhabited

namespace Scalar

/-- Number of patterns of the twenty-three fraction bits. -/
def fractionCount : Nat := 0x800000

/-- Number of patterns of all bits but the sign. -/
def magnitudeCount : Nat := 0x80000000

/-- Positive zero. -/
def zero : Scalar := ⟨0⟩

/-- One. -/
def one : Scalar := ⟨0x3F800000⟩

/-- The quiet NaN without payload. -/
def nan : Scalar := ⟨0x7FC00000⟩

/-- Infinity of either sign. -/
def infinity (negative : Bool) : Scalar := ⟨if negative then 0xFF800000 else 0x7F800000⟩

/-- Whether the sign bit is set. -/
def isNegative (x : Scalar) : Bool := 0x80000000 ≤ x.bits

/-- The bits without the sign.  Among numbers of one sign they are ordered as the numbers are. -/
def magnitudeBits (x : Scalar) : Nat := x.bits.toNat % magnitudeCount

/-- The eight exponent bits. -/
def exponentField (x : Scalar) : Nat := x.magnitudeBits / fractionCount

/-- The fraction bits. -/
def fractionField (x : Scalar) : Nat := x.bits.toNat % fractionCount

/-- Neither infinite nor NaN. -/
def isFinite (x : Scalar) : Bool := x.exponentField != 255

/-- Not a number. -/
def isNaN (x : Scalar) : Bool := x.exponentField == 255 && x.fractionField != 0

/-- Zero of either sign. -/
def isZero (x : Scalar) : Bool := x.magnitudeBits == 0

/-- Integer `m` of the finite magnitude `m · 2 ^ q`. -/
def significand (x : Scalar) : Nat :=
  if x.exponentField = 0 then x.fractionField else fractionCount + x.fractionField

/-- Exponent `q` of the finite magnitude `m · 2 ^ q`. -/
def exponent (x : Scalar) : Int := (max x.exponentField 1 : Nat) - (150 : Int)

/-- Comparison of numbers: a NaN equals nothing and the two zeros are equal. -/
def equal (x y : Scalar) : Bool :=
  !x.isNaN && !y.isNaN && (x.bits == y.bits || (x.isZero && y.isZero))

/-- The four bytes of a scalar, least significant first. -/
def bytes (x : Scalar) : List UInt8 :=
  [x.bits.toUInt8, (x.bits >>> 8).toUInt8, (x.bits >>> 16).toUInt8, (x.bits >>> 24).toUInt8]

theorem length_bytes (x : Scalar) : x.bytes.length = 4 := rfl

end Scalar

end ShaderFlow
