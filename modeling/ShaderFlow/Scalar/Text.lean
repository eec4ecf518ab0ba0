/-
Module: ShaderFlow.Scalar.Text
Purpose: Text of scalars in generated source and in descriptions.
Main exports: ScalarLayout, Scalar.layout, Scalar.text
-/
import ShaderFlow.Scalar.Shortest

namespace ShaderFlow

/-- How scalars are laid out. -/
structure ScalarLayout where
  /-- Least magnitude, zero apart, that is written without an exponent. -/
  positionalFrom : Scalar
  /-- Least magnitude that takes an exponent again. -/
  positionalBelow : Scalar
  /-- Mark between digits and exponent. -/
  exponentMark : Char
  notANumber : String
  infinite : String
deriving Repr, Inhabited

namespace Scalar

/-- Magnitudes from `0.0001` up to `10 ^ 16` are written without exponent and with at least one
fraction digit, which is what makes WGSL read them as floating-point; others as digits and `e`. -/
def layout : ScalarLayout :=
  { positionalFrom := ofDecimal ⟨false, 1, -4⟩
    positionalBelow := ofDecimal ⟨false, 1, 16⟩
    exponentMark := 'e'
    notANumber := "NaN"
    infinite := "inf" }

/-- Decimal digits of a natural number. -/
def decimalDigits (n : Nat) : List Char := Nat.toDigits 10 n

/-- Digits around a point, padded with zeros, with at least one digit on either side. -/
def positional (x : ShortDecimal) : List Char :=
  let digits := decimalDigits x.digits
  if 0 ≤ x.exponent then
    digits ++ List.replicate x.exponent.toNat '0' ++ ['.', '0']
  else
    let places := (-x.exponent).toNat
    if places < digits.length then
      digits.take (digits.length - places) ++ '.' :: digits.drop (digits.length - places)
    else
      ['0', '.'] ++ List.replicate (places - digits.length) '0' ++ digits

/-- One digit, the remaining digits after a point if there are any, and the exponent. -/
def scientific (mark : Char) (x : ShortDecimal) : List Char :=
  match decimalDigits x.digits with
  | [] => []
  | first :: rest =>
      let exponent : Int := x.exponent + rest.length
      let sign : List Char := if exponent < 0 then ['-'] else []
      let fraction : List Char := if rest.isEmpty then [] else '.' :: rest
      first :: fraction ++ mark :: sign ++ decimalDigits exponent.natAbs

/-- Text of a magnitude. -/
def magnitudeText (layout : ScalarLayout) (x : Scalar) : List Char :=
  if !x.isFinite then layout.infinite.toList
  else if x.isZero then ['0', '.', '0']
  else if layout.positionalFrom.magnitudeBits ≤ x.magnitudeBits ∧
      x.magnitudeBits < layout.positionalBelow.magnitudeBits then
    positional x.shortest
  else
    scientific layout.exponentMark x.shortest

/-- Text of a scalar: a NaN has no sign, every other scalar shows its sign bit. -/
def text (x : Scalar) : String :=
  if x.isNaN then layout.notANumber
  else
    let body := magnitudeText layout x
    String.ofList (if x.isNegative then '-' :: body else body)

end Scalar

end ShaderFlow
