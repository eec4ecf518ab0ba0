/-
Module: ShaderFlow.Text.Hexadecimal
Purpose: Natural numbers in base sixteen.
Main exports: Hexadecimal.digits, Hexadecimal.padded, Hexadecimal.value?
-/

namespace ShaderFlow.Hexadecimal

/-- Lower-case digits of a number, without leading zeros. -/
def digits (n : Nat) : List Char := Nat.toDigits 16 n

/-- Lower-case digits of a number, filled up with leading zeros to a width. -/
def padded (width n : Nat) : List Char :=
  List.replicate (width - (digits n).length) '0' ++ digits n

/-- Value of a digit of either case. -/
def digitValue? (c : Char) : Option Nat :=
  if '0' ≤ c ∧ c ≤ '9' then some (c.toNat - '0'.toNat)
  else if 'a' ≤ c ∧ c ≤ 'f' then some (c.toNat - 'a'.toNat + 10)
  else if 'A' ≤ c ∧ c ≤ 'F' then some (c.toNat - 'A'.toNat + 10)
  else none

/-- Value of a row of digits of either case. -/
def value? (text : List Char) : Option Nat :=
  text.foldlM (fun value c => (digitValue? c).map (16 * value + ·)) 0

end ShaderFlow.Hexadecimal
