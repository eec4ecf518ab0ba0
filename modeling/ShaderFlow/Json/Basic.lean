/-
Module: ShaderFlow.Json.Basic
Purpose: JSON documents as trees that keep number spellings, member order and lone surrogates.
Main exports: Json, JsonNumber, StringUnit, Json.text?, JsonNumber.toDecimal
-/
import ShaderFlow.Scalar.Rounding

namespace ShaderFlow

/-!
A JSON string is a sequence of characters and of 16-bit code units given by `\u` escapes.  Code
units need not pair up to characters: such a string is a legal piece of JSON but has no text, so
`Json.text?` is partial where reading is not.
-/

/-- One unit of a JSON string. -/
inductive StringUnit where
  /-- A character that stands for itself or is named by a short escape. -/
  | char (c : Char)
  /-- A code unit given by its number. -/
  | code (unit : Nat)
deriving DecidableEq, Repr, Inhabited

/-- A number as it is spelled, without the mark of the exponent. -/
structure JsonNumber where
  negative : Bool
  whole : List Char
  fraction : List Char
  exponentNegative : Bool
  exponentDigits : List Char
deriving DecidableEq, Repr, Inhabited

/-- A JSON document. -/
inductive Json where
  | null
  | bool (value : Bool)
  | number (value : JsonNumber)
  | string (units : List StringUnit)
  | array (items : List Json)
  | object (members : List (List StringUnit × Json))
deriving Repr, Inhabited

namespace StringUnit

/-- Whether a code unit opens a surrogate pair. -/
def isHigh (unit : Nat) : Bool := 0xD800 ≤ unit && unit < 0xDC00

/-- Whether a code unit closes a surrogate pair. -/
def isLow (unit : Nat) : Bool := 0xDC00 ≤ unit && unit < 0xE000

/-- Characters of a string, put in front of `done` in reverse; `none` at a lone surrogate. -/
def decodeOnto (done : List Char) : List StringUnit → Option (List Char)
  | [] => some done
  | .char c :: rest => decodeOnto (c :: done) rest
  | .code high :: .code low :: rest =>
      if isHigh high then
        if isLow low then
          decodeOnto (Char.ofNat (0x10000 + (high - 0xD800) * 0x400 + (low - 0xDC00)) :: done) rest
        else none
      else if isLow high then none
      else decodeOnto (Char.ofNat high :: done) (.code low :: rest)
  | .code unit :: rest =>
      if isHigh unit || isLow unit then none else decodeOnto (Char.ofNat unit :: done) rest

/-- Text of a string, unless a surrogate stands alone. -/
def decode (units : List StringUnit) : Option String :=
  (decodeOnto [] units).map fun reversed => String.ofList reversed.reverse

/-- Units of a text. -/
def encode (text : String) : List StringUnit := text.toList.map .char

theorem decodeOnto_map_char (done text : List Char) :
    decodeOnto done (text.map .char) = some (text.reverse ++ done) := by
  induction text generalizing done with
  | nil => simp [decodeOnto]
  | cons c rest ih => simp [decodeOnto, ih]

@[simp] theorem decode_encode (text : String) : decode (encode text) = some text := by
  simp [decode, encode, decodeOnto_map_char]

end StringUnit

namespace JsonNumber

/-- Value of a decimal digit. -/
def digitValue (c : Char) : Nat := c.toNat - '0'.toNat

/-- Value of a sequence of decimal digits. -/
def digitsValue (digits : List Char) : Nat :=
  digits.foldl (fun value c => 10 * value + digitValue c) 0

/-- Neither fraction nor exponent. -/
def isWhole (n : JsonNumber) : Bool := n.fraction.isEmpty && n.exponentDigits.isEmpty

/-- The number denoted. -/
def toDecimal (n : JsonNumber) : Decimal :=
  let exponent : Int := digitsValue n.exponentDigits
  { negative := n.negative
    digits := digitsValue (n.whole ++ n.fraction)
    exponent := (if n.exponentNegative then -exponent else exponent) - n.fraction.length }

/-- The integer denoted by a number without fraction and exponent; a negative zero is none. -/
def int? (n : JsonNumber) : Option Int :=
  let size := digitsValue n.whole
  if !n.isWhole then none
  else if n.negative then (if size = 0 then none else some (-size))
  else some size

/-- The spelling of a natural number. -/
def ofNat (n : Nat) : JsonNumber := ⟨false, Nat.toDigits 10 n, [], false, []⟩

end JsonNumber

namespace Json

/-- The string node holding a text. -/
def ofText (text : String) : Json := .string (StringUnit.encode text)

/-- The number node holding a natural number. -/
def ofNat (n : Nat) : Json := .number (.ofNat n)

/-- The object with the given members. -/
def ofMembers (members : List (String × Json)) : Json :=
  .object (members.map fun member => (StringUnit.encode member.1, member.2))

/-- Text of a string node. -/
def text? : Json → Option String
  | .string units => StringUnit.decode units
  | _ => none

/-- Members of an object node whose names all are texts. -/
def members? : Json → Option (List (String × Json))
  | .object members => members.mapM fun member => (StringUnit.decode member.1).map (·, member.2)
  | _ => none

/-- The truth value of a node. -/
def bool? : Json → Option Bool
  | .bool value => some value
  | _ => none

/-- The natural number of a node. -/
def nat? : Json → Option Nat
  | .number value =>
      match value.int? with
      | some (.ofNat n) => some n
      | _ => none
  | _ => none

/-- Items of an array node. -/
def items? : Json → Option (List Json)
  | .array items => some items
  | _ => none

@[simp] theorem text?_ofText (text : String) : (ofText text).text? = some text := by
  simp [ofText, text?]

end Json

end ShaderFlow
