/-
Module: ShaderFlow.Json.Reader
Purpose: Strict reading of JSON documents.
Main exports: Json.parse?
-/
import ShaderFlow.Json.Basic
import ShaderFlow.Text.Hexadecimal

namespace ShaderFlow

namespace Json

/-!
Reading follows the grammar to the letter: no trailing commas, no leading zeros, no control
characters inside strings, no byte order mark, and nothing but blanks after the document.  A string
may hold any `\u` escapes.  Nesting is bounded by `fuel`, which `parse?` takes from the length of the
text: every level and every item consumes at least one character.
-/

/-- The four characters JSON allows between tokens. -/
def isGap (c : Char) : Bool := c = ' ' || c = '\t' || c = '\n' || c = '\r'

/-- Skip blanks. -/
def skipGap (text : List Char) : List Char := text.dropWhile isGap

/-- The character named by a short escape. -/
def shortEscape? (letter : Char) : Option Char :=
  if letter = '"' then some '"'
  else if letter = '\\' then some '\\'
  else if letter = '/' then some '/'
  else if letter = 'b' then some '\x08'
  else if letter = 'f' then some '\x0c'
  else if letter = 'n' then some '\n'
  else if letter = 'r' then some '\r'
  else if letter = 't' then some '\t'
  else none

/-- Read a string after its opening quote; `done` holds the units read so far, the latest first. -/
def readString (done : List StringUnit) :
    List Char → Option (List StringUnit × List Char)
  | [] => none
  | '"' :: rest => some (done.reverse, rest)
  | '\\' :: 'u' :: a :: b :: c :: d :: rest =>
      match Hexadecimal.value? [a, b, c, d] with
      | some unit => readString (.code unit :: done) rest
      | none => none
  | '\\' :: letter :: rest =>
      match shortEscape? letter with
      | some c => readString (.char c :: done) rest
      | none => none
  | c :: rest =>
      if c = '\\' ∨ c.toNat < 0x20 then none else readString (.char c :: done) rest

/-- Read a run of digits that must not be empty. -/
def readDigits (text : List Char) : Option (List Char × List Char) :=
  match text.takeWhile Char.isDigit with
  | [] => none
  | digits => some (digits, text.dropWhile Char.isDigit)

/-- Read the digits before the point: a zero stands alone. -/
def readWhole : List Char → Option (List Char × List Char)
  | '0' :: rest => some (['0'], rest)
  | text => readDigits text

/-- Read an optional fraction. -/
def readFraction : List Char → Option (List Char × List Char)
  | '.' :: rest => readDigits rest
  | text => some ([], text)

/-- Read the digits of an exponent after its sign. -/
def readExponentDigits (negative : Bool) (text : List Char) :
    Option (Bool × List Char × List Char) :=
  (readDigits text).map fun found => (negative, found.1, found.2)

/-- Read an optional exponent. -/
def readExponent : List Char → Option (Bool × List Char × List Char)
  | [] => some (false, [], [])
  | mark :: rest =>
      if mark = 'e' ∨ mark = 'E' then
        match rest with
        | '-' :: digits => readExponentDigits true digits
        | '+' :: digits => readExponentDigits false digits
        | digits => readExponentDigits false digits
      else some (false, [], mark :: rest)

/-- Read a number after its sign. -/
def readMagnitude (negative : Bool) (text : List Char) : Option (JsonNumber × List Char) := do
  let (whole, rest) ← readWhole text
  let (fraction, rest) ← readFraction rest
  let (exponentNegative, exponentDigits, rest) ← readExponent rest
  return (⟨negative, whole, fraction, exponentNegative, exponentDigits⟩, rest)

/-- Read a number. -/
def readNumber : List Char → Option (JsonNumber × List Char)
  | '-' :: rest => readMagnitude true rest
  | text => readMagnitude false text

mutual

/-- Read one value and the blanks before it. -/
def readValue : Nat → List Char → Option (Json × List Char)
  | 0, _ => none
  | fuel + 1, text =>
      match skipGap text with
      | 'n' :: 'u' :: 'l' :: 'l' :: rest => some (.null, rest)
      | 't' :: 'r' :: 'u' :: 'e' :: rest => some (.bool true, rest)
      | 'f' :: 'a' :: 'l' :: 's' :: 'e' :: rest => some (.bool false, rest)
      | '"' :: rest => (readString [] rest).map fun found => (.string found.1, found.2)
      | '[' :: rest =>
          match skipGap rest with
          | ']' :: rest => some (.array [], rest)
          | rest => readItems fuel [] rest
      | '\x7b' :: rest =>
          match skipGap rest with
          | '\x7d' :: rest => some (.object [], rest)
          | rest => readMembers fuel [] rest
      | rest => (readNumber rest).map fun found => (.number found.1, found.2)

/-- Read the items of an array, of which there is at least one more. -/
def readItems : Nat → List Json → List Char → Option (Json × List Char)
  | 0, _, _ => none
  | fuel + 1, done, text =>
      match readValue fuel text with
      | none => none
      | some (item, rest) =>
          match skipGap rest with
          | ',' :: rest => readItems fuel (item :: done) rest
          | ']' :: rest => some (.array (item :: done).reverse, rest)
          | _ => none

/-- Read the members of an object, of which there is at least one more. -/
def readMembers : Nat → List (List StringUnit × Json) → List Char → Option (Json × List Char)
  | 0, _, _ => none
  | fuel + 1, done, text =>
      match skipGap text with
      | '"' :: rest =>
          match readString [] rest with
          | none => none
          | some (name, rest) =>
              match skipGap rest with
              | ':' :: rest =>
                  match readValue fuel rest with
                  | none => none
                  | some (value, rest) =>
                      match skipGap rest with
                      | ',' :: rest => readMembers fuel ((name, value) :: done) rest
                      | '\x7d' :: rest => some (.object ((name, value) :: done).reverse, rest)
                      | _ => none
              | _ => none
      | _ => none

end

/-- The document spelled by a text, if the whole text is one. -/
def parse? (text : String) : Option Json :=
  let characters := text.toList
  match readValue (2 * characters.length + 2) characters with
  | none => none
  | some (document, rest) => if (skipGap rest).isEmpty then some document else none

end Json

end ShaderFlow
