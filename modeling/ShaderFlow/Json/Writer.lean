/-
Module: ShaderFlow.Json.Writer
Purpose: Compact spelling of JSON documents.
Main exports: Json.render
-/
import ShaderFlow.Json.Basic
import ShaderFlow.Text.Hexadecimal

namespace ShaderFlow

namespace Json

/-!
Documents are written without blanks.  Inside strings the quote, the backslash and control
characters are escaped, the common controls by their letter; everything else stands for itself.
-/

/-- The escape of a code unit by its four digits. -/
def codeEscape (unit : Nat) : List Char := '\\' :: 'u' :: Hexadecimal.padded 4 unit

/-- Spelling of one unit of a string. -/
def unitText : StringUnit → List Char
  | .code unit => codeEscape unit
  | .char c =>
      if c = '"' then ['\\', '"']
      else if c = '\\' then ['\\', '\\']
      else if c = '\x08' then ['\\', 'b']
      else if c = '\x0c' then ['\\', 'f']
      else if c = '\n' then ['\\', 'n']
      else if c = '\r' then ['\\', 'r']
      else if c = '\t' then ['\\', 't']
      else if c.toNat < 0x20 then codeEscape c.toNat
      else [c]

/-- Spelling of a string. -/
def stringText (units : List StringUnit) : String :=
  String.ofList ('"' :: units.flatMap unitText ++ ['"'])

/-- Spelling of a number. -/
def numberText (n : JsonNumber) : String :=
  let sign : List Char := if n.negative then ['-'] else []
  let fraction : List Char := if n.fraction.isEmpty then [] else '.' :: n.fraction
  let exponentSign : List Char := if n.exponentNegative then ['-'] else []
  let exponent : List Char :=
    if n.exponentDigits.isEmpty then [] else 'e' :: exponentSign ++ n.exponentDigits
  String.ofList (sign ++ n.whole ++ fraction ++ exponent)

mutual

/-- Append the spelling of a document to a text. -/
def renderOnto (text : String) : Json → String
  | .null => text ++ "null"
  | .bool value => text ++ (if value then "true" else "false")
  | .number value => text ++ numberText value
  | .string units => text ++ stringText units
  | .array [] => text ++ "[]"
  | .array (item :: items) => renderItems (renderOnto (text ++ "[") item) items ++ "]"
  | .object [] => text ++ "\x7b\x7d"
  | .object ((name, value) :: members) =>
      renderMembers (renderOnto (text ++ "\x7b" ++ stringText name ++ ":") value) members ++ "\x7d"

/-- Append the spelling of the items after the first. -/
def renderItems (text : String) : List Json → String
  | [] => text
  | item :: items => renderItems (renderOnto (text ++ ",") item) items

/-- Append the spelling of the members after the first. -/
def renderMembers (text : String) : List (List StringUnit × Json) → String
  | [] => text
  | (name, value) :: members =>
      renderMembers (renderOnto (text ++ "," ++ stringText name ++ ":") value) members

end

/-- Spelling of a document. -/
def render (document : Json) : String := renderOnto "" document

end Json

end ShaderFlow
