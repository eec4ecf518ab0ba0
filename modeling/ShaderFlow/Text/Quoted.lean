/-
Module: ShaderFlow.Text.Quoted
Purpose: Quoted form of a text for descriptions, with hidden characters spelled out.
Main exports: quoted
-/
import ShaderFlow.Text.Hexadecimal
import ShaderFlow.Text.Printable

namespace ShaderFlow.Text

/-- Spelling of one character inside quotes. -/
def escape (c : Char) : List Char :=
  if c = '"' then ['\\', '"']
  else if c = '\\' then ['\\', '\\']
  else if c = '\t' then ['\\', 't']
  else if c = '\r' then ['\\', 'r']
  else if c = '\n' then ['\\', 'n']
  else if c.toNat = 0 then ['\\', '0']
  else if isHidden c then ['\\', 'u', '\x7b'] ++ Hexadecimal.digits c.toNat ++ ['\x7d']
  else [c]

/-- A text between double quotes: the quote, the backslash and the common controls take a
backslash, other hidden characters are written by their code point. -/
def quoted (text : String) : String :=
  String.ofList ('"' :: text.toList.flatMap escape ++ ['"'])

end ShaderFlow.Text
