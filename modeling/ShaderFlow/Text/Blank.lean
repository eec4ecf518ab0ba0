/-
Module: ShaderFlow.Text.Blank
Purpose: White space as Unicode defines it, and the cuts made at it.
Main exports: isBlank, trimEnd, trimBlank, splitLines
-/

namespace ShaderFlow.Text

/-!
White space is the Unicode property `White_Space`.  It has 25 members; the zero-width space, the
byte order mark and the ASCII separators U+001C to U+001F are not among them.
-/

/-- Inclusive ranges of code points with the property `White_Space`. -/
def blankRanges : List (Nat × Nat) :=
  [(0x09, 0x0D), (0x20, 0x20), (0x85, 0x85), (0xA0, 0xA0), (0x1680, 0x1680), (0x2000, 0x200A),
    (0x2028, 0x2029), (0x202F, 0x202F), (0x205F, 0x205F), (0x3000, 0x3000)]

/-- Whether a character is white space. -/
def isBlank (c : Char) : Bool :=
  blankRanges.any fun range => range.1 ≤ c.toNat && c.toNat ≤ range.2

/-- Drop trailing characters of a class. -/
def dropEndWhile (p : Char → Bool) (text : List Char) : List Char :=
  (text.reverse.dropWhile p).reverse

/-- Drop trailing white space. -/
def trimEnd (text : List Char) : List Char := dropEndWhile isBlank text

/-- Drop white space at both ends. -/
def trimBlank (text : List Char) : List Char := trimEnd (text.dropWhile isBlank)

/-- Put a character in front of the lines of the text after it. -/
def pushFront (c : Char) (lines : List (List Char)) : List (List Char) :=
  if c = '\n' then [] :: lines
  else
    match lines with
    | [] => [[c]]
    | line :: rest => (c :: line) :: rest

/-- The lines of a text.  A line feed ends a line, so the text without characters has none, and a
final line feed opens no further line. -/
def splitLines (text : List Char) : List (List Char) := text.foldr pushFront []

@[simp] theorem splitLines_nil : splitLines [] = [] := rfl

theorem splitLines_cons (c : Char) (text : List Char) :
    splitLines (c :: text) = pushFront c (splitLines text) := rfl

end ShaderFlow.Text
