import AgentGraft.Text.CharRange

/-!
# Blank characters

The characters that count as white space at the ends of a text, and the removal of them. Beside the
ASCII blanks these are the separators U+001C to U+001F, NEL and every space separator of Unicode;
the zero-width space and the byte order mark are not among them.
-/

namespace AgentGraft.Text

/-- White space, as a set of ranges. -/
def blankRanges : CharRanges :=
  [(0x9, 0xD), (0x1C, 0x20), (0x85, 0x85), (0xA0, 0xA0), (0x1680, 0x1680), (0x2000, 0x200A),
   (0x2028, 0x2029), (0x202F, 0x202F), (0x205F, 0x205F), (0x3000, 0x3000)]

/-- The character counts as white space. -/
def isBlank (c : Char) : Bool := blankRanges.has c

/-! ### Removing characters at the ends -/

/-- The list without the characters at its end that satisfy `p`. -/
def dropTrailing (p : Char → Bool) (cs : List Char) : List Char :=
  (cs.reverse.dropWhile p).reverse

/-- The list without the characters at either end that satisfy `p`. -/
def trimBoth (p : Char → Bool) (cs : List Char) : List Char :=
  dropTrailing p (cs.dropWhile p)

/-- The characters without white space at either end. -/
def stripChars (cs : List Char) : List Char := trimBoth isBlank cs

/-- The text without white space at either end. -/
def strip (s : String) : String := String.ofList (stripChars s.toList)

end AgentGraft.Text
