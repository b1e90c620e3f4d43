import AgentGraft.Text.CharRange
import AgentGraft.Text.Newline
import AgentGraft.Text.Numeral

/-!
# Places in a YAML text

The characters that structure a YAML text, and a cursor over it that knows its line and column. The
byte order mark takes no column. Lines end with a line feed, NEL or one of the two separators; the
carriage return has been unified away before.
-/

namespace AgentGraft.Yaml

open Text

/-- Why a text is not taken. -/
inductive Fault where
  /-- It is not well-formed, or means nothing that is known. -/
  | malformed
  /-- A scalar cannot be read as what it is tagged to be. -/
  | unreadable (message : String)
  /-- A scalar tagged as a flag is none of the words for flags. -/
  | notFlag
  /-- A scalar tagged as a point in time does not have its form. -/
  | notMoment
  /-- A scalar tagged as a number has no digits. -/
  | noDigits
  /-- An escape names a code point beyond 31 bits. -/
  | hugeEscape
  deriving DecidableEq, Repr

/-- Code points that a text may hold. -/
def allowedRanges : CharRanges :=
  [(0x9, 0xA), (0xD, 0xD), (0x20, 0x7E), (0x85, 0x85), (0xA0, 0xD7FF), (0xE000, 0xFFFD),
   (0x10000, 0x10FFFF)]

/-- The character ends a line. -/
def isBreak (c : Char) : Bool := c = '\n' || c = '\x85' || c = '\u2028' || c = '\u2029'

/-- A space or the end of a line or text. -/
def spacesOrEnds : Option Char → Bool
  | none => true
  | some c => c = ' ' || isBreak c

/-- A space, a tab or the end of a line or text. -/
def blanksOrEnds : Option Char → Bool
  | none => true
  | some c => c = ' ' || c = '\t' || isBreak c

/-- The character may stand in a name of an anchor, a handle or a directive. -/
def isNameChar (c : Char) : Bool :=
  isDigit c || ('A' ≤ c && c ≤ 'Z') || ('a' ≤ c && c ≤ 'z') || c = '-' || c = '_'

/-- A place in a text. -/
structure Cursor where
  /-- The text from here on. -/
  rest : List Char
  /-- The characters before. -/
  index : Nat
  line : Nat
  column : Int

namespace Cursor

/-- The start of a text. -/
def start (cs : List Char) : Cursor := ⟨cs, 0, 0, 0⟩

/-- The character here. -/
def peek (k : Cursor) : Option Char := k.rest.head?

/-- The character some places further on. -/
def peekAt (k : Cursor) (n : Nat) : Option Char := (k.rest.drop n).head?

/-- The character here is `c`. -/
def isAt (k : Cursor) (c : Char) : Bool := k.peek == some c

/-- The place after the character here. -/
def next (k : Cursor) : Cursor :=
  match k.rest with
  | [] => k
  | c :: cs =>
    if isBreak c then ⟨cs, k.index + 1, k.line + 1, 0⟩
    else if c = '\uFEFF' then ⟨cs, k.index + 1, k.line, k.column⟩
    else ⟨cs, k.index + 1, k.line, k.column + 1⟩

/-- The place some characters further on. -/
def forward : Nat → Cursor → Cursor
  | 0, k => k
  | n + 1, k => forward n k.next

/-- The characters from here on that satisfy `p`, and the place after them. -/
def span (p : Char → Bool) (k : Cursor) : List Char × Cursor :=
  let taken := k.rest.takeWhile p
  (taken, k.forward taken.length)

/-- The place after the characters from here on that satisfy `p`. -/
def skip (p : Char → Bool) (k : Cursor) : Cursor := (k.span p).2

/-- The line break here as it counts in text, if there is one, and the place after it. -/
def lineBreak? (k : Cursor) : Option (Char × Cursor) :=
  match k.peek with
  | some c =>
    if c = '\n' ∨ c = '\x85' then some ('\n', k.next)
    else if isBreak c then some (c, k.next)
    else none
  | none => none

/-- Three equal characters here, at the start of a line, mark off a document. -/
def marksDocument (c : Char) (k : Cursor) : Bool :=
  k.column == 0 && k.rest.take 3 == [c, c, c] && blanksOrEnds (k.peekAt 3)

/-- The mark of the start or of the end of a document is here, in whatever column. -/
def looksLikeMark (k : Cursor) : Bool :=
  (k.rest.take 3 == ['-', '-', '-'] || k.rest.take 3 == ['.', '.', '.']) &&
    blanksOrEnds (k.peekAt 3)

end Cursor

end AgentGraft.Yaml
