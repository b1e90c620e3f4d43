import AgentGraft.Text.Numeral
import AgentGraft.Text.PrintableTable

/-!
# Quoted text

How a text is shown inside a message: between single quotes, or between double quotes when it holds
a single quote and no double one. The quote and the backslash are escaped, line ends and tabs have
letters, and a character without a printed form is written by its code point.
-/

namespace AgentGraft.Text

/-- The character is shown as itself in quoted text. -/
def isPrintable (c : Char) : Bool := !unprintableRanges.has c

namespace Quoted

/-- The quote that a text is put between. -/
def mark (cs : List Char) : Char :=
  if cs.contains '\x27' && !cs.contains '"' then '"' else '\x27'

/-- The written form of one character between two `quote`s. -/
def escape (quote c : Char) : List Char :=
  if c = quote ∨ c = '\\' then ['\\', c]
  else if c = '\n' then ['\\', 'n']
  else if c = '\r' then ['\\', 'r']
  else if c = '\t' then ['\\', 't']
  else if isPrintable c then [c]
  else if c.toNat < 0x100 then '\\' :: 'x' :: hex 2 c.toNat
  else if c.toNat < 0x10000 then '\\' :: 'u' :: hex 4 c.toNat
  else '\\' :: 'U' :: hex 8 c.toNat

/-- The quoted form of a list of characters. -/
def encode (cs : List Char) : List Char :=
  mark cs :: cs.flatMap (escape (mark cs)) ++ [mark cs]

end Quoted

/-- The quoted form of a text. -/
def quoted (s : String) : String := String.ofList (Quoted.encode s.toList)

/-- Quoted texts, separated by a comma and a space. -/
def quotedItems (ss : List String) : String := ", ".intercalate (ss.map quoted)

/-- A list of quoted texts between square brackets. -/
def quotedList (ss : List String) : String := "[" ++ quotedItems ss ++ "]"

end AgentGraft.Text
