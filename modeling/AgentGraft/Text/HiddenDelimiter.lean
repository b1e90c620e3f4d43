import AgentGraft.Text.CharRange

/-!
# Hidden delimiters

Characters whose compatibility form (NFKC) holds one of the five delimiters of an authority, such as
the care-of sign or a full-width colon. No composition takes one of the five away again, so a text
has a hidden delimiter in its compatibility form exactly when one of its characters has.
-/

namespace AgentGraft.Text

/-- Characters outside ASCII with a `/`, `?`, `#`, `@` or `:` in their compatibility form. -/
def hiddenDelimiterRanges : CharRanges := [
  (0x2047, 0x2049), (0x2100, 0x2101), (0x2105, 0x2106), (0x2A74, 0x2A74), (0xFE13, 0xFE13),
  (0xFE16, 0xFE16), (0xFE55, 0xFE56), (0xFE5F, 0xFE5F), (0xFE6B, 0xFE6B), (0xFF03, 0xFF03),
  (0xFF0F, 0xFF0F), (0xFF1A, 0xFF1A), (0xFF1F, 0xFF20)]

/-- The compatibility form of the character brings in a delimiter. -/
def hidesDelimiter (c : Char) : Bool := hiddenDelimiterRanges.has c

end AgentGraft.Text
