/-!
# Sets of characters as ranges of code points

A character class is a list of ranges, both ends included. Membership is decided by a scan, so a
class can be unfolded by a proof and evaluated by `decide`.
-/

namespace AgentGraft.Text

/-- A set of code points, each range with both ends included. -/
abbrev CharRanges := List (Nat × Nat)

/-- The character lies in one of the ranges. -/
def CharRanges.has (ranges : CharRanges) (c : Char) : Bool :=
  ranges.any fun r => r.1 ≤ c.toNat && c.toNat ≤ r.2

/-- The character is one of the first 128. -/
def isAscii (c : Char) : Bool := c.toNat < 0x80

end AgentGraft.Text
