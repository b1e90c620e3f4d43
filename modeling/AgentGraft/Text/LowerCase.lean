import AgentGraft.Text.CaseTable

/-!
# Lower-casing

The full lower-case form of a text. It differs from a character-by-character map in two places: the
dotted capital I becomes two characters, and a capital sigma at the end of a word becomes the final
sigma. A sigma is final when a cased letter stands before it and none after it, where characters
that case ignores (marks, apostrophes, dots) are passed over on both sides.
-/

namespace AgentGraft.Text

/-- The lower-case form of a code point by the simple mapping; itself when it has none. -/
def lowerCode (n : Nat) : Nat :=
  match lowerRuns.find? fun r =>
      r.1 ≤ n && n ≤ r.2.1 && (n - r.1) % r.2.2.1 == 0 with
  | some r => r.2.2.2 + (n - r.1)
  | none => n

/-- The lower-case form of an ASCII character. -/
def lowerAscii (c : Char) : Char :=
  if 'A' ≤ c ∧ c ≤ 'Z' then Char.ofNat (c.toNat + 32) else c

/-- The lower-case form of a character by itself. -/
def lowerChar (c : Char) : List Char :=
  if isAscii c then [lowerAscii c]
  else if c = '\u0130' then ['i', '\u0307']
  else [Char.ofNat (lowerCode c.toNat)]

/-- The nearest character that case does not ignore is a cased letter. -/
def nextIsCased (cs : List Char) : Bool :=
  match cs.dropWhile caseIgnorableRanges.has with
  | [] => false
  | c :: _ => casedRanges.has c

/-- Lower-casing of what follows `before`, which is given backwards. -/
def lowerAfter (before : List Char) : List Char → List Char
  | [] => []
  | c :: cs =>
    let form :=
      if c = '\u03A3' then
        [if nextIsCased before && !nextIsCased cs then '\u03C2' else '\u03C3']
      else lowerChar c
    form ++ lowerAfter (c :: before) cs

/-- The lower-case form of a list of characters. -/
def lowerChars (cs : List Char) : List Char := lowerAfter [] cs

/-- The lower-case form of a text. -/
def lower (s : String) : String := String.ofList (lowerChars s.toList)

end AgentGraft.Text
