/-!
# Splitting at a separator

Three ways to take a list of characters apart at a separator: into all its parts, at the first
occurrence, and at the last.
-/

namespace AgentGraft.Text

/-- The parts between the occurrences of a separator; one part when there is none. -/
def split (sep : Char) : List Char → List (List Char)
  | [] => [[]]
  | c :: cs =>
    if c = sep then [] :: split sep cs
    else match split sep cs with
      | [] => [[c]]
      | part :: parts => (c :: part) :: parts

/-- What comes before the first separator; everything when there is none. -/
def before (sep : Char) (cs : List Char) : List Char := cs.takeWhile (· ≠ sep)

/-- What comes after the first separator; nothing when there is none. -/
def after (sep : Char) (cs : List Char) : List Char := (cs.dropWhile (· ≠ sep)).drop 1

/-- What comes after the last separator; everything when there is none. -/
def afterLast (sep : Char) (cs : List Char) : List Char :=
  (cs.reverse.takeWhile (· ≠ sep)).reverse

end AgentGraft.Text
