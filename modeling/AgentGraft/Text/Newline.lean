/-!
# Line ends

Texts from files may end their lines in three ways; here all of them become a line feed.
-/

namespace AgentGraft.Text

/-- The characters with every line end as a line feed. -/
def unifyLineEnds : List Char → List Char
  | [] => []
  | '\r' :: '\n' :: cs => '\n' :: unifyLineEnds cs
  | '\r' :: cs => '\n' :: unifyLineEnds cs
  | c :: cs => c :: unifyLineEnds cs

end AgentGraft.Text
