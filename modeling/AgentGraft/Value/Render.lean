import AgentGraft.Number.Shortest
import AgentGraft.Value.Json

/-!
# Writing JSON text

The text of a value is pure ASCII: a comma and a space between parts, a colon and a space after a
key, and every character outside the printable ASCII range written by its UTF-16 units. Numbers with
a fraction take the shortest decimal that reads back.

An integer of more digits than are read is not written either: `render` gives the text that a value
would have, and `isWritable` says whether it may be written.
-/

namespace AgentGraft.Json

open Text

/-- Numbers are positional from a ten-thousandth up to below ten to the sixteenth, and the words for
what is no number are those that `Json.read` takes. -/
def decimalStyle : Binary64.DecimalStyle where
  leastPositional := -4
  greatestPositional := 15
  exponentDigits := 2
  nan := "NaN"
  infinity := "Infinity"

/-- A UTF-16 unit as an escape. -/
def escapeUnit (n : Nat) : List Char := '\\' :: 'u' :: hex 4 n

/-- The written form of a character inside a string. -/
def escape (c : Char) : List Char :=
  match c with
  | '"' => ['\\', '"']
  | '\\' => ['\\', '\\']
  | '\n' => ['\\', 'n']
  | '\r' => ['\\', 'r']
  | '\t' => ['\\', 't']
  | '\x08' => ['\\', 'b']
  | '\x0c' => ['\\', 'f']
  | c =>
    let n := c.toNat
    if 0x20 ≤ n ∧ n ≤ 0x7E then [c]
    else if n < 0x10000 then escapeUnit n
    else escapeUnit (0xD800 + (n - 0x10000) / 0x400) ++ escapeUnit (0xDC00 + (n - 0x10000) % 0x400)

/-- A text as a string. -/
def renderText (s : String) : String :=
  String.ofList ('"' :: s.toList.flatMap escape ++ ['"'])

mutual

/-- The text of a value. -/
def render : Value → String
  | .null => "null"
  | .bool true => "true"
  | .bool false => "false"
  | .int i => toString i
  | .float x => x.render decimalStyle
  | .str s => renderText s
  | .arr items => "[" ++ ", ".intercalate (renderItems items) ++ "]"
  | .obj members => "\x7b" ++ ", ".intercalate (renderMembers members) ++ "\x7d"
termination_by structural v => v

/-- The texts of items. -/
def renderItems : List Value → List String
  | [] => []
  | v :: vs => render v :: renderItems vs
termination_by structural vs => vs

/-- The text of a member. -/
def renderMember : String × Value → String
  | (key, v) => renderText key ++ ": " ++ render v
termination_by structural m => m

/-- The texts of members. -/
def renderMembers : List (String × Value) → List String
  | [] => []
  | m :: ms => renderMember m :: renderMembers ms
termination_by structural ms => ms

end

/-! ### What may be written -/

mutual

/-- No integer in the value has more digits than are read. -/
def isWritable : Value → Bool
  | .int i => (decimal i.natAbs).length ≤ maxDigits
  | .arr items => areWritable items
  | .obj members => membersAreWritable members
  | _ => true
termination_by structural v => v

/-- No integer in the items has more digits than are read. -/
def areWritable : List Value → Bool
  | [] => true
  | v :: vs => isWritable v && areWritable vs
termination_by structural vs => vs

/-- No integer in the member has more digits than are read. -/
def memberIsWritable : String × Value → Bool
  | (_, v) => isWritable v
termination_by structural m => m

/-- No integer in the members has more digits than are read. -/
def membersAreWritable : List (String × Value) → Bool
  | [] => true
  | m :: ms => memberIsWritable m && membersAreWritable ms
termination_by structural ms => ms

end

end AgentGraft.Json
