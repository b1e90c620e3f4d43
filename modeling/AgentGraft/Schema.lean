import AgentGraft.Checked
import AgentGraft.Text.Blank
import AgentGraft.Text.LowerCase
import AgentGraft.Text.Numeral
import AgentGraft.Value

/-!
# Typed parts of values

Readers for the scalars, lists and maps that typed objects are made of, and for their members. A
member has a name and may have another spelling; the name wins when both are there, and the other
spelling then counts as a member of its own that nothing reads. Members that nothing reads are kept
in order, the null ones aside.

Numbers and flags may be given as text. A flag is one of a few words in any case; an integer may
have a sign, blanks around it, single underscores between digits and zeros after a point.
-/

namespace AgentGraft

/-- A reading of values as `α`. -/
abbrev Reader (α : Type) := Value → Checked α

namespace Reader

variable {α : Type}

/-! ### Scalars -/

/-- A text. -/
def text : Reader String
  | .str s => .ok s
  | _ => .fail .notText

/-- The words for a flag that is not set, in lower case. -/
def falseWords : List String := ["0", "off", "f", "false", "n", "no"]

/-- The words for a flag that is set, in lower case. -/
def trueWords : List String := ["1", "on", "t", "true", "y", "yes"]

/-- The integer fits in 64 bits with a sign. -/
def fitsWord (i : Int) : Bool := -Int.pow 2 63 ≤ i && i < Int.pow 2 63

/-- The integer strictly between the ends of the 64-bit range that a number is equal to. -/
def wordOf? (x : Binary64) : Option Int :=
  x.toInt?.filter fun i => decide (-Int.pow 2 63 < i ∧ i < Int.pow 2 63)

/-- A flag given as a whole number. -/
def flagOfInt (i : Int) : Checked Bool :=
  if i = 0 then .ok false else if i = 1 then .ok true else .fail .unreadableFlag

/-- A flag. -/
def flag : Reader Bool
  | .bool b => .ok b
  | .int i => if fitsWord i then flagOfInt i else .fail .notFlag
  | .float x =>
    match wordOf? x with
    | some i => flagOfInt i
    | none => .fail .notFlag
  | .str s =>
    let word := String.ofList (s.toList.map Text.lowerAscii)
    if falseWords.contains word then .ok false
    else if trueWords.contains word then .ok true
    else .fail .unreadableFlag
  | _ => .fail .notFlag

/-- White space around an integer: the separators U+001C to U+001F are not among it. -/
def isMargin (c : Char) : Bool :=
  Text.isBlank c && !('\x1c' ≤ c && c ≤ '\x1f')

/-- Digits with single underscores between them, the underscores left out. -/
def joinDigits? : List Char → Option (List Char)
  | [] => none
  | [c] => if Text.isDigit c then some [c] else none
  | c :: '_' :: cs => if Text.isDigit c then (joinDigits? cs).map (c :: ·) else none
  | c :: cs => if Text.isDigit c then (joinDigits? cs).map (c :: ·) else none

/-- The part before a point that only zeros, at least one, follow; the whole when there is none. -/
def dropZeroFraction (cs : List Char) : List Char :=
  match cs.dropWhile (· ≠ '.') with
  | '.' :: zeros =>
    if !zeros.isEmpty && zeros.all (· = '0') then cs.takeWhile (· ≠ '.') else cs
  | _ => cs

/-- The natural number that a text writes. -/
def natural? (cs : List Char) : Option Nat :=
  (joinDigits? (dropZeroFraction cs)).map (Text.ofDigits 10)

/-- The integer that a text without margins writes. -/
def integer? : List Char → Option Int
  | '-' :: cs => (natural? cs).map fun n => -(n : Int)
  | '+' :: cs => (natural? cs).map fun n => (n : Int)
  | cs => (natural? cs).map fun n => (n : Int)

/-- The greatest length of a text that is read as an integer. -/
def maxIntegerText : Nat := 4300

/-- An integer. -/
def integer : Reader Int
  | .int i => .ok i
  | .bool b => .ok (if b then 1 else 0)
  | .float x =>
    if !x.isFinite then .fail .notFinite
    else if x.toInt?.isNone then .fail .fractionalInteger
    else match wordOf? x with
      | some i => .ok i
      | none => .fail .oversizedInteger
  | .str s =>
    let cs := Text.trimBoth isMargin s.toList
    if maxIntegerText < cs.length then .fail .oversizedInteger
    else match integer? cs with
      | some i => .ok i
      | none => .fail .unreadableInteger
  | _ => .fail .notInteger

/-! ### Collections -/

/-- The items of a list, the first of which has number `i`. -/
def itemsFrom (read : Reader α) (i : Nat) : List Value → Checked (List α)
  | [] => .ok []
  | v :: vs => List.cons <$> (read v).under (.index i) <*> itemsFrom read (i + 1) vs

/-- A list. -/
def list (read : Reader α) : Reader (List α)
  | .arr items => itemsFrom read 0 items
  | _ => .fail .notList

/-- The values of a map. -/
def entries (read : Reader α) : Members → Checked (List (String × α))
  | [] => .ok []
  | (key, v) :: ms =>
    (fun a rest => (key, a) :: rest) <$> (read v).under (.key key) <*> entries read ms

/-- A map with values of one kind. -/
def mapOf (read : Reader α) : Reader (List (String × α))
  | .obj ms => entries read ms
  | _ => .fail .notMap

/-- A map whose values are left as they are. -/
def freeMap : Reader Members
  | .obj ms => .ok ms
  | _ => .fail .notMap

/-- A value that may be null. -/
def nullable (read : Reader α) : Reader (Option α)
  | .null => .ok none
  | v => some <$> read v

/-- An object read through its members; `refusal` is the issue when it is none. -/
def object (read : Members → Checked α) (refusal : IssueKind) : Reader α
  | .obj ms => read ms
  | _ => .fail refusal

end Reader

/-! ### Members of typed objects -/

/-- A member of a typed object. -/
structure Field where
  /-- The name it is written with. -/
  name : String
  /-- Another spelling that is read where the name is absent. -/
  other : String
  deriving DecidableEq, Repr

namespace Field

variable {α : Type}

/-- A member with one spelling. -/
def plain (name : String) : Field := ⟨name, name⟩

/-- The value of the member. -/
def find? (f : Field) (o : Members) : Option Value :=
  (o.find? f.name).or (o.find? f.other)

/-- The member is read from this key. -/
def reads (f : Field) (o : Members) (key : String) : Bool :=
  key == f.name || (key == f.other && !o.has f.name)

/-- A member that has to be there. -/
def required (f : Field) (read : Reader α) (o : Members) : Checked α :=
  match f.find? o with
  | none => .bad [⟨[.key f.name], .missing⟩]
  | some v => (read v).under (.key f.name)

/-- A member that may be absent or null. -/
def optional (f : Field) (read : Reader α) (o : Members) : Checked (Option α) :=
  match f.find? o with
  | none => .ok none
  | some v => (read.nullable v).under (.key f.name)

/-- A member that has a default when absent. -/
def orElse (f : Field) (default : α) (read : Reader α) (o : Members) : Checked α :=
  match f.find? o with
  | none => .ok default
  | some v => (read v).under (.key f.name)

/-- The member written. -/
def write (f : Field) (v : Value) : Members := [(f.name, v)]

/-- The member written when it has a value. -/
def write? (f : Field) (v : Option Value) : Members :=
  match v with
  | none => []
  | some v => f.write v

end Field

/-- The members that no field is read from, in order, the null ones left out. -/
def Members.rest (o : Members) (fields : List Field) : Members :=
  o.filter fun m => !m.2.isNull && !fields.any (·.reads o m.1)

/-- A list of texts as a value. -/
def Value.ofTexts (ss : List String) : Value := .arr (ss.map .str)

/-- A map of texts as a value. -/
def Value.ofTextMap (ms : List (String × String)) : Value :=
  .obj (ms.map fun m => (m.1, .str m.2))

end AgentGraft
