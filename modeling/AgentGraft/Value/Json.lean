import AgentGraft.Value
import AgentGraft.Text.Numeral

/-!
# Reading JSON text

Besides the standard the reader takes the three words for values that are no number. A repeated key
keeps its first place and its last value. A lone half of a surrogate pair, which no text can hold,
becomes the replacement character. A fault carries the position, in characters, that the text was
refused at.

The clauses consume the text from the left and hand on the rest. Their fuel is the length of the
text, which bounds the depth of a value and the count of its parts.
-/

namespace AgentGraft.Json

open Text

/-- Why a text is not JSON. -/
inductive Fault where
  /-- The text is refused where `rest` characters of it are left. -/
  | refused (rest : Nat)
  /-- An integer has more digits than are read. -/
  | tooLong
  deriving DecidableEq, Repr

/-- The characters of white space between tokens. -/
def isSpace (c : Char) : Bool := c = ' ' || c = '\t' || c = '\n' || c = '\r'

/-- The text from its first token on. -/
def skipSpace (cs : List Char) : List Char := cs.dropWhile isSpace

/-- The greatest count of digits in an integer. -/
def maxDigits : Nat := 4300

/-! ### Numbers -/

/-- The digits at the start of a text, and the rest. -/
def spanDigits (cs : List Char) : List Char × List Char :=
  (cs.takeWhile isDigit, cs.dropWhile isDigit)

/-- The digits of the whole part at the start of a text: a zero stands alone. -/
def spanWhole : List Char → List Char × List Char
  | '0' :: cs => (['0'], cs)
  | cs => spanDigits cs

/-- A fraction at the start of a text: a point and at least one digit. -/
def spanFraction : List Char → Option (List Char) × List Char
  | '.' :: cs =>
    match spanDigits cs with
    | ([], _) => (none, '.' :: cs)
    | (ds, rest) => (some ds, rest)
  | cs => (none, cs)

/-- An exponent at the start of a text: its mark, a sign or none, and at least one digit. -/
def spanExponent (cs : List Char) : Option Int × List Char :=
  match cs with
  | e :: more =>
    if e = 'e' ∨ e = 'E' then
      let (negative, ds) := match more with
        | '-' :: ds => (true, ds)
        | '+' :: ds => (false, ds)
        | ds => (false, ds)
      match spanDigits ds with
      | ([], _) => (none, cs)
      | (digits, rest) =>
        let n : Int := ofDigits 10 digits
        (some (if negative then -n else n), rest)
    else (none, cs)
  | [] => (none, [])

/-- A number at the start of a text without sign, where `start` characters are left at its first
character. -/
def number (start : Nat) (negative : Bool) (cs : List Char) : Except Fault (Value × List Char) :=
  match spanWhole cs with
  | ([], _) => .error (.refused start)
  | (whole, rest) =>
    let (fraction, rest) := spanFraction rest
    let (exponent, rest) := spanExponent rest
    match fraction, exponent with
    | none, none =>
      if maxDigits < whole.length then .error .tooLong
      else
        let n : Int := ofDigits 10 whole
        .ok (.int (if negative then -n else n), rest)
    | _, _ =>
      let digits := fraction.getD []
      .ok (.float (.ofDecimal negative (ofDigits 10 (whole ++ digits))
        (exponent.getD 0 - digits.length)), rest)

/-! ### Strings -/

/-- The character behind a single letter of an escape. -/
def escaped? : Char → Option Char
  | '"' => some '"'
  | '\\' => some '\\'
  | '/' => some '/'
  | 'b' => some '\x08'
  | 'f' => some '\x0c'
  | 'n' => some '\n'
  | 'r' => some '\r'
  | 't' => some '\t'
  | _ => none

/-- The unit that four digits in base sixteen write. -/
def unit? : List Char → Option (Nat × List Char)
  | a :: b :: c :: d :: rest =>
    if [a, b, c, d].all isHexDigit then some (ofDigits 16 [a, b, c, d], rest) else none
  | _ => none

/-- The first unit of a surrogate pair. -/
def isHighUnit (n : Nat) : Bool := 0xD800 ≤ n && n < 0xDC00

/-- The second unit of a surrogate pair. -/
def isLowUnit (n : Nat) : Bool := 0xDC00 ≤ n && n < 0xE000

/-- The character of one unit. -/
def unitChar (n : Nat) : Char :=
  if isHighUnit n || isLowUnit n then '\uFFFD' else Char.ofNat n

/-- The character after the letter of a numeric escape: two escapes that write a pair are one. -/
def unitEscape? (cs : List Char) : Option (Char × List Char) :=
  match unit? cs with
  | none => none
  | some (n, rest) =>
    if isHighUnit n then
      match rest with
      | '\\' :: 'u' :: more =>
        match unit? more with
        | some (m, after) =>
          if isLowUnit m then
            some (Char.ofNat (0x10000 + (n - 0xD800) * 0x400 + (m - 0xDC00)), after)
          else some (unitChar n, rest)
        | none => some (unitChar n, rest)
      | _ => some (unitChar n, rest)
    else some (unitChar n, rest)

/-- The characters of a string up to its closing quote, where `start` characters are left at the
opening one. -/
def string (start : Nat) : (fuel : Nat) → List Char → Except Fault (List Char × List Char)
  | 0, _ => .error (.refused start)
  | _ + 1, [] => .error (.refused start)
  | _ + 1, '"' :: cs => .ok ([], cs)
  | _ + 1, ['\\'] => .error (.refused start)
  | fuel + 1, '\\' :: 'u' :: cs =>
    match unitEscape? cs with
    | none => .error (.refused (cs.length + 1))
    | some (c, rest) => (string start fuel rest).map fun r => (c :: r.1, r.2)
  | fuel + 1, '\\' :: e :: cs =>
    match escaped? e with
    | none => .error (.refused (cs.length + 2))
    | some c => (string start fuel cs).map fun r => (c :: r.1, r.2)
  | fuel + 1, c :: cs =>
    if c.toNat < 0x20 then .error (.refused (cs.length + 1))
    else (string start fuel cs).map fun r => (c :: r.1, r.2)

/-- A string after its opening quote, as a text. -/
def text (cs : List Char) : Except Fault (String × List Char) :=
  (string (cs.length + 1) (cs.length + 1) cs).map fun r => (String.ofList r.1, r.2)

/-! ### Words -/

/-- The words that stand for a value. -/
def words : List (List Char × Value) :=
  [("null".toList, .null), ("true".toList, .bool true), ("false".toList, .bool false),
   ("NaN".toList, .float .nan), ("Infinity".toList, .float (.infinite false)),
   ("-Infinity".toList, .float (.infinite true))]

/-- A word at the start of a text. -/
def word? (cs : List Char) : Option (Value × List Char) :=
  words.findSome? fun w =>
    if w.1.isPrefixOf cs then some (w.2, cs.drop w.1.length) else none

/-! ### Values -/

mutual

/-- A value at the start of a text. -/
def value : (fuel : Nat) → List Char → Except Fault (Value × List Char)
  | 0, cs => .error (.refused cs.length)
  | _ + 1, [] => .error (.refused 0)
  | _ + 1, '"' :: cs => (text cs).map fun r => (.str r.1, r.2)
  | fuel + 1, '\x7b' :: cs =>
    match skipSpace cs with
    | '\x7d' :: rest => .ok (.obj [], rest)
    | rest => (members fuel rest).map fun r => (.obj (Members.ofList r.1), r.2)
  | fuel + 1, '[' :: cs =>
    match skipSpace cs with
    | ']' :: rest => .ok (.arr [], rest)
    | rest => (items fuel rest).map fun r => (.arr r.1, r.2)
  | _ + 1, cs =>
    match word? cs with
    | some r => .ok r
    | none =>
      match cs with
      | '-' :: more => number cs.length true more
      | _ => number cs.length false cs

/-- The items of an array from one of them on, up to the closing bracket. -/
def items : (fuel : Nat) → List Char → Except Fault (List Value × List Char)
  | 0, cs => .error (.refused cs.length)
  | fuel + 1, cs =>
    match value fuel cs with
    | .error f => .error f
    | .ok (v, rest) =>
      match skipSpace rest with
      | ']' :: after => .ok ([v], after)
      | ',' :: after => (items fuel (skipSpace after)).map fun r => (v :: r.1, r.2)
      | other => .error (.refused other.length)

/-- The members of an object from the key of one of them on, up to the closing brace. -/
def members : (fuel : Nat) → List Char → Except Fault (List (String × Value) × List Char)
  | 0, cs => .error (.refused cs.length)
  | fuel + 1, '"' :: cs =>
    match text cs with
    | .error f => .error f
    | .ok (key, rest) =>
      match skipSpace rest with
      | ':' :: after =>
        match value fuel (skipSpace after) with
        | .error f => .error f
        | .ok (v, rest) =>
          match skipSpace rest with
          | '\x7d' :: after => .ok ([(key, v)], after)
          | ',' :: after =>
            (members fuel (skipSpace after)).map fun r => ((key, v) :: r.1, r.2)
          | other => .error (.refused other.length)
      | other => .error (.refused other.length)
  | _ + 1, cs => .error (.refused cs.length)

end

/-- Why a whole text is not JSON, with a position instead of a count. -/
inductive Refusal where
  | malformed (position : Nat)
  | tooLong
  deriving DecidableEq, Repr

/-- The value that a text writes. A byte order mark at its start is passed over. -/
def read (s : String) : Except Refusal Value :=
  let cs := match s.toList with
    | '\uFEFF' :: cs => cs
    | cs => cs
  let refusal : Fault → Refusal
    | .refused rest => .malformed (cs.length - rest)
    | .tooLong => .tooLong
  match value (2 * cs.length + 2) (skipSpace cs) with
  | .error f => .error (refusal f)
  | .ok (v, rest) =>
    match skipSpace rest with
    | [] => .ok v
    | other => .error (refusal (.refused other.length))

end AgentGraft.Json
