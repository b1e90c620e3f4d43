import AgentGraft.Text.Utf8
import AgentGraft.Yaml.Cursor

/-!
# Scalars in a YAML text

The text of a scalar in each of its styles, read from a cursor that stands at its start: plain,
between quotes, and as a block. Line breaks fold: a single one becomes a space, and of several the
first is dropped.

Reading goes in rounds, each of which moves the cursor; the fuel of a reader is the length of what
is left, and running out of it cannot happen.
-/

namespace AgentGraft.Yaml

open Text

/-- The text of a scalar. It is unsound when an escape in it names half of a surrogate pair; the
replacement character stands there. -/
structure ScalarText where
  chars : List Char
  sound : Bool

/-- What is left when a line break is folded with the breaks that follow it. -/
def fold (lineBreak : Char) (breaks : List Char) : List Char :=
  if lineBreak ≠ '\n' then lineBreak :: breaks
  else if breaks.isEmpty then [' ']
  else breaks

namespace Scalar

/-! ### Plain scalars -/

/-- A plain scalar goes on with the character here. -/
def plainGoesOn (inFlow : Bool) (c : Char) (following : Option Char) : Bool :=
  if c = ' ' || c = '\t' || isBreak c then false
  else if c = ':' then
    !(blanksOrEnds following ||
      (inFlow && following.any fun d => [',', '[', ']', '\x7b', '\x7d'].contains d))
  else !(inFlow && [',', '?', '[', ']', '\x7b', '\x7d'].contains c)

/-- The characters of a plain scalar from here to the next space or end. -/
def plainRun (inFlow : Bool) : List Char → List Char
  | [] => []
  | c :: cs => if plainGoesOn inFlow c cs.head? then c :: plainRun inFlow cs else []

/-- Breaks and spaces after the first line break inside a plain scalar; none when the mark of a
document comes. -/
def plainBreaks : (fuel : Nat) → Cursor → Option (List Char × Cursor)
  | 0, k => some ([], k)
  | fuel + 1, k =>
    if k.isAt ' ' then plainBreaks fuel k.next
    else match k.lineBreak? with
      | none => some ([], k)
      | some (c, k) =>
        if k.looksLikeMark then none
        else (plainBreaks fuel k).map fun r => (c :: r.1, r.2)

/-- What stands between two runs of a plain scalar. -/
structure PlainGap where
  /-- The text of the gap; none when the scalar cannot go on. -/
  text : Option (List Char)
  /-- A line break was passed. -/
  newLine : Bool
  after : Cursor

/-- The gap from here on. -/
def plainGap (k : Cursor) : PlainGap :=
  let (spaces, k) := k.span (· = ' ')
  match k.lineBreak? with
  | none => ⟨if spaces.isEmpty then none else some spaces, false, k⟩
  | some (c, k) =>
    if k.looksLikeMark then ⟨none, true, k⟩
    else match plainBreaks (k.rest.length + 1) k with
      | none => ⟨none, true, k⟩
      | some (breaks, after) => ⟨some (fold c breaks), true, after⟩

/-- A plain scalar, the place after it, and whether it ends after a line break. -/
structure Plain where
  chars : List Char
  after : Cursor
  newLine : Bool

/-- The runs of a plain scalar from here on; `gap` is what goes before the next of them. -/
def plainRuns (inFlow : Bool) (indent : Int) (gap : List Char) (newLine : Bool) :
    (fuel : Nat) → Cursor → Plain
  | 0, k => ⟨[], k, newLine⟩
  | fuel + 1, k =>
    let run := if k.isAt '#' then [] else plainRun inFlow k.rest
    if run.isEmpty then ⟨[], k, newLine⟩
    else
      let g := plainGap (k.forward run.length)
      match g.text with
      | none => ⟨gap ++ run, g.after, g.newLine⟩
      | some text =>
        if g.after.isAt '#' || (!inFlow && g.after.column < indent) then
          ⟨gap ++ run, g.after, g.newLine⟩
        else
          let more := plainRuns inFlow indent text g.newLine fuel g.after
          { more with chars := gap ++ run ++ more.chars }

/-- The plain scalar here. -/
def plain (inFlow : Bool) (indent : Int) (k : Cursor) : Plain :=
  plainRuns inFlow indent [] false (k.rest.length + 1) k

/-! ### Quoted scalars -/

/-- Breaks inside a quoted scalar, with the blanks around them dropped. A mark of a document must
not come. -/
def quotedBreaks : (fuel : Nat) → Cursor → Except Fault (List Char × Cursor)
  | 0, k => .ok ([], k)
  | fuel + 1, k =>
    if k.looksLikeMark then .error .malformed
    else
      let k := k.skip fun c => c = ' ' || c = '\t'
      match k.lineBreak? with
      | none => .ok ([], k)
      | some (c, k) => (quotedBreaks fuel k).map fun r => (c :: r.1, r.2)

/-- The blanks and breaks from here on inside a quoted scalar. -/
def quotedSpaces (k : Cursor) : Except Fault (List Char × Cursor) :=
  let (blanks, k) := k.span fun c => c = ' ' || c = '\t'
  match k.peek with
  | none => .error .malformed
  | some _ =>
    match k.lineBreak? with
    | none => .ok (blanks, k)
    | some (c, k) =>
      (quotedBreaks (k.rest.length + 1) k).map fun r => (fold c r.1, r.2)

/-- The character behind a single letter of an escape. -/
def escaped? : Char → Option Char
  | '0' => some '\x00'
  | 'a' => some '\x07'
  | 'b' => some '\x08'
  | 't' => some '\t'
  | '\t' => some '\t'
  | 'n' => some '\n'
  | 'v' => some '\x0b'
  | 'f' => some '\x0c'
  | 'r' => some '\r'
  | 'e' => some '\x1b'
  | ' ' => some ' '
  | '"' => some '"'
  | '\\' => some '\\'
  | '/' => some '/'
  | 'N' => some '\x85'
  | '_' => some '\xa0'
  | 'L' => some '\u2028'
  | 'P' => some '\u2029'
  | _ => none

/-- The count of digits after the letter of a numeric escape. -/
def escapeWidth? : Char → Option Nat
  | 'x' => some 2
  | 'u' => some 4
  | 'U' => some 8
  | _ => none

/-- The character of a code point, and whether there is one. -/
def codePoint (n : Nat) : Except Fault (Char × Bool) :=
  if 0x7FFFFFFF < n then .error .hugeEscape
  else if 0x10FFFF < n then .error (.unreadable "chr() arg not in range(0x110000)")
  else if 0xD800 ≤ n ∧ n < 0xE000 then .ok ('\uFFFD', false)
  else .ok (Char.ofNat n, true)

/-- The escape after a backslash: its text, whether it is sound, and the place after it. -/
def escape (k : Cursor) : Except Fault (ScalarText × Cursor) :=
  match k.peek with
  | none => .error .malformed
  | some c =>
    match escaped? c, escapeWidth? c with
    | some d, _ => .ok (⟨[d], true⟩, k.next)
    | none, some width =>
      let digits := k.next.rest.take width
      if digits.length = width ∧ digits.all isHexDigit then
        (codePoint (ofDigits 16 digits)).map fun r =>
          (⟨[r.1], r.2⟩, k.next.forward width)
      else .error .malformed
    | none, none =>
      match k.lineBreak? with
      | some (_, k) =>
        (quotedBreaks (k.rest.length + 1) k).map fun r => (⟨r.1, true⟩, r.2)
      | none => .error .malformed

/-- The character stands for itself between quotes of either style. -/
def isQuotedChar (c : Char) : Bool :=
  !(c = '\x27' || c = '"' || c = '\\' || c = ' ' || c = '\t' || isBreak c)

/-- The text of a quoted scalar up to its closing quote. -/
def quotedRuns (double : Bool) : (fuel : Nat) → Cursor → Except Fault (ScalarText × Cursor)
  | 0, _ => .error .malformed
  | fuel + 1, k =>
    let add (t : ScalarText) (r : ScalarText × Cursor) : ScalarText × Cursor :=
      (⟨t.chars ++ r.1.chars, t.sound && r.1.sound⟩, r.2)
    let (run, k) := k.span isQuotedChar
    match k.peek with
    | none => .error .malformed
    | some c =>
      if c = '\x27' && !double && k.peekAt 1 == some '\x27' then
        (quotedRuns double fuel (k.forward 2)).map (add ⟨run ++ ['\x27'], true⟩)
      else if c = (if double then '"' else '\x27') then .ok (⟨run, true⟩, k.next)
      else if c = '\x27' || c = '"' || (c = '\\' && !double) then
        (quotedRuns double fuel k.next).map (add ⟨run ++ [c], true⟩)
      else if c = '\\' then
        match escape k.next with
        | .error f => .error f
        | .ok (t, k) => (quotedRuns double fuel k).map (add ⟨run ++ t.chars, t.sound⟩)
      else
        match quotedSpaces k with
        | .error f => .error f
        | .ok (spaces, k) => (quotedRuns double fuel k).map (add ⟨run ++ spaces, true⟩)

/-- The quoted scalar whose opening quote is here. -/
def quoted (double : Bool) (k : Cursor) : Except Fault (ScalarText × Cursor) :=
  quotedRuns double (k.rest.length + 1) k.next

/-! ### Block scalars -/

/-- What happens to the breaks at the end of a block scalar. -/
inductive Chomping where
  | strip
  | clip
  | keep
  deriving DecidableEq

/-- The chomping that a sign stands for. -/
def chompingOf (c : Char) : Chomping := if c = '+' then .keep else .strip

/-- The header of a block scalar after its indicator: chomping, indentation if given. -/
def header (k : Cursor) : Except Fault (Chomping × Option Nat × Cursor) :=
  let isSign (c : Char) : Bool := c = '+' || c = '-'
  let digit? (k : Cursor) : Except Fault (Option Nat × Cursor) :=
    match k.peek with
    | some c =>
      if isDigit c then
        if c = '0' then .error .malformed else .ok (some (c.toNat - 48), k.next)
      else .ok (none, k)
    | none => .ok (none, k)
  let finish (chomping : Chomping) (indent : Option Nat) (k : Cursor) :
      Except Fault (Chomping × Option Nat × Cursor) :=
    if spacesOrEnds k.peek then .ok (chomping, indent, k) else .error .malformed
  match k.peek with
  | some c =>
    if isSign c then
      match digit? k.next with
      | .error f => .error f
      | .ok (indent, k) => finish (chompingOf c) indent k
    else
      match digit? k with
      | .error f => .error f
      | .ok (none, k) => finish .clip none k
      | .ok (some n, k) =>
        match k.peek with
        | some d =>
          if isSign d then finish (chompingOf d) (some n) k.next else finish .clip (some n) k
        | none => finish .clip (some n) k
  | none => finish .clip none k

/-- The rest of a line that may hold a comment, and the break after it. -/
def ignoredLine (k : Cursor) : Except Fault Cursor :=
  let k := k.skip (· = ' ')
  let k := if k.isAt '#' then k.skip (!isBreak ·) else k
  match k.lineBreak? with
  | some (_, k) => .ok k
  | none => if k.peek.isNone then .ok k else .error .malformed

/-- The breaks before the first line of a block scalar, the greatest column of the spaces among
them, and the place after. -/
def leadingBreaks (greatest : Int) : (fuel : Nat) → Cursor → List Char × Int × Cursor
  | 0, k => ([], greatest, k)
  | fuel + 1, k =>
    if k.isAt ' ' then leadingBreaks (max greatest k.next.column) fuel k.next
    else match k.lineBreak? with
      | none => ([], greatest, k)
      | some (c, k) =>
        let r := leadingBreaks greatest fuel k
        (c :: r.1, r.2)

/-- The place after the spaces here, up to a column. -/
def skipIndent (indent : Int) : (fuel : Nat) → Cursor → Cursor
  | 0, k => k
  | fuel + 1, k =>
    if k.column < indent && k.isAt ' ' then skipIndent indent fuel k.next else k

/-- The breaks between two lines of a block scalar. -/
def blockBreaks (indent : Int) : (fuel : Nat) → Cursor → List Char × Cursor
  | 0, k => ([], k)
  | fuel + 1, k =>
    let k := skipIndent indent (k.rest.length + 1) k
    match k.lineBreak? with
    | none => ([], k)
    | some (c, k) =>
      let r := blockBreaks indent fuel k
      (c :: r.1, r.2)

/-- The lines of a block scalar from here on. Before them come `breaks`, and before those the break
`lastBreak` of the line above, which is written only at the end: between two lines it is folded. -/
def blockLines (folded : Bool) (chomping : Chomping) (indent : Int) (lastBreak : List Char) :
    (fuel : Nat) → List Char → Cursor → List Char × Cursor
  | 0, _, k => ([], k)
  | fuel + 1, breaks, k =>
    let isGap (c : Option Char) : Bool := c == some ' ' || c == some '\t'
    let tail : List Char :=
      match chomping with
      | .strip => []
      | .clip => lastBreak
      | .keep => lastBreak ++ breaks
    if k.column == indent && k.peek.isSome then
      let spaced := isGap k.peek
      let (line, k) := k.span (!isBreak ·)
      let (lineBreak, k) := match k.lineBreak? with
        | some (c, k) => ([c], k)
        | none => ([], k)
      let (more, k) := blockBreaks indent (k.rest.length + 1) k
      let joint : List Char :=
        if k.column == indent && k.peek.isSome then
          if folded && lineBreak == ['\n'] && !spaced && !isGap k.peek then
            if more.isEmpty then [' '] else []
          else lineBreak
        else []
      let r := blockLines folded chomping indent lineBreak fuel more k
      (breaks ++ line ++ joint ++ r.1, r.2)
    else (tail, k)

/-- The block scalar whose indicator is here, below a block of some indentation. -/
def block (folded : Bool) (parent : Int) (k : Cursor) : Except Fault (List Char × Cursor) :=
  match header k.next with
  | .error f => .error f
  | .ok (chomping, indent, k) =>
    match ignoredLine k with
    | .error f => .error f
    | .ok k =>
      let least := max (parent + 1) 1
      let fuel := k.rest.length + 1
      match indent with
      | none =>
        let (breaks, greatest, k) := leadingBreaks 0 fuel k
        .ok (blockLines folded chomping (max least greatest) [] fuel breaks k)
      | some n =>
        let indent := least + n - 1
        let (breaks, k) := blockBreaks indent fuel k
        .ok (blockLines folded chomping indent [] fuel breaks k)

end Scalar

end AgentGraft.Yaml
