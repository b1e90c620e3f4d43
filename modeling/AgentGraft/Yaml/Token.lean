import AgentGraft.Yaml.Scalar

/-!
# Tokens of a YAML text

A YAML text as a row of tokens. Blocks get explicit starts and ends from the indentation. A key in
front of a colon is found out only at the colon; its token, and the start of the mapping if the key
opens one, is then put in at the place that was noted where the key began. Such a key stands on one
line and within 1024 characters.

A text that is not taken still has tokens: those before the place of the fault, without the ones
that might have turned out to be keys there, and at their end the fault.
-/

namespace AgentGraft.Yaml

open Text

/-- A directive at the head of a document. -/
inductive Directive where
  /-- The version of the format. -/
  | version (major : Nat)
  /-- What a handle of tags stands for. -/
  | handle (handle start : List Char)
  | unknown
  deriving DecidableEq

/-- A token. -/
inductive Token where
  | directive (d : Directive)
  | documentStart
  | documentEnd
  | blockSequenceStart
  | blockMappingStart
  | blockEnd
  | flowSequenceStart
  | flowSequenceEnd
  | flowMappingStart
  | flowMappingEnd
  | flowEntry
  | blockEntry
  | key
  | value
  | alias (name : List Char)
  | anchor (name : List Char)
  /-- A tag: its handle, if it has one, and the rest of it. -/
  | tag (handle : Option (List Char)) (rest : List Char)
  | scalar (plain : Bool) (text : ScalarText)
  /-- The text is not taken from here on. -/
  | broken (f : Fault)

/-- The place of a token that may turn out to be a key. -/
structure PendingKey where
  /-- The count of tokens before it. -/
  position : Nat
  /-- The block demands a key here. -/
  required : Bool
  index : Nat
  line : Nat
  column : Int

/-- What has been scanned of a text. -/
structure Scanner where
  cursor : Cursor
  tokens : Array Token
  /-- Tokens that are to be put in before the token of a number, the latest first. -/
  inserts : List (Nat × List Token)
  /-- The open brackets and braces. -/
  flowLevel : Nat
  /-- The column of the innermost block. -/
  indent : Int
  /-- The columns of the blocks around it. -/
  indents : List Int
  /-- A key may start here. -/
  keyAllowed : Bool
  /-- The possible keys, at most one for each level of brackets. -/
  pending : List (Nat × PendingKey)

namespace Scanner

/-- The scanner at the start of a text. -/
def start (cs : List Char) : Scanner :=
  ⟨.start cs, #[], [], 0, -1, [], true, []⟩

/-- The scanner is inside brackets or braces. -/
def inFlow (s : Scanner) : Bool := s.flowLevel != 0

/-- The scanner with one more token. -/
def push (s : Scanner) (t : Token) : Scanner := { s with tokens := s.tokens.push t }

/-! ### Possible keys -/

/-- Gives up the possible key of this level; a required one cannot be given up. -/
def dropPending (s : Scanner) : Except Fault Scanner :=
  match s.pending.lookup s.flowLevel with
  | none => .ok s
  | some key =>
    if key.required then .error .malformed
    else .ok { s with pending := s.pending.filter (·.1 != s.flowLevel) }

/-- A possible key is on an earlier line or too far back to be one. -/
def isStale (s : Scanner) (key : PendingKey) : Bool :=
  key.line != s.cursor.line || 1024 < s.cursor.index - key.index

/-- Gives up the possible keys that are stale. -/
def dropStale (s : Scanner) : Except Fault Scanner :=
  if s.pending.any fun p => s.isStale p.2 && p.2.required then .error .malformed
  else .ok { s with pending := s.pending.filter fun p => !s.isStale p.2 }

/-- Notes that the next token may be a key, where keys are allowed. -/
def notePending (s : Scanner) : Except Fault Scanner :=
  if s.keyAllowed then
    s.dropPending.map fun s =>
      { s with pending := (s.flowLevel,
          { position := s.tokens.size
            required := !s.inFlow && s.indent == s.cursor.column
            index := s.cursor.index
            line := s.cursor.line
            column := s.cursor.column }) :: s.pending }
  else .ok s

/-! ### Indentation -/

/-- Ends the blocks that are further in than a column. -/
def unwind (column : Int) : (fuel : Nat) → Scanner → Scanner
  | 0, s => s
  | fuel + 1, s =>
    if !s.inFlow && column < s.indent then
      unwind column fuel
        ({ s with indent := s.indents.headD (-1), indents := s.indents.drop 1 }.push .blockEnd)
    else s

/-- Ends the blocks that are further in than a column. -/
def unwindTo (column : Int) (s : Scanner) : Scanner := s.unwind column (s.indents.length + 1)

/-- The column opens a block further in. -/
def opensBlock (s : Scanner) (column : Int) : Bool := s.indent < column

/-- The scanner inside a block at a column. -/
def enter (s : Scanner) (column : Int) : Scanner :=
  { s with indents := s.indent :: s.indents, indent := column }

/-! ### Between tokens -/

/-- Passes over spaces, comments and line breaks. After a break in a block a key may start. -/
def skipToToken : (fuel : Nat) → Scanner → Scanner
  | 0, s => s
  | fuel + 1, s =>
    let k := s.cursor.skip (· = ' ')
    let k := if k.isAt '#' then k.skip (!isBreak ·) else k
    match k.lineBreak? with
    | some (_, k) =>
      skipToToken fuel { s with cursor := k, keyAllowed := s.keyAllowed || !s.inFlow }
    | none => { s with cursor := k }

/-! ### Directives -/

/-- A name from here on. -/
def scanName (k : Cursor) : Except Fault (List Char × Cursor) :=
  let (name, k) := k.span isNameChar
  if name.isEmpty then .error .malformed else .ok (name, k)

/-- A number from here on. -/
def scanNumber (k : Cursor) : Except Fault (Nat × Cursor) :=
  let (digits, k) := k.span isDigit
  if digits.isEmpty then .error .malformed else .ok (ofDigits 10 digits, k)

/-- The characters of a tag as they may stand in a text. -/
def isTagChar (c : Char) : Bool :=
  isNameChar c ||
    [';', '/', '?', ':', '@', '&', '=', '+', '$', ',', '.', '!', '~', '*', '\x27', '(', ')', '[',
     ']'].contains c

/-- Escaped octets of a tag. -/
def scanOctets : (fuel : Nat) → Cursor → Except Fault (List UInt8 × Cursor)
  | 0, k => .ok ([], k)
  | fuel + 1, k =>
    if k.isAt '%' then
      let digits := k.next.rest.take 2
      if digits.length = 2 ∧ digits.all isHexDigit then
        (scanOctets fuel (k.next.forward 2)).map fun r =>
          ((ofDigits 16 digits).toUInt8 :: r.1, r.2)
      else .error .malformed
    else .ok ([], k)

/-- The characters of a tag from here on; escapes in it are octets of UTF-8. -/
def scanTagText : (fuel : Nat) → Cursor → Except Fault (List Char × Cursor)
  | 0, k => .ok ([], k)
  | fuel + 1, k =>
    let (run, k) := k.span isTagChar
    if k.isAt '%' then
      match scanOctets (k.rest.length + 1) k with
      | .error f => .error f
      | .ok (octets, k) =>
        match Utf8.decode octets with
        | .error _ => .error .malformed
        | .ok cs => (scanTagText fuel k).map fun r => (run ++ cs ++ r.1, r.2)
    else .ok (run, k)

/-- The text of a tag from here on; it is not empty. -/
def scanTagRest (k : Cursor) : Except Fault (List Char × Cursor) :=
  match k.peek with
  | some c =>
    if isTagChar c || c = '%' then scanTagText (k.rest.length + 1) k else .error .malformed
  | none => .error .malformed

/-- The handle of a tag: an exclamation mark, or a name between two of them. -/
def scanHandle (k : Cursor) : Except Fault (List Char × Cursor) :=
  if !k.isAt '!' then .error .malformed
  else if k.next.isAt ' ' then .ok (['!'], k.next)
  else
    let (name, k) := k.next.span isNameChar
    if k.isAt '!' then .ok ('!' :: name ++ ['!'], k.next) else .error .malformed

/-- The value of a directive after its name. -/
def scanDirectiveValue (name : List Char) (k : Cursor) : Except Fault (Directive × Cursor) :=
  if name = "YAML".toList then
    match scanNumber (k.skip (· = ' ')) with
    | .error f => .error f
    | .ok (major, k) =>
      if !k.isAt '.' then .error .malformed
      else match scanNumber k.next with
        | .error f => .error f
        | .ok (_, k) => if spacesOrEnds k.peek then .ok (.version major, k) else .error .malformed
  else if name = "TAG".toList then
    match scanHandle (k.skip (· = ' ')) with
    | .error f => .error f
    | .ok (handle, k) =>
      if !k.isAt ' ' then .error .malformed
      else match scanTagRest (k.skip (· = ' ')) with
        | .error f => .error f
        | .ok (text, k) =>
          if spacesOrEnds k.peek then .ok (.handle handle text, k) else .error .malformed
  else .ok (.unknown, k.skip (!isBreak ·))

/-- The directive here. -/
def scanDirective (k : Cursor) : Except Fault (Directive × Cursor) :=
  match scanName k.next with
  | .error f => .error f
  | .ok (name, k) =>
    if !spacesOrEnds k.peek then .error .malformed
    else match scanDirectiveValue name k with
      | .error f => .error f
      | .ok (d, k) => (Scalar.ignoredLine k).map fun k => (d, k)

/-! ### Anchors and tags -/

/-- The name of an anchor or alias after its indicator. -/
def scanAnchorName (k : Cursor) : Except Fault (List Char × Cursor) :=
  match scanName k.next with
  | .error f => .error f
  | .ok (name, k) =>
    let ends := blanksOrEnds k.peek || k.peek.any fun c =>
      ['?', ':', ',', ']', '\x7d', '%', '@', '\x60'].contains c
    if ends then .ok (name, k) else .error .malformed

/-- The tag whose exclamation mark is here has a second one before the next space. -/
def hasHandle (k : Cursor) : Bool :=
  (k.next.rest.takeWhile fun c => !(c = ' ' || isBreak c)).contains '!'

/-- The tag here. -/
def scanTag (k : Cursor) : Except Fault (Token × Cursor) :=
  let finish (r : Token × Cursor) : Except Fault (Token × Cursor) :=
    if spacesOrEnds r.2.peek then .ok r else .error .malformed
  if k.next.isAt '<' then
    match scanTagRest (k.forward 2) with
    | .error f => .error f
    | .ok (text, k) => if k.isAt '>' then finish (.tag none text, k.next) else .error .malformed
  else if blanksOrEnds k.next.peek then finish (.tag none ['!'], k.next)
  else
    match (if hasHandle k then scanHandle k else .ok (['!'], k.next)) with
    | .error f => .error f
    | .ok (handle, k) =>
      match scanTagRest k with
      | .error f => .error f
      | .ok (text, k) => finish (.tag (some handle) text, k)

/-! ### Tokens -/

/-- The scanner after a token that may be a key, as far as `scan` moves the cursor. -/
def takeKeyable (s : Scanner) (keyAfter : Bool) (scan : Cursor → Except Fault (Token × Cursor)) :
    Except Fault Scanner :=
  match s.notePending with
  | .error f => .error f
  | .ok s =>
    (scan s.cursor).map fun r =>
      { s with cursor := r.2, keyAllowed := keyAfter, tokens := s.tokens.push r.1 }

/-- The scanner after the mark of a document or a directive. -/
def takeMark (s : Scanner) (t : Token) (k : Cursor) : Except Fault Scanner :=
  (s.unwindTo (-1)).dropPending.map fun s =>
    { s with cursor := k, keyAllowed := false, tokens := s.tokens.push t }

/-- The scanner after an opening bracket or brace. -/
def openFlow (s : Scanner) (t : Token) : Except Fault Scanner :=
  s.notePending.map fun s =>
    { s with
      flowLevel := s.flowLevel + 1
      keyAllowed := true
      cursor := s.cursor.next
      tokens := s.tokens.push t }

/-- The scanner after a closing bracket or brace; there must be an open one. -/
def closeFlow (s : Scanner) (t : Token) : Except Fault Scanner :=
  if s.flowLevel = 0 then .error .malformed
  else s.dropPending.map fun s =>
    { s with
      flowLevel := s.flowLevel - 1
      keyAllowed := false
      cursor := s.cursor.next
      tokens := s.tokens.push t }

/-- The scanner after an indicator that may open a block. -/
def takeIndicator (s : Scanner) (opening t : Token) (keyAfter : Bool) : Except Fault Scanner :=
  if !s.inFlow && !s.keyAllowed then .error .malformed
  else
    let s := if !s.inFlow && s.opensBlock s.cursor.column then
        (s.enter s.cursor.column).push opening
      else s
    s.dropPending.map fun s =>
      { s with keyAllowed := keyAfter, cursor := s.cursor.next, tokens := s.tokens.push t }

/-- The scanner after a colon: what was a possible key before it is a key. -/
def takeValue (s : Scanner) : Except Fault Scanner :=
  match s.pending.lookup s.flowLevel with
  | some key =>
    let opens := !s.inFlow && s.opensBlock key.column
    let added := if opens then [Token.blockMappingStart, .key] else [.key]
    let s := if opens then s.enter key.column else s
    .ok { s with
      pending := s.pending.filter (·.1 != s.flowLevel)
      inserts := (key.position, added) :: s.inserts
      keyAllowed := false
      cursor := s.cursor.next
      tokens := s.tokens.push .value }
  | none => s.takeIndicator .blockMappingStart .value !s.inFlow

/-- The scanner after a plain scalar. -/
def takePlain (s : Scanner) : Except Fault Scanner :=
  s.notePending.map fun s =>
    let p := Scalar.plain s.inFlow (s.indent + 1) s.cursor
    { s with
      cursor := p.after
      keyAllowed := p.newLine
      tokens := s.tokens.push (.scalar true ⟨p.chars, true⟩) }

/-- The scanner after a quoted scalar. -/
def takeQuoted (s : Scanner) (double : Bool) : Except Fault Scanner :=
  s.takeKeyable false fun k =>
    (Scalar.quoted double k).map fun r => (.scalar false r.1, r.2)

/-- The scanner after a block scalar. -/
def takeBlock (s : Scanner) (folded : Bool) : Except Fault Scanner :=
  match s.dropPending with
  | .error f => .error f
  | .ok s =>
    (Scalar.block folded s.indent s.cursor).map fun r =>
      { s with
        cursor := r.2
        keyAllowed := true
        tokens := s.tokens.push (.scalar false ⟨r.1, true⟩) }

/-- A plain scalar may start with this character. -/
def startsPlain (inFlow : Bool) (c : Char) (following : Option Char) : Bool :=
  if c = '-' then !blanksOrEnds following
  else if c = '?' || c = ':' then !inFlow && !blanksOrEnds following
  else
    !(blanksOrEnds (some c) ||
      [',', '[', ']', '\x7b', '\x7d', '#', '&', '*', '!', '|', '>', '\x27', '"', '%', '@',
       '\x60'].contains c)

/-- The scanner after the token that starts with this character. -/
def takeToken (s : Scanner) (c : Char) : Except Fault Scanner :=
  let k := s.cursor
  let apart := blanksOrEnds (k.peekAt 1)
  if c = '%' && k.column == 0 then
    match (s.unwindTo (-1)).dropPending with
    | .error f => .error f
    | .ok _ =>
      match scanDirective k with
      | .error f => .error f
      | .ok (d, k) => s.takeMark (.directive d) k
  else if c = '-' && k.marksDocument '-' then s.takeMark .documentStart (k.forward 3)
  else if c = '.' && k.marksDocument '.' then s.takeMark .documentEnd (k.forward 3)
  else if c = '[' then s.openFlow .flowSequenceStart
  else if c = '\x7b' then s.openFlow .flowMappingStart
  else if c = ']' then s.closeFlow .flowSequenceEnd
  else if c = '\x7d' then s.closeFlow .flowMappingEnd
  else if c = ',' then
    s.dropPending.map fun s =>
      { s with keyAllowed := true, cursor := k.next, tokens := s.tokens.push .flowEntry }
  else if c = '-' && apart then s.takeIndicator .blockSequenceStart .blockEntry true
  else if c = '?' && (s.inFlow || apart) then
    s.takeIndicator .blockMappingStart .key !s.inFlow
  else if c = ':' && (s.inFlow || apart) then s.takeValue
  else if c = '*' then
    s.takeKeyable false fun k => (scanAnchorName k).map fun r => (.alias r.1, r.2)
  else if c = '&' then
    s.takeKeyable false fun k => (scanAnchorName k).map fun r => (.anchor r.1, r.2)
  else if c = '!' then s.takeKeyable false scanTag
  else if c = '|' && !s.inFlow then s.takeBlock false
  else if c = '>' && !s.inFlow then s.takeBlock true
  else if c = '\x27' then s.takeQuoted false
  else if c = '"' then s.takeQuoted true
  else if startsPlain s.inFlow c (k.peekAt 1) then s.takePlain
  else .error .malformed

/-- The count of tokens before the first that may still turn out to be a key. -/
def settled (s : Scanner) : Nat :=
  (s.pending.filter fun p => !s.isStale p.2).foldl (fun n p => min n p.2.position) s.tokens.size

/-- The scanner at the end of a text that is not taken: settled tokens and the fault. -/
def stop (s : Scanner) (f : Fault) : Scanner :=
  let n := s.settled
  { s with
    tokens := (s.tokens.extract 0 n).push (.broken f)
    inserts := s.inserts.filter (·.1 < n) }

/-- One step: what stands between tokens, and a token. At the end of the text there is none. -/
def step (s : Scanner) : Except Fault (Scanner × Bool) :=
  match (s.skipToToken (s.cursor.rest.length + 1)).dropStale with
  | .error f => .error f
  | .ok s =>
    let s := s.unwindTo s.cursor.column
    match s.cursor.peek with
    | none => (s.unwindTo (-1)).dropPending.map fun s => (s, true)
    | some c => (s.takeToken c).map fun s => (s, false)

/-- Scans on to the end of the text or to a fault. -/
def finish : (fuel : Nat) → Scanner → Scanner
  | 0, s => s.stop .malformed
  | fuel + 1, s =>
    match s.step with
    | .error f => s.stop f
    | .ok (s, true) => s
    | .ok (s, false) => finish fuel s

end Scanner

namespace Token

/-- Insertions in ascending order with one more, which comes after those for the same place. -/
def place (insert : Nat × List Token) : List (Nat × List Token) → List (Nat × List Token)
  | [] => [insert]
  | other :: others =>
    if insert.1 < other.1 then insert :: other :: others else other :: place insert others

/-- Insertions in ascending order. -/
def ascending (inserts : List (Nat × List Token)) : List (Nat × List Token) :=
  inserts.foldl (fun placed insert => place insert placed) []

/-- Tokens from number `i` on, with those to be put in; `inserts` is in ascending order. -/
def splice (i : Nat) (tokens : List Token) (inserts : List (Nat × List Token)) : List Token :=
  match tokens with
  | [] => inserts.flatMap (·.2)
  | t :: ts =>
    let here := inserts.takeWhile (·.1 ≤ i)
    here.flatMap (·.2) ++ t :: splice (i + 1) ts (inserts.drop here.length)

/-- The tokens of a text. A byte order mark at its start is passed over. -/
def scan (cs : List Char) : List Token :=
  if !cs.all allowedRanges.has then [.broken .malformed]
  else
    let s := Scanner.start cs
    let s := if s.cursor.isAt '\uFEFF' then { s with cursor := s.cursor.next } else s
    let s := s.finish (2 * cs.length + 2)
    splice 0 s.tokens.toList (ascending s.inserts)

end Token

end AgentGraft.Yaml
