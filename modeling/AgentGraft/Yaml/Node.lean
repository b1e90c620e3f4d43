import AgentGraft.Yaml.Tag
import AgentGraft.Yaml.Token

/-!
# Nodes of a YAML text

The tree that tokens write: scalars, sequences and mappings with their tags. A text holds at most
one document; one without any is a null. An alias stands for the node that its anchor marked before;
an alias to a collection that is still open would make the tree infinite and is kept as a mark.

Merge keys are resolved on the tree: the entries that a mapping takes over stand before its own, so
that its own win. A merge key that can not be resolved stays where it is.
-/

namespace AgentGraft.Yaml

/-- A node. -/
inductive Node where
  | scalar (tag : Tag) (text : ScalarText)
  | sequence (tag : Tag) (items : List Node)
  | mapping (tag : Tag) (entries : List (Node × Node))
  /-- An alias to a collection around it. -/
  | enclosing

namespace Node

/-- The scalar that stands where nothing is written. -/
def blank : Node := .scalar .null ⟨[], true⟩

/-! ### From tokens -/

/-- The tokens to come, and the anchors so far: a node, or none while it is open. -/
structure Reading where
  tokens : List Token
  anchors : List (List Char × Option Node)

/-- What the handles of tags stand for. -/
abbrev Handles := List (List Char × List Char)

/-- The handles that every document has. -/
def standardHandles : Handles :=
  [(['!'], ['!']), (['!', '!'], Tag.standardStart.toList)]

/-- A tag as it is written: its handle, if any, and the rest. -/
abbrev WrittenTag := Option (List Char) × List Char

/-- Why tokens cannot be taken: the fault of the text when it comes next, else their order. -/
def refusal : List Token → Fault
  | .broken f :: _ => f
  | _ => .malformed

/-- Anchor and tag in front of a node, and the tokens after them. -/
def properties : List Token → Option (List Char) × Option WrittenTag × List Token
  | .anchor a :: .tag h r :: ts => (some a, some (h, r), ts)
  | .tag h r :: .anchor a :: ts => (some a, some (h, r), ts)
  | .anchor a :: ts => (some a, none, ts)
  | .tag h r :: ts => (none, some (h, r), ts)
  | ts => (none, none, ts)

/-- The whole text of a tag; none when there is none or it is the bare exclamation mark, which says
nothing. -/
def tagText (handles : Handles) (tag : Option WrittenTag) :
    Except Fault (Option (List Char)) :=
  match tag with
  | none => .ok none
  | some (none, rest) => .ok (if rest = ['!'] then none else some rest)
  | some (some handle, rest) =>
    match handles.lookup handle with
    | none => .error .malformed
    | some start => .ok (some (start ++ rest))

/-- The bare exclamation mark is there: a quoted scalar then gets its tag like a plain one. -/
def isBareTag (tag : Option WrittenTag) : Bool := tag == some (none, ['!'])

/-- The tag of a node: the one that is written, else what the node is by itself. -/
def tagOr (text : Option (List Char)) (own : Tag) : Tag :=
  match text with
  | some cs => .ofChars cs
  | none => own

/-- A node with an anchor comes: the anchor is new and open. -/
def openAnchor (anchor : Option (List Char)) (r : Reading) : Except Fault Reading :=
  match anchor with
  | none => .ok r
  | some a =>
    if (r.anchors.lookup a).isSome then .error (refusal r.tokens)
    else .ok { r with anchors := (a, none) :: r.anchors }

/-- A node with an anchor has been read. -/
def closeAnchor (anchor : Option (List Char)) (n : Node) (r : Reading) : Reading :=
  match anchor with
  | none => r
  | some a => { r with anchors := (a, some n) :: r.anchors }

/-- The token ends a part of a block without content. -/
def endsBlockPart : Token → Bool
  | .key | .value | .blockEnd => true
  | _ => false

/-- The token ends an item of a block sequence without content. -/
def endsItem (indentless : Bool) : Token → Bool
  | .blockEntry | .blockEnd => true
  | .key | .value => indentless
  | _ => false

/-- The token ends a part between brackets without content. -/
def endsFlowPart : Token → Bool
  | .value | .flowEntry | .flowSequenceEnd | .flowMappingEnd => true
  | _ => false

/-- The tokens after the comma that stands between two parts. -/
def afterComma (first : Bool) (ts : List Token) : Except Fault (List Token) :=
  if first then .ok ts
  else match ts with
    | .flowEntry :: ts => .ok ts
    | _ => .error (refusal ts)

mutual

/-- The node here. A block collection may start here only where `block` says so, and a sequence
without an indentation of its own only as a part of a block mapping. -/
def read (handles : Handles) (block inMapping : Bool) :
    (fuel : Nat) → Reading → Except Fault (Node × Reading)
  | 0, _ => .error .malformed
  | fuel + 1, r =>
    match r.tokens with
    | .alias name :: ts =>
      match r.anchors.lookup name with
      | none => .error .malformed
      | some none => .ok (.enclosing, { r with tokens := ts })
      | some (some n) => .ok (n, { r with tokens := ts })
    | _ =>
      let (anchor, tag, ts) := properties r.tokens
      match tagText handles tag, openAnchor anchor { r with tokens := ts } with
      | .error f, _ => .error f
      | _, .error f => .error f
      | .ok text, .ok r =>
        (content handles block inMapping (anchor.isSome || tag.isSome) (isBareTag tag) text fuel
          r).map fun (n, r) => (n, closeAnchor anchor n r)
termination_by structural fuel => fuel

/-- The content of a node after its anchor and tag. -/
def content (handles : Handles) (block inMapping marked bare : Bool) (tag : Option (List Char)) :
    (fuel : Nat) → Reading → Except Fault (Node × Reading)
  | 0, _ => .error .malformed
  | fuel + 1, r =>
    match r.tokens with
    | .scalar plain text :: ts =>
      let own : Tag := if plain || bare then .ofPlain text.chars else .str
      .ok (.scalar (tagOr tag own) text, { r with tokens := ts })
    | .flowSequenceStart :: ts =>
      (flowItems handles true fuel { r with tokens := ts }).map fun (items, r) =>
        (.sequence (tagOr tag .seq) items, r)
    | .flowMappingStart :: ts =>
      (flowEntries handles true fuel { r with tokens := ts }).map fun (entries, r) =>
        (.mapping (tagOr tag .map) entries, r)
    | t :: ts =>
      match t, block with
      | .blockSequenceStart, true =>
        (items handles false fuel { r with tokens := ts }).map fun (items, r) =>
          (.sequence (tagOr tag .seq) items, r)
      | .blockMappingStart, true =>
        (entries handles fuel { r with tokens := ts }).map fun (entries, r) =>
          (.mapping (tagOr tag .map) entries, r)
      | .blockEntry, _ =>
        if inMapping then
          (items handles true fuel r).map fun (items, r) =>
            (.sequence (tagOr tag .seq) items, r)
        else if marked then .ok (.scalar (tagOr tag .null) ⟨[], true⟩, r)
        else .error .malformed
      | _, _ =>
        if marked then .ok (.scalar (tagOr tag .null) ⟨[], true⟩, r)
        else .error (refusal r.tokens)
    | [] => if marked then .ok (.scalar (tagOr tag .null) ⟨[], true⟩, r) else .error .malformed
termination_by structural fuel => fuel

/-- The part here: a node, or nothing where a token that ends the part comes. -/
def part (handles : Handles) (block inMapping : Bool) (ends : Token → Bool) :
    (fuel : Nat) → Reading → Except Fault (Node × Reading)
  | 0, _ => .error .malformed
  | fuel + 1, r =>
    match r.tokens with
    | t :: _ => if ends t then .ok (blank, r) else read handles block inMapping fuel r
    | [] => read handles block inMapping fuel r
termination_by structural fuel => fuel

/-- The items of a block sequence up to its end. -/
def items (handles : Handles) (indentless : Bool) :
    (fuel : Nat) → Reading → Except Fault (List Node × Reading)
  | 0, _ => .error .malformed
  | fuel + 1, r =>
    match r.tokens with
    | .blockEntry :: ts =>
      match part handles true false (endsItem indentless) fuel { r with tokens := ts } with
      | .error f => .error f
      | .ok (n, r) => (items handles indentless fuel r).map fun (ns, r) => (n :: ns, r)
    | ts =>
      if indentless then .ok ([], r)
      else match ts with
        | .blockEnd :: ts => .ok ([], { r with tokens := ts })
        | _ => .error (refusal ts)
termination_by structural fuel => fuel

/-- The entry after the mark of its key. -/
def entry (handles : Handles) (block : Bool) (ends : Token → Bool) :
    (fuel : Nat) → Reading → Except Fault ((Node × Node) × Reading)
  | 0, _ => .error .malformed
  | fuel + 1, r =>
    match part handles block block ends fuel r with
    | .error f => .error f
    | .ok (k, r) =>
      match r.tokens with
      | .value :: ts =>
        (part handles block block ends fuel { r with tokens := ts }).map fun (v, r) => ((k, v), r)
      | _ => .ok ((k, blank), r)
termination_by structural fuel => fuel

/-- The entries of a block mapping up to its end. -/
def entries (handles : Handles) :
    (fuel : Nat) → Reading → Except Fault (List (Node × Node) × Reading)
  | 0, _ => .error .malformed
  | fuel + 1, r =>
    match r.tokens with
    | .key :: ts =>
      match entry handles true endsBlockPart fuel { r with tokens := ts } with
      | .error f => .error f
      | .ok (e, r) => (entries handles fuel r).map fun (es, r) => (e :: es, r)
    | .blockEnd :: ts => .ok ([], { r with tokens := ts })
    | ts => .error (refusal ts)
termination_by structural fuel => fuel

/-- The items between brackets up to the closing one. An entry among them is a mapping by itself. -/
def flowItems (handles : Handles) (first : Bool) :
    (fuel : Nat) → Reading → Except Fault (List Node × Reading)
  | 0, _ => .error .malformed
  | fuel + 1, r =>
    match r.tokens with
    | .flowSequenceEnd :: ts => .ok ([], { r with tokens := ts })
    | ts =>
      match afterComma first ts with
      | .error f => .error f
      | .ok (.flowSequenceEnd :: ts) => .ok ([], { r with tokens := ts })
      | .ok (.key :: ts) =>
        match entry handles false endsFlowPart fuel { r with tokens := ts } with
        | .error f => .error f
        | .ok (e, r) =>
          (flowItems handles false fuel r).map fun (ns, r) => (.mapping .map [e] :: ns, r)
      | .ok ts =>
        match read handles false false fuel { r with tokens := ts } with
        | .error f => .error f
        | .ok (n, r) => (flowItems handles false fuel r).map fun (ns, r) => (n :: ns, r)
termination_by structural fuel => fuel

/-- The entries between braces up to the closing one. A node among them is a key without value. -/
def flowEntries (handles : Handles) (first : Bool) :
    (fuel : Nat) → Reading → Except Fault (List (Node × Node) × Reading)
  | 0, _ => .error .malformed
  | fuel + 1, r =>
    match r.tokens with
    | .flowMappingEnd :: ts => .ok ([], { r with tokens := ts })
    | ts =>
      match afterComma first ts with
      | .error f => .error f
      | .ok (.flowMappingEnd :: ts) => .ok ([], { r with tokens := ts })
      | .ok (.key :: ts) =>
        match entry handles false endsFlowPart fuel { r with tokens := ts } with
        | .error f => .error f
        | .ok (e, r) => (flowEntries handles false fuel r).map fun (es, r) => (e :: es, r)
      | .ok ts =>
        match read handles false false fuel { r with tokens := ts } with
        | .error f => .error f
        | .ok (k, r) =>
          (flowEntries handles false fuel r).map fun (es, r) => ((k, blank) :: es, r)
termination_by structural fuel => fuel

end

/-! ### Documents -/

/-- What the directives at the head of a document say so far. -/
structure Head where
  /-- The version has been given. -/
  versioned : Bool
  handles : Handles

/-- Takes the directives here: the version is 1 and given once, and so is every handle. -/
def takeDirectives (h : Head) : List Token → Except Fault (Head × List Token)
  | .directive (.version major) :: ts =>
    if h.versioned ∨ major ≠ 1 then .error .malformed
    else takeDirectives { h with versioned := true } ts
  | .directive (.handle handle start) :: ts =>
    if (h.handles.lookup handle).isSome then .error .malformed
    else takeDirectives { h with handles := (handle, start) :: h.handles } ts
  | .directive .unknown :: ts => takeDirectives h ts
  | ts => .ok (h, ts)

/-- The token starts or ends a document. -/
def isDocumentMark : Token → Bool
  | .directive _ | .documentStart | .documentEnd => true
  | _ => false

/-- The token ends a document. -/
def isDocumentEnd : Token → Bool
  | .documentEnd => true
  | _ => false

/-- The token is a directive. -/
def isDirective : Token → Bool
  | .directive _ => true
  | _ => false

/-- Nothing comes but the end of the document. -/
def nothingLeft (ts : List Token) : Except Fault Unit :=
  match ts.dropWhile isDocumentEnd with
  | [] => .ok ()
  | rest => .error (refusal (rest.dropWhile isDirective))

/-- The root here, which nothing but the end of its document may follow. -/
def root (handles : Handles) (ts : List Token) : Except Fault Node :=
  match read handles true false (5 * ts.length + 5) ⟨ts, []⟩ with
  | .error f => .error f
  | .ok (n, r) => (nothingLeft r.tokens).map fun _ => n

/-- The node that tokens write. -/
def ofTokens (ts : List Token) : Except Fault Node :=
  match ts with
  | [] => .ok blank
  | .directive _ :: _ | .documentStart :: _ =>
    match takeDirectives ⟨false, []⟩ ts with
    | .error f => .error f
    | .ok (h, .documentStart :: ts) =>
      match ts with
      | [] => .ok blank
      | t :: more =>
        if isDocumentMark t then
          (nothingLeft (t :: more)).map fun _ => blank
        else root (h.handles ++ standardHandles) (t :: more)
    | .ok (_, ts) => .error (refusal ts)
  | ts => root standardHandles ts

/-! ### Merge keys -/

/-- The node is a key that merges its value. -/
def isMergeKey : Node → Bool
  | .scalar .merge _ => true
  | _ => false

/-- The entries of a mapping. A collection around the node adds nothing to what it has already. -/
def entriesOf? : Node → Option (List (Node × Node))
  | .mapping _ es => some es
  | .enclosing => some []
  | _ => none

/-- The entries that merging the value of a key adds: those of a mapping, or those of a sequence of
mappings, the last of them first; none when the value is neither. -/
def mergedEntries? : Node → Option (List (Node × Node))
  | .sequence _ ns => (ns.mapM entriesOf?).map fun ess => ess.reverse.flatten
  | n => entriesOf? n

/-- The entries that an entry adds to the front, and what is left of it in its place. -/
def mergeEntry (e : Node × Node) : List (Node × Node) × List (Node × Node) :=
  if e.1.isMergeKey then
    match mergedEntries? e.2 with
    | some es => (es, [])
    | none => ([], [e])
  else ([], [e])

/-- Entries with their merge keys resolved. -/
def mergeEntries (es : List (Node × Node)) : List (Node × Node) :=
  let parts := es.map mergeEntry
  parts.flatMap (·.1) ++ parts.flatMap (·.2)

mutual

/-- The node with all merge keys resolved, from the leaves up. -/
def merge : Node → Node
  | .scalar tag text => .scalar tag text
  | .sequence tag ns => .sequence tag (mergeAll ns)
  | .mapping tag es => .mapping tag (mergeEntries (mergeParts es))
  | .enclosing => .enclosing
termination_by structural n => n

/-- Nodes with all merge keys resolved. -/
def mergeAll : List Node → List Node
  | [] => []
  | n :: ns => n.merge :: mergeAll ns
termination_by structural ns => ns

/-- An entry with the merge keys inside it resolved. -/
def mergePart : Node × Node → Node × Node
  | (k, v) => (k.merge, v.merge)
termination_by structural e => e

/-- Entries with the merge keys inside them resolved. -/
def mergeParts : List (Node × Node) → List (Node × Node)
  | [] => []
  | e :: es => mergePart e :: mergeParts es
termination_by structural es => es

end

end Node

/-- The node that a text writes, with its merge keys resolved. -/
def Node.ofChars (cs : List Char) : Except Fault Node :=
  (Node.ofTokens (Token.scan cs)).map Node.merge

end AgentGraft.Yaml
