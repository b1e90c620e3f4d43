import AgentGraft.Text.Base64
import AgentGraft.Text.Utf8
import AgentGraft.Value.Render
import AgentGraft.Yaml.Node
import AgentGraft.Yaml.Numeral

/-!
# Data of a YAML text

What the nodes of a text stand for. The keys of a mapping are scalars, so a collection as a key is a
fault. Of several faults the one nearest to the root counts, and of those the first in the text:
every collection is filled only after everything around it.

A datum is richer than a value: it can be a row of octets, a point in time or a text that is no
sequence of characters, and keys need not be texts. `toValue?` says which value it is, if it is one.
A point in time and half a surrogate pair are none, wherever they stand. Octets and sets are, at the
cost of their kind: octets become the text that they encode, and a set, which is the list of its
members here, an array.
-/

namespace AgentGraft.Yaml

open Text

/-- What a scalar stands for. -/
inductive Leaf where
  | null
  | bool (b : Bool)
  | int (i : Int)
  | float (x : Binary64)
  | text (s : String)
  | octets (bs : List UInt8)
  /-- A point in time. -/
  | moment
  /-- A text with half of a surrogate pair in it. -/
  | halfText
  deriving DecidableEq

/-- What a node stands for. -/
inductive Datum where
  | leaf (l : Leaf)
  | list (items : List Datum)
  | map (entries : List (Leaf × Datum))
  /-- The collection around it, which makes it infinite. -/
  | enclosing

/-! ### Scalars -/

namespace Leaf

/-- The text of a scalar as a leaf. -/
def ofText (t : ScalarText) : Leaf :=
  if t.sound then .text (String.ofList t.chars) else .halfText

/-- The flag behind a word. -/
def flag? (cs : List Char) : Option Bool :=
  let word := lower (String.ofList cs)
  if ["yes", "true", "on"].contains word then some true
  else if ["no", "false", "off"].contains word then some false
  else none

/-- Octets behind text in base 64; foreign characters are passed over, but must be of ASCII. -/
def octets? (cs : List Char) : Option (List UInt8) :=
  if cs.all isAscii then (Base64.decodeLenient cs).toOption else none

/-- What a scalar with a tag stands for. -/
def ofScalar (tag : Tag) (t : ScalarText) : Except Fault Leaf :=
  match tag with
  | .null => .ok .null
  | .bool =>
    match flag? t.chars with
    | some b => .ok (.bool b)
    | none => .error .notFlag
  | .int => (Numeral.integer t.chars).map .int
  | .float => (Numeral.number t.chars).map .float
  | .str => .ok (ofText t)
  | .binary =>
    match octets? t.chars with
    | some bs => .ok (.octets bs)
    | none => .error .malformed
  | .timestamp => (Moment.check t.chars).map fun _ => .moment
  | _ => .error .malformed

/-- The tag is one for scalars. -/
def takesTag : Tag → Bool
  | .null | .bool | .int | .float | .str | .binary | .timestamp => true
  | _ => false

/-- The integer that a leaf counts as among keys. -/
def asInt? : Leaf → Option Int
  | .bool b => some (if b then 1 else 0)
  | .int i => some i
  | .float x => x.toInt?
  | _ => none

/-- Two leaves are one key: equal, or equal as numbers. -/
def sameKey (a b : Leaf) : Bool :=
  match a.asInt?, b.asInt? with
  | some i, some j => i == j
  | _, _ => a == b

end Leaf

/-! ### Building -/

/-- A fault, and how many collections lie around it. -/
structure Found where
  depth : Nat
  fault : Fault
  deriving DecidableEq

/-- Two parts built side by side: of two faults the one with less around it counts, else the
first. -/
def bothBuilt {α β γ : Type} (f : α → β → γ) (a : Except Found α) (b : Except Found β) :
    Except Found γ :=
  match a, b with
  | .ok a, .ok b => .ok (f a b)
  | .error x, .ok _ => .error x
  | .ok _, .error y => .error y
  | .error x, .error y => .error (if y.depth < x.depth then y else x)

namespace Datum

/-- Entries with one more set: in its place when its key is there, else at the end. -/
def putEntry (key : Leaf) (d : Datum) : List (Leaf × Datum) → List (Leaf × Datum)
  | [] => [(key, d)]
  | e :: es => if e.1.sameKey key then (e.1, d) :: es else e :: putEntry key d es

/-- Entries in which a key may occur again: the first place, the last datum. -/
def ofEntries (es : List (Leaf × Datum)) : List (Leaf × Datum) :=
  es.foldl (fun acc e => putEntry e.1 e.2 acc) []

/-- The datum as a key. -/
def asKey (depth : Nat) : Except Found Datum → Except Found Leaf
  | .ok (.leaf l) => .ok l
  | .ok _ => .error ⟨depth, .malformed⟩
  | .error f => .error (if depth < f.depth then ⟨depth, .malformed⟩ else f)

/-- A datum from the text of a scalar. -/
def ofScalar (depth : Nat) (tag : Tag) (t : ScalarText) : Except Found Datum :=
  match Leaf.ofScalar tag t with
  | .ok l => .ok (.leaf l)
  | .error f => .error ⟨depth, f⟩

/-- Fills a collection; a fault inside it has one more collection around it. -/
def misplaced {α : Type} (depth : Nat) (tag : Tag) : Except Found α :=
  match tag with
  | .seq | .map | .set | .omap | .pairs => .error ⟨depth + 1, .malformed⟩
  | _ => .error ⟨depth, .malformed⟩

end Datum

namespace Node

/-- The node is the key of the default value of a mapping. -/
def isValueKey : Node → Bool
  | .scalar .value _ => true
  | _ => false

mutual

/-- The text of a node where a scalar is meant: a mapping stands for its default value. -/
def scalarText? : Node → Option ScalarText
  | .scalar _ t => some t
  | .mapping _ es => defaultText? es
  | _ => none
termination_by structural n => n

/-- The text of the default value among entries. -/
def defaultText? : List (Node × Node) → Option ScalarText
  | [] => none
  | e :: es => (entryText? e).getD (defaultText? es)
termination_by structural es => es

/-- The text of an entry, when it is that of the default value. -/
def entryText? : Node × Node → Option (Option ScalarText)
  | (k, v) => if k.isValueKey then some v.scalarText? else none
termination_by structural e => e

end

mutual

/-- The datum of a node with `depth` collections around it. -/
def build (depth : Nat) : Node → Except Found Datum
  | .scalar tag t =>
    if Leaf.takesTag tag then Datum.ofScalar depth tag t else Datum.misplaced depth tag
  | .sequence tag ns =>
    match tag with
    | .seq => (buildAll (depth + 1) ns).map .list
    | .omap | .pairs => (buildPairs (depth + 1) ns).map .list
    | _ => Datum.misplaced depth tag
  | .mapping tag es =>
    match tag with
    | .map =>
      if es.any fun e => e.1.isMergeKey then .error ⟨depth + 1, .malformed⟩
      else (buildEntries (depth + 1) es).map fun es => .map (Datum.ofEntries es)
    | .set =>
      if es.any fun e => e.1.isMergeKey then .error ⟨depth + 1, .malformed⟩
      else (buildEntries (depth + 1) es).map fun es =>
        .list ((Datum.ofEntries es).map fun e => .leaf e.1)
    | _ =>
      match Leaf.takesTag tag, defaultText? es with
      | true, some t => Datum.ofScalar depth tag t
      | _, _ => Datum.misplaced depth tag
  | .enclosing => .ok .enclosing
termination_by structural n => n

/-- The data of nodes. -/
def buildAll (depth : Nat) : List Node → Except Found (List Datum)
  | [] => .ok []
  | n :: ns => bothBuilt List.cons (build depth n) (buildAll depth ns)
termination_by structural ns => ns

/-- The key and the datum of an entry. -/
def buildEntry (depth : Nat) : Node × Node → Except Found (Leaf × Datum)
  | (k, v) =>
    let key := match k with
      | .scalar .value t => .ok (Leaf.ofText t)
      | _ => Datum.asKey depth (build depth k)
    bothBuilt Prod.mk key (build depth v)
termination_by structural e => e

/-- The keys and data of entries. -/
def buildEntries (depth : Nat) : List (Node × Node) → Except Found (List (Leaf × Datum))
  | [] => .ok []
  | e :: es => bothBuilt List.cons (buildEntry depth e) (buildEntries depth es)
termination_by structural es => es

/-- The pair of an entry; its first part may be anything. -/
def buildPair (depth : Nat) : Node × Node → Except Found Datum
  | (k, v) => bothBuilt (fun a b => .list [a, b]) (build depth k) (build depth v)
termination_by structural e => e

/-- The pairs of entries. -/
def buildPairEntries (depth : Nat) : List (Node × Node) → Except Found (List Datum)
  | [] => .ok []
  | e :: es => bothBuilt List.cons (buildPair depth e) (buildPairEntries depth es)
termination_by structural es => es

/-- The pairs that a node stands for: those of a mapping with one entry. -/
def buildPairNode (depth : Nat) : Node → Except Found (List Datum)
  | .mapping _ es =>
    if es.length = 1 then buildPairEntries depth es else .error ⟨depth, .malformed⟩
  | _ => .error ⟨depth, .malformed⟩
termination_by structural n => n

/-- The pairs of mappings with one entry each. -/
def buildPairs (depth : Nat) : List Node → Except Found (List Datum)
  | [] => .ok []
  | n :: ns => bothBuilt (· ++ ·) (buildPairNode depth n) (buildPairs depth ns)
termination_by structural ns => ns

end

end Node

namespace Datum

/-- The datum that a text writes. -/
def read (cs : List Char) : Except Fault Datum :=
  match Node.ofChars cs with
  | .error f => .error f
  | .ok n =>
    match n.build 0 with
    | .error f => .error f.fault
    | .ok d => .ok d

/-! ### As values -/

/-- The text of octets. -/
def textOf? (bs : List UInt8) : Option String := (Utf8.decode bs).toOption.map String.ofList

/-- The value of a leaf, if it is one. -/
def leafValue? : Leaf → Option Value
  | .null => some .null
  | .bool b => some (.bool b)
  | .int i => some (.int i)
  | .float x => some (.float x)
  | .text s => some (.str s)
  | .octets bs => (textOf? bs).map .str
  | .moment | .halfText => none

/-- The key of a member as a text: a key that is none is written as JSON writes it. -/
def keyText? (l : Leaf) : Option String :=
  (leafValue? l).map fun v => match v with
    | .str s => s
    | v => Json.render v

mutual

/-- The value of a datum, if it is one all through. -/
def toValue? : Datum → Option Value
  | .leaf l => leafValue? l
  | .list ds => (toValues? ds).map .arr
  | .map es => (toMembers? es).map fun ms => .obj (Members.ofList ms)
  | .enclosing => none
termination_by structural d => d

/-- The values of data. -/
def toValues? : List Datum → Option (List Value)
  | [] => some []
  | d :: ds =>
    match toValue? d, toValues? ds with
    | some v, some vs => some (v :: vs)
    | _, _ => none
termination_by structural ds => ds

/-- The member of an entry. -/
def toMember? : Leaf × Datum → Option (String × Value)
  | (key, d) =>
    match keyText? key, toValue? d with
    | some key, some v => some (key, v)
    | _, _ => none
termination_by structural e => e

/-- The members of entries. -/
def toMembers? : List (Leaf × Datum) → Option (List (String × Value))
  | [] => some []
  | e :: es =>
    match toMember? e, toMembers? es with
    | some m, some ms => some (m :: ms)
    | _, _ => none
termination_by structural es => es

end

/-! ### Shape -/

/-- The datum under a text among entries. -/
def under? (key : String) (es : List (Leaf × Datum)) : Option Datum := es.lookup (.text key)

/-- The key is a text. -/
def isTextKey : Leaf → Bool
  | .text _ => true
  | _ => false

/-- The key can be read as a text. -/
def isTextualKey (l : Leaf) : Bool :=
  match l with
  | .text _ => true
  | .octets bs => (textOf? bs).isSome
  | _ => false

end Datum

end AgentGraft.Yaml
