import AgentGraft.Number.Binary64

/-!
# Free-form values

The values of documents: what the typed part of a manifest leaves open is kept as such a value. The
members of an object keep the order in which they were written. Two values are *alike* when they
differ at most in the order of members, which `normal` decides by sorting them.

Functions on values recurse through items and members by their own clauses, so they unfold in the
kernel.
-/

namespace AgentGraft

/-- A value of a document. -/
inductive Value where
  | null
  | bool (b : Bool)
  | int (i : Int)
  | float (x : Binary64)
  | str (s : String)
  | arr (items : List Value)
  | obj (members : List (String × Value))

/-- The members of an object, in order. -/
abbrev Members := List (String × Value)

namespace Value

instance : Inhabited Value := ⟨.null⟩

/-! ### Equality -/

mutual

/-- Equality of values is decided along their structure. -/
def decEq : (a b : Value) → Decidable (a = b)
  | .null, .null => isTrue rfl
  | .bool a, .bool b => if h : a = b then isTrue (h ▸ rfl) else isFalse (by simp [h])
  | .int a, .int b => if h : a = b then isTrue (h ▸ rfl) else isFalse (by simp [h])
  | .float a, .float b => if h : a = b then isTrue (h ▸ rfl) else isFalse (by simp [h])
  | .str a, .str b => if h : a = b then isTrue (h ▸ rfl) else isFalse (by simp [h])
  | .arr a, .arr b =>
    match decEqItems a b with
    | isTrue h => isTrue (h ▸ rfl)
    | isFalse h => isFalse (by simp [h])
  | .obj a, .obj b =>
    match decEqMembers a b with
    | isTrue h => isTrue (h ▸ rfl)
    | isFalse h => isFalse (by simp [h])
  | .null, .bool _ | .null, .int _ | .null, .float _ | .null, .str _ | .null, .arr _
  | .null, .obj _ | .bool _, .null | .bool _, .int _ | .bool _, .float _ | .bool _, .str _
  | .bool _, .arr _ | .bool _, .obj _ | .int _, .null | .int _, .bool _ | .int _, .float _
  | .int _, .str _ | .int _, .arr _ | .int _, .obj _ | .float _, .null | .float _, .bool _
  | .float _, .int _ | .float _, .str _ | .float _, .arr _ | .float _, .obj _ | .str _, .null
  | .str _, .bool _ | .str _, .int _ | .str _, .float _ | .str _, .arr _ | .str _, .obj _
  | .arr _, .null | .arr _, .bool _ | .arr _, .int _ | .arr _, .float _ | .arr _, .str _
  | .arr _, .obj _ | .obj _, .null | .obj _, .bool _ | .obj _, .int _ | .obj _, .float _
  | .obj _, .str _ | .obj _, .arr _ => isFalse nofun
termination_by structural a => a

/-- Equality of lists of items. -/
def decEqItems : (a b : List Value) → Decidable (a = b)
  | [], [] => isTrue rfl
  | [], _ :: _ | _ :: _, [] => isFalse nofun
  | a :: as, b :: bs =>
    match decEq a b, decEqItems as bs with
    | isTrue h, isTrue hs => isTrue (h ▸ hs ▸ rfl)
    | isFalse h, _ => isFalse (by simp [h])
    | _, isFalse h => isFalse (by simp [h])
termination_by structural a => a

/-- Equality of members. -/
def decEqMember : (a b : String × Value) → Decidable (a = b)
  | (k, a), (l, b) =>
    if h : k = l then
      match decEq a b with
      | isTrue hv => isTrue (h ▸ hv ▸ rfl)
      | isFalse hv => isFalse (by simp [hv])
    else isFalse (by simp [h])
termination_by structural a => a

/-- Equality of lists of members. -/
def decEqMembers : (a b : List (String × Value)) → Decidable (a = b)
  | [], [] => isTrue rfl
  | [], _ :: _ | _ :: _, [] => isFalse nofun
  | a :: as, b :: bs =>
    match decEqMember a b, decEqMembers as bs with
    | isTrue h, isTrue hs => isTrue (h ▸ hs ▸ rfl)
    | isFalse h, _ => isFalse (by simp [h])
    | _, isFalse h => isFalse (by simp [h])
termination_by structural a => a

end

instance : DecidableEq Value := decEq

/-! ### Likeness -/

/-- Members with one more put before the first whose key is not smaller. -/
def insertSorted (m : String × Value) : Members → Members
  | [] => [m]
  | n :: ns => if m.1 ≤ n.1 then m :: n :: ns else n :: insertSorted m ns

mutual

/-- The value with the members of every object sorted by key. -/
def normal : Value → Value
  | .arr items => .arr (normalItems items)
  | .obj members => .obj (normalMembers members)
  | v => v
termination_by structural v => v

/-- The items in normal form. -/
def normalItems : List Value → List Value
  | [] => []
  | v :: vs => v.normal :: normalItems vs
termination_by structural vs => vs

/-- A member with its value in normal form. -/
def normalMember : String × Value → String × Value
  | (key, v) => (key, v.normal)
termination_by structural m => m

/-- The members in normal form, sorted by key. -/
def normalMembers : List (String × Value) → List (String × Value)
  | [] => []
  | m :: ms => insertSorted (normalMember m) (normalMembers ms)
termination_by structural ms => ms

end

/-- The values differ at most in the order of members. -/
def alike (a b : Value) : Bool := a.normal == b.normal

/-- The value is null. -/
def isNull : Value → Bool
  | .null => true
  | _ => false

end Value

/-! ### Members of an object -/

namespace Members

/-- The value under a key. -/
def find? (key : String) (ms : Members) : Option Value := ms.lookup key

/-- A member has this key. -/
def has (key : String) (ms : Members) : Bool := ms.any (·.1 == key)

/-- The members with the value under `key` set: in its place when there is one, else at the end. -/
def put (key : String) (v : Value) : Members → Members
  | [] => [(key, v)]
  | (k, w) :: ms => if k = key then (k, v) :: ms else (k, w) :: put key v ms

/-- The members with those of `more` set, one after the other. -/
def update (ms more : Members) : Members :=
  more.foldl (fun acc m => acc.put m.1 m.2) ms

/-- Members of a list in which a key may occur again: the first place, the last value. -/
def ofList (ms : List (String × Value)) : Members := update [] ms

end Members

end AgentGraft
