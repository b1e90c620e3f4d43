import AgentGraft.Manifest.Pod

/-!
# Patches

What carries a mutation to the cluster: operations that set a member of a document. A patch of a pod
sets whole lists of its specification, and only those that differ; differences in the order of
members do not count.

An operation can be applied when the object that it sets a member of is there. It sets nothing else.
-/

namespace AgentGraft

/-! ### Operations -/

/-- An operation: a member of an object in a document gets a value. -/
structure Operation where
  /-- The keys from the root to the object. -/
  parent : List String
  /-- The key of the member. -/
  key : String
  value : Value
  deriving DecidableEq

namespace Operation

/-- A key as a step of a pointer. -/
def escapeKey (key : String) : String :=
  String.ofList (key.toList.flatMap fun c =>
    if c = '~' then ['~', '0'] else if c = '/' then ['~', '1'] else [c])

/-- The pointer to the member. -/
def pointer (o : Operation) : String :=
  String.join ((o.parent ++ [o.key]).map fun key => "/" ++ escapeKey key)

/-- An operation as a value. -/
def dump (o : Operation) : Value :=
  .obj [("op", .str "add"), ("path", .str o.pointer), ("value", o.value)]

/-- The document with a member set in the object that a path leads to; none when the path leads
nowhere. -/
def set? (key : String) (v : Value) : List String → Value → Option Value
  | [], .obj ms => some (.obj (Members.put key v ms))
  | step :: steps, .obj ms =>
    match Members.find? step ms with
    | none => none
    | some inner => (set? key v steps inner).map fun inner => .obj (Members.put step inner ms)
  | _, _ => none

/-- The document after an operation; none when it cannot be applied. -/
def applied (o : Operation) (document : Value) : Option Value :=
  set? o.key o.value o.parent document

end Operation

/-! ### Patches of pods -/

/-- A list in the specification of a pod. -/
inductive SpecList where
  | containers
  | initContainers
  | volumes
  deriving DecidableEq, Repr

namespace SpecList

/-- All lists, in the order in which a patch sets them. -/
def all : List SpecList := [.containers, .initContainers, .volumes]

/-- The key of the list. -/
def key : SpecList → String
  | .containers => PodSpec.containersField.name
  | .initContainers => PodSpec.initContainersField.name
  | .volumes => PodSpec.volumesField.name

/-- The list of a specification as a value. -/
def value (s : PodSpec) : SpecList → Value
  | .containers => .arr (s.containers.map Container.dump)
  | .initContainers => .arr (s.initContainers.map Container.dump)
  | .volumes => .arr (s.volumes.map Volume.dump)

end SpecList

/-- Operations, to be applied one after the other. -/
abbrev Patch := List Operation

namespace Patch

/-- The operation that sets a list where two specifications differ in it. -/
def operation? (before after : PodSpec) (l : SpecList) : Option Operation :=
  if (l.value before).alike (l.value after) then none
  else some ⟨[Pod.specField.name], l.key, l.value after⟩

/-- The patch that takes a pod to another one with other lists. -/
def between (before after : Pod) : Patch :=
  SpecList.all.filterMap (operation? before.spec after.spec)

/-- The document after a patch; none when an operation of it cannot be applied. -/
def applied : Patch → Value → Option Value
  | [], document => some document
  | o :: os, document => (o.applied document).bind (applied os)

/-- A patch as a value. -/
def dump (p : Patch) : Value := .arr (p.map Operation.dump)

end Patch

end AgentGraft
