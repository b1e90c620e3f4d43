import AgentGraft.Bundle.Store

/-!
# Bundle cache

The bundles read in one pass over a pod, by kind and name: a config map and a secret may share a
name. A cache is never shared by two passes.
-/

namespace AgentGraft

/-- Contents by kind and name. -/
structure Cache where
  entries : List ((BundleKind × String) × Contents)
  deriving DecidableEq

namespace Cache

/-- The cache of a pass that has read nothing. -/
def empty : Cache := ⟨[]⟩

/-- The contents under a kind and a name. -/
def find? (c : Cache) (kind : BundleKind) (name : String) : Option Contents :=
  c.entries.lookup (kind, name)

/-- Something is there under a kind and a name. -/
def has (c : Cache) (kind : BundleKind) (name : String) : Bool := (c.find? kind name).isSome

/-- Entries with one of them set, in its place when it is there. -/
def putEntry (key : BundleKind × String) (data : Contents) :
    List ((BundleKind × String) × Contents) → List ((BundleKind × String) × Contents)
  | [] => [(key, data)]
  | e :: es => if e.1 = key then (key, data) :: es else e :: putEntry key data es

/-- The cache with contents set. -/
def put (c : Cache) (kind : BundleKind) (name : String) (data : Contents) : Cache :=
  ⟨putEntry (kind, name) data c.entries⟩

/-- The number of bundles in the cache. -/
def size (c : Cache) : Nat := c.entries.length

end Cache

end AgentGraft
