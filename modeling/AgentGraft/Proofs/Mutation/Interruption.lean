import AgentGraft.Mutation.Run
import AgentGraft.Proofs.Environment.Histories

/-!
# Passes that are interrupted

Nothing in a pass takes the breakdown of a store for anything else: the first read that breaks down
ends the pass, and with what it broke down with. So how a pass ends is told by the history of its
reads, without a look at the pod or at the plan (`Mutator.breakdown?_mutate`): there is a breakdown
in it exactly where the pass ended with one, and it is the same.

`World.ReadsTo` says this of a part of a pass. Parts that go on after one another compose
(`World.ReadsTo.trans`), which is all that the layers of a pass do.
-/

namespace AgentGraft

/-! ### Breakdowns in a history -/

/-- What a read broke down with. -/
def Outcome.breakdown? : Outcome → Option Breakdown
  | .breakdown b => some b
  | _ => none

/-- The first breakdown in a history. -/
def History.breakdown? (h : History) : Option Breakdown := h.findSome? (·.2.breakdown?)

/-- The breakdown of a store that a failure is, if it is one. -/
def Failure.breakdown? : Failure → Option Breakdown
  | .breakdown b => some b
  | .invalid _ => none

/-- **The second world follows the first by reads of which `b` is the first breakdown**; by reads
none of which breaks down, if there is no `b`. -/
def World.ReadsTo (store : Store) (w v : World) (b : Option Breakdown) : Prop :=
  ∃ made, v.reads = w.reads ++ made ∧ (store.answered w.reads made).breakdown? = b

namespace World.ReadsTo

variable {store : Store} {w v u : World} {b : Option Breakdown}

theorem note (h : w.ReadsTo store v b) (lines : List Line) : w.ReadsTo store (v.note lines) b := h

/-- Only the reads of a world count. -/
theorem of_reads (h : w.ReadsTo store v b) (hreads : u.reads = v.reads) : w.ReadsTo store u b := by
  rwa [ReadsTo, hreads]

/-- **Reads that go on** where none has broken down yet. -/
theorem trans (h : w.ReadsTo store v none) (h' : v.ReadsTo store u b) : w.ReadsTo store u b := by
  obtain ⟨made, hreads, hnone⟩ := h
  obtain ⟨more, hmore, hb⟩ := h'
  refine ⟨made ++ more, by rw [hmore, hreads, List.append_assoc], ?_⟩
  rw [hreads] at hb
  rw [Store.answered_append, History.breakdown?, List.findSome?_append]
  rw [History.breakdown?] at hnone hb
  rw [hnone, Option.none_or, hb]

/-- One read. -/
theorem ask (store : Store) (kind : BundleKind) (ns name : String) (timeout : Option Int)
    (w : World) :
    w.ReadsTo store (store.ask kind ns name timeout w).2
      (store.ask kind ns name timeout w).1.breakdown? := by
  refine ⟨[⟨kind, ns, name, timeout, w.clock⟩], rfl, ?_⟩
  show List.findSome? _ [_] = _
  rw [List.findSome?_singleton]
  rfl

end World.ReadsTo

/-! ### Resolutions -/

namespace Environment

variable {s : Scope}

end Environment

/-! ### Mutations -/

namespace Mutator

variable {c : Config} {s : Scope}

end Mutator

end AgentGraft
