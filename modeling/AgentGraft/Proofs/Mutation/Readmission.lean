import Mathlib.Tactic.IntervalCases
import AgentGraft.Proofs.Mutation.Grafted

/-!
# Mutating twice

A pod that a mutation changed is recognised when it comes back, and then nothing is read and nothing
is changed. Two traces are left behind and either is enough: the init container of the agent, where
the table of init containers names it, and the marker on a container that is not the sidecar. Both
survive whatever else the mutation did, because grafting only ever adds.
-/

namespace AgentGraft

open Java (lacksAgent)

variable {c : Config} {pod : Pod} {l : List Inspection}

/-! ### What is left behind -/

/-- After any graft the agent is in the pod. -/
theorem Inspection.lacksAgent_foldl_graft (h : l ≠ []) :
    lacksAgent (l.foldl (graft c) pod) = false := by
  obtain ⟨n, l, rfl⟩ := List.exists_cons_of_ne_nil h
  have hfirst := lacksAgent_graft (c := c) n pod
  rw [List.foldl_cons, Java.lacksAgent_congr (foldl_graft_of_present hfirst).1, hfirst]

/-- The init container of the agent is a footprint where the table names it. -/
theorem isInstrumented_of_present (hc : javaInitContainerName ∈ c.runtimeInitContainers)
    (h : lacksAgent pod = false) : Footprint.isInstrumented c pod = true := by
  rw [lacksAgent, Footprint.lacksInitContainer, List.all_eq_false] at h
  obtain ⟨init, hinit, hname⟩ := h
  have heq : init.name = javaInitContainerName := by simpa using hname
  rw [Footprint.isInstrumented, Bool.or_eq_true, List.any_eq_true]
  exact .inl ⟨init, hinit, by simpa [heq] using hc⟩

/-- A container with the agent is a footprint unless it is the sidecar. -/
theorem isMarked_grafted {n : Inspection} (h : n.container.name ≠ c.sidecarName) :
    Footprint.isMarked c (n.grafted c) = true := by
  rw [Footprint.isMarked, Bool.and_eq_true, bne_iff_ne]
  exact ⟨h, Java.declares_injectEnv n.container.env⟩

/-- **A grafted pod is recognised**, by its init container or by the marker. -/
theorem isInstrumented_foldl_graft (hnd : (l.map (·.index)).Nodup)
    (hfound : ∀ n ∈ l, pod.spec.containers[n.index]? = some n.container) (hne : l ≠ [])
    (hc : javaInitContainerName ∈ c.runtimeInitContainers ∨
      ∀ n ∈ l, n.container.name ≠ c.sidecarName) :
    Footprint.isInstrumented c (l.foldl (Inspection.graft c) pod) = true := by
  rcases hc with hc | hc
  · exact isInstrumented_of_present hc (Inspection.lacksAgent_foldl_graft hne)
  · obtain ⟨n, hn⟩ := List.exists_mem_of_ne_nil l hne
    have hmem :=
      List.mem_of_getElem? (Inspection.getElem?_foldl_graft_of_mem (c := c) hnd hfound hn)
    rw [Footprint.isInstrumented, Bool.or_eq_true, List.any_eq_true, List.any_eq_true]
    exact .inr ⟨n.grafted c, hmem, isMarked_grafted (hc n hn)⟩

/-! ### The second mutation -/

section Mutation

variable {store store' : Store} {m : Pod} {is is' : List Instrumentation} {ns ns' : Option String}
  {deadline deadline' : Option Int} {w w' v : World}

/-- A pod that is instrumented already is returned as it is, with at most a few lines in the log. -/
theorem Mutator.mutate_of_isInstrumented (r : Mutator) (ns : Option String)
    (deadline : Option Int) (w : World) (hcheck : Targets.check (Targets.listsOf is) = .ok ())
    (h : Footprint.isInstrumented r.config pod = true) :
    ∃ lines, r.mutate pod is ns deadline w = (.ok pod, w.note lines) := by
  rw [Mutator.mutate]
  split
  · exact ⟨[], by simp [World.note]⟩
  · refine ⟨Targets.lines (Targets.listsOf is) ++ [instrumentedLine pod], ?_⟩
    simp [hcheck, World.note]

/-- **Mutating twice is mutating once.** A pod that a mutation changed is returned as it is by every
later one whose targets are accepted, whatever it is asked to do and whatever the store has become,
and no bundle is read. -/
theorem mutate_mutate
    (hc : javaInitContainerName ∈ c.runtimeInitContainers ∨
      ∀ (i : Nat) (old : Container), pod.spec.containers[i]? = some old →
        m.spec.containers[i]? ≠ some old → old.name ≠ c.sidecarName)
    (h : (Mutator.ofStore store c).mutate pod is ns deadline w = (.ok m, w')) (hne : m ≠ pod)
    (hcheck : Targets.check (Targets.listsOf is') = .ok ()) :
    ∃ v', (Mutator.ofStore store' c).mutate m is' ns' deadline' v = (.ok m, v') ∧
      v'.reads = v.reads ∧ v'.clock = v.clock := by
  set l := (Mutator.ofStore store c).grafts pod is ns deadline w with hl
  have hm : m = l.foldl (Inspection.graft c) pod := Mutator.eq_foldl_of_mutate_eq_ok h
  have hfound : ∀ n ∈ l, pod.spec.containers[n.index]? = some n.container :=
    fun n ↦ Mutator.getElem?_of_mem_grafts
  have hlne : l ≠ [] := fun hnil ↦ hne (by rw [hm, hnil, List.foldl_nil])
  have hdone : Footprint.isInstrumented c m = true := by
    rw [hm]
    refine isInstrumented_foldl_graft Mutator.nodup_map_index_grafts hfound hlne
      (hc.imp id fun hsidecar n hn ↦ hsidecar n.index n.container (hfound n hn) ?_)
    rw [hm, Inspection.getElem?_foldl_graft_of_mem Mutator.nodup_map_index_grafts hfound hn]
    exact fun heq ↦ Java.injectContainer_ne n.container (Option.some.inj heq)
  obtain ⟨lines, hagain⟩ :=
    (Mutator.ofStore store' c).mutate_of_isInstrumented ns' deadline' v hcheck hdone
  exact ⟨v.note lines, hagain, rfl, rfl⟩

end Mutation

/-- The configuration in which no init container counts. -/
def Sample.markerOnly : Config := { Config.standard with runtimeInitContainers := [] }

/-- Where no init container counts, the marker on the container with the agent is enough. -/
theorem mutate_mutated_sample : ∃ v',
    (Mutator.ofStore Sample.store Sample.markerOnly).mutate (Sample.mutated Sample.markerOnly)
      [Sample.instrumentation] (some "other") (some 3) (.start 7) =
        (.ok (Sample.mutated Sample.markerOnly), v') ∧ v'.reads = [] ∧ v'.clock = 7 := by
  have h : Sample.outcome Sample.markerOnly =
      (.ok (Sample.mutated Sample.markerOnly), (Sample.outcome Sample.markerOnly).2) :=
    Prod.ext (by decide +kernel) rfl
  refine mutate_mutate (.inr fun i old hold hne ↦ ?_) h (by decide +kernel) (by decide +kernel)
  have hlt : i < 3 := (List.getElem?_eq_some_iff.1 hold).1
  interval_cases i <;> cases hold
  · decide
  · decide
  -- the sidecar is not the one that changed
  · exact absurd (by decide +kernel) hne

end AgentGraft
