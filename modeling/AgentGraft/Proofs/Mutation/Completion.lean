import AgentGraft.Proofs.Environment.Totality
import AgentGraft.Proofs.Mutation.Trace

/-!
# Mutations that come to an end

A run stops early for one reason only: a container whose environment cannot be resolved. Over a
store that yields texts there is none, so every mutation with accepted targets yields a pod,
whatever the injectors do (`exists_mutate_eq_ok`).
-/

namespace AgentGraft.Mutator

variable {c : Config} {s : Scope} {p : Pass}

/-- **No step fails** over a store that yields texts. -/
theorem exists_visit_eq_ok (hs : s.store.YieldsText) (hp : p.cache.IsText) (v : Visit) (pod : Pod) :
    ∃ pod' p', visit c s v pod p = (.ok pod', p') ∧ p'.cache.IsText := by
  cases v with
  | unknownRuntime runtime => exact ⟨pod, _, rfl, hp⟩
  | noSuchContainer target => exact ⟨pod, _, rfl, hp⟩
  | container injector i index =>
    rcases hk : pod.spec.containers[index]? with - | container
    · exact ⟨pod, p, visit_of_getElem?_eq_none hk injector i p, hp⟩
    · obtain ⟨view, p₁, hview, hcache⟩ := Environment.exists_resolve_eq_ok hs hp container
      rcases visit_container_cases (c := c) hk injector i p with
        ⟨f, p', hr, -⟩ | ⟨view', p₂, pod', p', hr, hvisit, -, hsame, -⟩
      · rw [hview] at hr
        cases hr
      · obtain rfl : p₁ = p₂ := congrArg Prod.snd (hview.symm.trans hr)
        exact ⟨pod', p', hvisit, hsame ▸ hcache⟩

/-- **No run fails** over a store that yields texts. -/
theorem exists_run_eq_ok (hs : s.store.YieldsText) (hp : p.cache.IsText) (vs : List Visit)
    (pod : Pod) : ∃ pod' p', run c s vs pod p = (.ok pod', p') := by
  induction vs generalizing pod p with
  | nil => exact ⟨pod, p, rfl⟩
  | cons v vs ih =>
    obtain ⟨pod₁, p₁, hfirst, hcache⟩ := exists_visit_eq_ok (c := c) hs hp v pod
    obtain ⟨pod', p', hrest⟩ := ih hcache pod₁
    exact ⟨pod', p', by rw [run, hfirst]; exact hrest⟩

section Mutation

variable {m : Mutator} {pod : Pod} {is : List Instrumentation} {ns : Option String}
  {deadline : Option Int} {w : World}

/-- A mutation of a pod that is not instrumented yet ends with a pod exactly where its run does. -/
theorem exists_mutate_eq_ok_iff (hcheck : Targets.check (Targets.listsOf is) = .ok ())
    (hfresh : Footprint.isInstrumented m.config pod = false) :
    (∃ q w', m.mutate pod is ns deadline w = (.ok q, w')) ↔
      ∃ q p', run m.config ⟨m.store, namespaceOf ns pod, deadline⟩
        (Plan.of m.config m.injectors pod.spec.containers is) pod
        (.start (w.note (Targets.lines (Targets.listsOf is)))) = (.ok q, p') := by
  have hfst : (m.mutate pod is ns deadline w).1 = _ := mutate_fst_of_accepted hcheck hfresh
  constructor
  · rintro ⟨q, w', h⟩
    rw [h] at hfst
    rcases hr : run m.config ⟨m.store, namespaceOf ns pod, deadline⟩
        (Plan.of m.config m.injectors pod.spec.containers is) pod
        (.start (w.note (Targets.lines (Targets.listsOf is)))) with ⟨f | q', p'⟩
    · rw [hr] at hfst
      cases hfst
    · exact ⟨q', p', rfl⟩
  · rintro ⟨q, p', hr⟩
    rw [hr] at hfst
    exact ⟨q, _, Prod.ext hfst rfl⟩

/-- **A mutation with accepted targets yields a pod** over a store that yields texts. -/
theorem exists_mutate_eq_ok (hs : m.store.YieldsText)
    (hcheck : Targets.check (Targets.listsOf is) = .ok ()) (pod : Pod) (ns : Option String)
    (deadline : Option Int) (w : World) : ∃ q w', m.mutate pod is ns deadline w = (.ok q, w') := by
  by_cases hfresh : Footprint.isInstrumented m.config pod = true
  · have hfst : (m.mutate pod is ns deadline w).1 = _ := mutate_fst
    simp only [hcheck, hfresh, if_true] at hfst
    exact ⟨pod, _, Prod.ext hfst rfl⟩
  · rw [Bool.not_eq_true] at hfresh
    rw [exists_mutate_eq_ok_iff hcheck hfresh]
    exact exists_run_eq_ok hs Cache.isText_empty _ _

end Mutation

end AgentGraft.Mutator
