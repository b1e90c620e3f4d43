import AgentGraft.Proofs.Mutation.Trace

/-!
# Calls of injectors

What a run makes of a pod is what its injectors make of it. A `HandOver` is a container as it is
handed to an injector, and `HandOver.outcome` is the pod after the call: the one that the injector
makes, or the pod as it is if it makes none.

**A run that ends well is the fold of its calls** (`run_cases`): the pod that comes out is the one
that came in after all hand-overs, in their order, and nothing else is done to it; this holds
whatever the injectors are. A run that fails does so at a container of the pod as the calls up to
then have left it. So the list of hand-overs, which is the trace of the run with the injectors in it
(`map_toInspection_handOvers`), says what the injectors are called with.
-/

namespace AgentGraft

/-! ### One call -/

/-- A container as it is handed to an injector. -/
structure HandOver extends Inspection where
  injector : Injector

namespace HandOver

/-- The pod after the call. -/
def outcome (c : Config) (pod : Pod) (h : HandOver) : Pod :=
  match h.injector.inject c h.spec pod h.index h.view with
  | .ok (some pod') => pod'
  | _ => pod

theorem outcome_of_eq_some {c : Config} {pod pod' : Pod} {h : HandOver}
    (hinject : h.injector.inject c h.spec pod h.index h.view = .ok (some pod')) :
    h.outcome c pod = pod' := by
  rw [outcome, hinject]

theorem outcome_of_ne_some {c : Config} {pod : Pod} {h : HandOver}
    (hinject : ∀ pod', h.injector.inject c h.spec pod h.index h.view ≠ .ok (some pod')) :
    h.outcome c pod = pod := by
  rw [outcome]
  split
  · next heq => exact absurd heq (hinject _)
  · rfl

/-- What a call leaves is the pod, or what the injector makes of it. -/
theorem outcome_cases (c : Config) (pod : Pod) (h : HandOver) :
    h.outcome c pod = pod ∨
      h.injector.inject c h.spec pod h.index h.view = .ok (some (h.outcome c pod)) := by
  by_cases hsome : ∃ pod', h.injector.inject c h.spec pod h.index h.view = .ok (some pod')
  · obtain ⟨pod', hpod'⟩ := hsome
    exact .inr (by rw [outcome_of_eq_some hpod', hpod'])
  · exact .inl (outcome_of_ne_some fun pod' hpod' ↦ hsome ⟨pod', hpod'⟩)

end HandOver

/-- What a step is meant to hand over: an injector, settings, and the number of a container. -/
def Visit.handed? : Visit → Option (Injector × JavaSpec × Nat)
  | .container injector i index => some (injector, i.spec, index)
  | _ => none

namespace Mutator

variable {c : Config} {s : Scope}

/-! ### The calls of a run -/

/-- What one step of a plan hands over: what it inspects. -/
def handOver? (s : Scope) (pod : Pod) (p : Pass) (v : Visit) : Option HandOver :=
  match v with
  | .container injector _ _ => (inspection? s pod p v).map (⟨·, injector⟩)
  | _ => none

/-- What a run hands over, up to its first failure. -/
def handOvers (c : Config) (s : Scope) : List Visit → Pod → Pass → List HandOver
  | [], _, _ => []
  | v :: vs, pod, p =>
    (handOver? s pod p v).toList ++
      match visit c s v pod p with
      | (.error _, _) => []
      | (.ok pod, p) => handOvers c s vs pod p

/-- Everything that is inspected is handed over. -/
theorem map_toInspection_handOver? (pod : Pod) (p : Pass) (v : Visit) :
    (handOver? s pod p v).map (·.toInspection) = inspection? s pod p v := by
  cases v with
  | unknownRuntime runtime => rfl
  | noSuchContainer target => rfl
  | container injector i index =>
    rw [handOver?, Option.map_map]
    exact Option.map_id'

/-- **The hand-overs of a run are its trace**, with the injectors in it. -/
theorem map_toInspection_handOvers (vs : List Visit) (pod : Pod) (p : Pass) :
    (handOvers c s vs pod p).map (·.toInspection) = inspections c s vs pod p := by
  induction vs generalizing pod p with
  | nil => rfl
  | cons v vs ih =>
    rw [handOvers, inspections, List.map_append, ← map_toInspection_handOver?, Option.toList_map]
    rcases visit c s v pod p with ⟨f | pod₁, p₁⟩
    · rfl
    · exact congrArg _ (ih pod₁ p₁)

/-- **A step**: it fails because a container has no view, and hands nothing over; or it ends with
the pod after its call, and has handed over what it is meant to, if that is there. -/
theorem visit_cases (v : Visit) (pod : Pod) (p : Pass) :
    (∃ f p', visit c s v pod p = (.error f, p') ∧ handOver? s pod p v = none ∧
      ∃ k ∈ pod.spec.containers, ∃ p₁, (Environment.resolve s k p₁).1 = .error f) ∨
    ∃ p', visit c s v pod p =
        (.ok ((handOver? s pod p v).toList.foldl (HandOver.outcome c) pod), p') ∧
      ((∀ i ∈ v.index?, i < pod.spec.containers.length) →
        (handOver? s pod p v).map (fun h ↦ (h.injector, h.spec, h.index)) = v.handed?) := by
  cases v with
  | unknownRuntime runtime => exact .inr ⟨_, rfl, fun _ ↦ rfl⟩
  | noSuchContainer target => exact .inr ⟨_, rfl, fun _ ↦ rfl⟩
  | container injector i index =>
    rcases hk : pod.spec.containers[index]? with - | k
    · -- there is no such container: nothing is handed over
      have hnone : handOver? s pod p (.container injector i index) = none := by
        simp [handOver?, inspection?, hk]
      refine .inr ⟨p, ?_, fun hrange ↦ ?_⟩
      · rw [hnone]
        exact visit_of_getElem?_eq_none hk injector i p
      · exact absurd (hrange index rfl) (Nat.not_lt.2 (List.getElem?_eq_none_iff.1 hk))
    · rw [visit, visitContainer, hk]
      dsimp only
      rcases hr : Environment.resolve s k p with ⟨f | view, p₁⟩
      · have hnone : handOver? s pod p (.container injector i index) = none := by
          simp [handOver?, inspection?, hk, hr]
        exact .inl ⟨f, p₁, rfl, hnone, k, List.mem_of_getElem? hk, p, congrArg Prod.fst hr⟩
      · set h : HandOver := ⟨⟨i.spec, index, k, view⟩, injector⟩ with hh
        have hsome : handOver? s pod p (.container injector i index) = some h := by
          simp [handOver?, inspection?, hk, hr, hh]
        refine .inr ?_
        rw [hsome, Option.toList_some, List.foldl_cons, List.foldl_nil]
        -- the three ways in which the injector can answer
        dsimp only
        rcases hinject : injector.inject c i.spec pod index view with f | - | pod'
        · rw [HandOver.outcome_of_ne_some (h := h) (by simp [hh, hinject])]
          exact ⟨_, rfl, fun _ ↦ rfl⟩
        · rw [HandOver.outcome_of_ne_some (h := h) (by simp [hh, hinject])]
          exact ⟨_, rfl, fun _ ↦ rfl⟩
        · rw [HandOver.outcome_of_eq_some (h := h) hinject]
          exact ⟨_, rfl, fun _ ↦ rfl⟩

/-- **A run is the fold of its calls**: it ends with the pod after all of them; or it fails at a
container of the pod as they have left it. -/
theorem run_cases (vs : List Visit) (pod : Pod) (p : Pass) :
    (∃ f p', run c s vs pod p = (.error f, p') ∧
      ∃ k ∈ ((handOvers c s vs pod p).foldl (HandOver.outcome c) pod).spec.containers,
        ∃ p₁, (Environment.resolve s k p₁).1 = .error f) ∨
    ∃ p', run c s vs pod p =
      (.ok ((handOvers c s vs pod p).foldl (HandOver.outcome c) pod), p') := by
  induction vs generalizing pod p with
  | nil => exact .inr ⟨p, rfl⟩
  | cons v vs ih =>
    rw [run, handOvers, List.foldl_append]
    rcases visit_cases (c := c) (s := s) v pod p with ⟨f, p', hv, hnone, hk⟩ | ⟨p', hv, -⟩
    · rw [hv, hnone]
      exact .inl ⟨f, p', rfl, hk⟩
    · rw [hv]
      exact ih _ p'

end Mutator

end AgentGraft
