import Mathlib.Data.List.Nodup
import AgentGraft.Proofs.Mutation.Completion
import AgentGraft.Proofs.Mutation.Injections
import AgentGraft.Proofs.Mutation.Precedence

/-!
# Handing containers over

Which containers a mutation hands to which injectors. A plan looks at nothing of a pod but the names
of its containers, so as long as the injectors keep these it makes no difference when it is made:
the run in which every instrumentation looks for its containers only when its turn comes
(`Mutator.inTurn`) is the run of the plan that was made at the start.

Hence what a mutation hands over is known from the names alone, as the positions in `Mutator.sites`;
and since the pod that it yields is the one that came in after these calls and no others, this is
what the injectors were called with: `handed_over_of_mutate`.
-/

namespace AgentGraft

/-! ### Containers by name -/

/-- The names of the containers, in the order of the pod. -/
def Pod.containerNames (pod : Pod) : List String := pod.spec.containers.map (·.name)

theorem Pod.length_eq_of_containerNames {pod pod' : Pod}
    (h : pod'.containerNames = pod.containerNames) :
    pod'.spec.containers.length = pod.spec.containers.length := by
  have hlen := congrArg List.length h
  rwa [containerNames, containerNames, List.length_map, List.length_map] at hlen

/-- Another container of the same name leaves the names as they are. -/
theorem Pod.containerNames_setContainer {pod : Pod} {i : Nat} {k k' : Container}
    (hk : pod.spec.containers[i]? = some k) (hname : k'.name = k.name) :
    (Java.setContainer pod i k').containerNames = pod.containerNames := by
  obtain ⟨hlt, rfl⟩ := List.getElem?_eq_some_iff.1 hk
  have hself : (pod.spec.containers.set i pod.spec.containers[i]).map (·.name) =
      pod.containerNames := congrArg (List.map (·.name)) (List.set_getElem_self hlt)
  rw [List.map_set, ← hname] at hself
  rw [containerNames, Java.setContainer_containers, List.map_set]
  exact hself

namespace Plan

variable {c : Config} {injectors : Injectors} {containers containers' : List Container}

/-- Where the targets are found among the names of containers: each at its first place, and all
names but that of the sidecar where there are no targets. -/
def sites (c : Config) (names targets : List String) : List Nat :=
  if targets = [] then names.findIdxs (· ≠ c.sidecarName) else targets.filterMap names.idxOf?

/-- All containers but the sidecar, by name. -/
theorem indexesFrom_eq_findIdxs (i : Nat) : indexesFrom c i containers =
    (containers.map (·.name)).findIdxs (· ≠ c.sidecarName) i := by
  induction containers generalizing i with
  | nil => rfl
  | cons container containers ih =>
    rw [indexesFrom, List.map_cons, List.findIdxs_cons, ih]
    by_cases h : container.name = c.sidecarName <;> simp [h]

/-- The first container of a name, by name. -/
theorem indexOf?_eq_idxOf? (name : String) :
    indexOf? containers name = (containers.map (·.name)).idxOf? name := by
  rw [indexOf?, List.idxOf?, List.findIdx?_map]
  rfl

/-- **The containers that a target list stands for** are found by their names. -/
theorem indexes_eq_sites (list : String) : indexes c containers list =
    sites c (containers.map (·.name)) (Targets.names list) := by
  rw [indexes, sites]
  split
  · next h => rw [h, if_pos rfl, indexesFrom_eq_findIdxs]
  · next h =>
    rw [if_neg h]
    exact List.filterMap_congr fun name _ ↦ indexOf?_eq_idxOf? name

/-- A site is a place among the names. -/
theorem lt_of_mem_sites {names targets : List String} {i : Nat} (h : i ∈ sites c names targets) :
    i < names.length := by
  rw [sites] at h
  split at h
  · simpa using List.lt_add_of_mem_findIdxs i h
  · obtain ⟨name, -, hname⟩ := List.mem_filterMap.1 h
    exact (List.findIdx?_eq_some_iff_getElem.1 hname).1

/-- **Of a pod a plan looks at nothing but the names.** -/
theorem visits_congr (h : containers'.map (·.name) = containers.map (·.name))
    (i : Instrumentation) :
    visits c injectors containers' i = visits c injectors containers i := by
  have habsent : absent containers' i.spec.containers = absent containers i.spec.containers := by
    simp only [absent, indexOf?_eq_idxOf?, h]
  rw [visits, visits, habsent, indexes_eq_sites, indexes_eq_sites, h]

end Plan

/-! ### Injectors that keep names -/

/-- The injector leaves the containers of the pod their number and their names. -/
def Injector.KeepsNames (injector : Injector) : Prop :=
  ∀ c spec pod index view pod', injector.inject c spec pod index view = .ok (some pod') →
    pod'.containerNames = pod.containerNames

/-- All injectors that a runtime can lead to keep names. -/
def Injectors.KeepNames (injectors : Injectors) : Prop :=
  ∀ runtime injector, injectors.lookup runtime = some injector → injector.KeepsNames

/-- The step has an injector that keeps names, or none. -/
def Visit.KeepsNames : Visit → Prop
  | .container injector _ _ => injector.KeepsNames
  | _ => True

/-- The injectors of a plan are registered. -/
theorem Plan.keepsNames_of_mem_visits {c : Config} {injectors : Injectors}
    {containers : List Container} (h : injectors.KeepNames) (i : Instrumentation) :
    ∀ v ∈ visits c injectors containers i, v.KeepsNames := by
  intro v hv
  cases v with
  | container injector j index =>
    have hmem : .container injector j index ∈ Plan.of c injectors containers [i] := by
      rwa [Plan.of, List.flatMap_singleton]
    exact h _ _ (container_mem_iff.1 hmem).2.1
  | _ => trivial

/-- The steps of an instrumentation hand its containers to the injector of its runtime. -/
theorem Plan.filterMap_handed?_visits {c : Config} {injectors : Injectors}
    {containers : List Container} (i : Instrumentation) :
    (visits c injectors containers i).filterMap Visit.handed? =
      (injectors.lookup i.runtime).toList.flatMap fun injector ↦
        (indexes c containers i.spec.containers).map (injector, i.spec, ·) := by
  rw [visits]
  rcases injectors.lookup i.runtime with - | injector
  · rfl
  · have habsent : (absent containers i.spec.containers).filterMap
        (Visit.handed? ∘ Visit.noSuchContainer) = [] := List.filterMap_eq_nil_iff.2 fun _ _ ↦ rfl
    have hpresent : Visit.handed? ∘ (Visit.container injector i ·) =
        some ∘ fun index ↦ (injector, i.spec, index) := rfl
    rw [List.filterMap_append, List.filterMap_map, List.filterMap_map, habsent, hpresent,
      List.filterMap_eq_map, Option.toList_some, List.flatMap_singleton, List.nil_append]

/-- **The Java agent renames nothing.** -/
theorem Java.keepsNames_injector : Java.injector.KeepsNames := by
  intro c spec pod index view pod' h
  obtain ⟨container, hc, -, -, rfl⟩ := Java.inject_eq_some_iff.1 h
  rw [Pod.containerNames, Java.withArtefacts_containers]
  exact Pod.containerNames_setContainer hc rfl

/-- The standard injectors keep names. -/
theorem Injectors.keepNames_standard : standard.KeepNames := by
  intro runtime injector h
  rw [eq_java_of_lookup h]
  exact Java.keepsNames_injector

namespace Mutator

variable {c : Config} {s : Scope} {p p' : Pass} {pod pod' : Pod} {vs us : List Visit}

/-! ### Runs that keep names -/

/-- A call keeps the names that its injector keeps. -/
theorem containerNames_outcome {h : HandOver} (hkeeps : h.injector.KeepsNames) :
    (h.outcome c pod).containerNames = pod.containerNames := by
  rcases h.outcome_cases c pod with hsame | hinject
  · rw [hsame]
  · exact hkeeps _ _ _ _ _ _ hinject

/-- **A step keeps the names** that its injector keeps. -/
theorem containerNames_of_visit_eq_ok {v : Visit} (hv : v.KeepsNames)
    (h : visit c s v pod p = (.ok pod', p')) : pod'.containerNames = pod.containerNames := by
  rcases visit_cases (c := c) (s := s) v pod p with ⟨f, p₁, hvisit, -⟩ | ⟨p₁, hvisit, -⟩
  · cases h.symm.trans hvisit
  · rw [Except.ok.inj (congrArg Prod.fst (h.symm.trans hvisit))]
    rcases hover : handOver? s pod p v with - | n
    · rfl
    · refine containerNames_outcome ?_
      -- the injector of the call is that of the step
      cases v with
      | unknownRuntime runtime => cases hover
      | noSuchContainer target => cases hover
      | container injector i index =>
        obtain ⟨_, -, rfl⟩ := Option.map_eq_some_iff.1 hover
        exact hv

/-- **A run keeps the names** that its injectors keep. -/
theorem containerNames_of_run_eq_ok (hvs : ∀ v ∈ vs, v.KeepsNames)
    (h : run c s vs pod p = (.ok pod', p')) : pod'.containerNames = pod.containerNames := by
  induction vs generalizing pod p with
  | nil => rw [Except.ok.inj (congrArg Prod.fst h)]
  | cons v vs ih =>
    rw [run] at h
    rcases hv : visit c s v pod p with ⟨f | pod₁, p₁⟩
    · rw [hv] at h
      cases h
    · rw [hv] at h
      rw [ih (fun v hv ↦ hvs v (List.mem_cons_of_mem _ hv)) h]
      exact containerNames_of_visit_eq_ok (hvs v (List.mem_cons_self ..)) hv

/-- **A run hands over the containers of its plan**, in order: all of them if it ends with a pod,
else those before the one at which it fails. -/
theorem exists_map_handOvers_append (hvs : ∀ v ∈ vs, v.KeepsNames)
    (hrange : ∀ i ∈ vs.filterMap Visit.index?, i < pod.spec.containers.length) (p : Pass) :
    ∃ rest, vs.filterMap Visit.handed? =
        (handOvers c s vs pod p).map (fun h ↦ (h.injector, h.spec, h.index)) ++ rest ∧
      ∀ m p', run c s vs pod p = (.ok m, p') → rest = [] := by
  induction vs generalizing pod p with
  | nil => exact ⟨[], rfl, fun _ _ _ ↦ rfl⟩
  | cons v vs ih =>
    have hmem (i : Nat) (hi : i ∈ v.index?) : i < pod.spec.containers.length :=
      hrange i (List.mem_filterMap.2 ⟨v, List.mem_cons_self .., hi⟩)
    simp only [run, handOvers]
    rcases visit_cases (c := c) (s := s) v pod p with ⟨f, p₁, hv, hnone, -⟩ | ⟨p₁, hv, hover⟩
    · rw [hv, hnone]
      refine ⟨_, rfl, fun m p' hok ↦ ?_⟩
      cases hok
    · set pod₁ := (handOver? s pod p v).toList.foldl (HandOver.outcome c) pod
      -- the names are kept, so what is there for the later steps now is still there then
      have hlen : pod₁.spec.containers.length = pod.spec.containers.length :=
        Pod.length_eq_of_containerNames
          (containerNames_of_visit_eq_ok (hvs v (List.mem_cons_self ..)) hv)
      have hlater : ∀ i ∈ vs.filterMap Visit.index?, i < pod₁.spec.containers.length := by
        intro i hi
        obtain ⟨u, hu, hindex⟩ := List.mem_filterMap.1 hi
        rw [hlen]
        exact hrange i (List.mem_filterMap.2 ⟨u, List.mem_cons_of_mem _ hu, hindex⟩)
      obtain ⟨rest, happend, hrest⟩ := ih (fun v hv ↦ hvs v (List.mem_cons_of_mem _ hv)) hlater p₁
      refine ⟨rest, ?_, by rw [hv]; exact hrest⟩
      rw [hv, List.filterMap_cons, happend, ← hover hmem]
      rcases handOver? s pod p v with - | n <;> rfl

/-! ### Taking turns -/

/-- A run of two plans is the run of the first, and then of the second. -/
theorem run_append (us vs : List Visit) (pod : Pod) (p : Pass) : run c s (us ++ vs) pod p =
    match run c s us pod p with
    | (.error f, p) => (.error f, p)
    | (.ok pod, p) => run c s vs pod p := by
  induction us generalizing pod p with
  | nil => rfl
  | cons u us ih =>
    rw [List.cons_append, run, run]
    rcases visit c s u pod p with ⟨f | pod₁, p₁⟩
    · rfl
    · exact ih pod₁ p₁

/-- It hands over what the first hands over, and then what the second does. -/
theorem handOvers_append (us vs : List Visit) (pod : Pod) (p : Pass) :
    handOvers c s (us ++ vs) pod p = handOvers c s us pod p ++
      match run c s us pod p with
      | (.error _, _) => []
      | (.ok pod, p) => handOvers c s vs pod p := by
  induction us generalizing pod p with
  | nil => rfl
  | cons u us ih =>
    rw [List.cons_append, handOvers, handOvers, run]
    rcases visit c s u pod p with ⟨f | pod₁, p₁⟩
    · simp
    · dsimp only
      rw [ih, List.append_assoc]

/-- The run in which every instrumentation looks for its containers when its turn comes, in the pod
as it is by then; with it, what the run hands over. -/
def inTurn (m : Mutator) (s : Scope) :
    List Instrumentation → Pod → Pass → List HandOver × Except Failure Pod × Pass
  | [], pod, p => ([], .ok pod, p)
  | i :: is, pod, p =>
    let turn := Plan.visits m.config m.injectors pod.spec.containers i
    let given := handOvers m.config s turn pod p
    match run m.config s turn pod p with
    | (.error f, p) => (given, .error f, p)
    | (.ok pod, p) =>
      let (later, result) := inTurn m s is pod p
      (given ++ later, result)

/-- **A plan may be made before the first turn**: while names are kept, every instrumentation finds
the same containers later. -/
theorem inTurn_eq {m : Mutator} (hkeep : m.injectors.KeepNames) (is : List Instrumentation)
    (pod : Pod) (p : Pass) : m.inTurn s is pod p =
      (handOvers m.config s (Plan.of m.config m.injectors pod.spec.containers is) pod p,
        run m.config s (Plan.of m.config m.injectors pod.spec.containers is) pod p) := by
  induction is generalizing pod p with
  | nil => rfl
  | cons i is ih =>
    set turn := Plan.visits m.config m.injectors pod.spec.containers i with hturn
    have hplan : Plan.of m.config m.injectors pod.spec.containers (i :: is) =
        turn ++ Plan.of m.config m.injectors pod.spec.containers is := List.flatMap_cons ..
    rw [inTurn, hplan, run_append, handOvers_append, ← hturn]
    rcases hrun : run m.config s turn pod p with ⟨f | pod₁, p₁⟩
    · simp
    · -- the plan of the later turns is made of names, which the first turn keeps
      have hnames := containerNames_of_run_eq_ok (Plan.keepsNames_of_mem_visits hkeep i) hrun
      have hlater : Plan.of m.config m.injectors pod₁.spec.containers is =
          Plan.of m.config m.injectors pod.spec.containers is :=
        List.flatMap_congr fun j _ ↦ Plan.visits_congr hnames j
      dsimp only
      rw [ih, hlater]

/-! ### Mutations -/

/-- The numbers of the containers that an instrumentation is meant for: none where its runtime has
no injector. -/
def sites (m : Mutator) (pod : Pod) (i : Instrumentation) : List Nat :=
  if (m.injectors.lookup i.runtime).isSome then
    Plan.sites m.config pod.containerNames (Targets.names i.spec.containers)
  else []

/-- What an instrumentation is meant to hand over: its containers, to the injector of its
runtime. -/
def assigned (m : Mutator) (pod : Pod) (i : Instrumentation) : List (Injector × JavaSpec × Nat) :=
  (m.injectors.lookup i.runtime).toList.flatMap fun injector ↦
    (m.sites pod i).map (injector, i.spec, ·)

/-- All that the instrumentations are meant to hand over, in their order. -/
theorem filterMap_handed?_of (m : Mutator) (pod : Pod) (is : List Instrumentation) :
    (Plan.of m.config m.injectors pod.spec.containers is).filterMap Visit.handed? =
      is.flatMap (m.assigned pod) := by
  rw [Plan.of, List.filterMap_flatMap]
  refine List.flatMap_congr fun i _ ↦ ?_
  rw [Plan.filterMap_handed?_visits, assigned, sites, Plan.indexes_eq_sites]
  rcases m.injectors.lookup i.runtime with - | injector <;> rfl

/-- A plan is about containers that are there. -/
theorem lt_of_mem_filterMap_index?_of {m : Mutator} {is : List Instrumentation} {i : Nat}
    (h : i ∈ (Plan.of m.config m.injectors pod.spec.containers is).filterMap Visit.index?) :
    i < pod.spec.containers.length := by
  rw [Plan.of, List.filterMap_flatMap, List.mem_flatMap] at h
  obtain ⟨j, -, hj⟩ := h
  rw [Plan.filterMap_index?_visits] at hj
  split at hj
  · rw [Plan.indexes_eq_sites] at hj
    simpa using Plan.lt_of_mem_sites hj
  · cases hj

/-- What a mutation hands over: nothing when it refuses the targets or leaves the pod alone. -/
def handed (m : Mutator) (pod : Pod) (is : List Instrumentation) (ns : Option String)
    (deadline : Option Int) (w : World) : List HandOver :=
  match Targets.check (Targets.listsOf is) with
  | .error _ => []
  | .ok () =>
    if Footprint.isInstrumented m.config pod then []
    else
      handOvers m.config ⟨m.store, namespaceOf ns pod, deadline⟩
        (Plan.of m.config m.injectors pod.spec.containers is) pod
        (.start (w.note (Targets.lines (Targets.listsOf is))))

/-- **What a mutation hands over is its trace**, with the injectors in it. -/
theorem map_toInspection_handed (m : Mutator) (pod : Pod) (is : List Instrumentation)
    (ns : Option String) (deadline : Option Int) (w : World) :
    (m.handed pod is ns deadline w).map (·.toInspection) = m.trace pod is ns deadline w := by
  rw [handed, trace]
  rcases Targets.check (Targets.listsOf is) with f | u
  · rfl
  · dsimp only
    split
    · rfl
    · exact map_toInspection_handOvers ..

end Mutator

section Mutation

variable {m : Mutator} {pod : Pod} {is : List Instrumentation}

/-- Where the targets are accepted and the pod is not instrumented yet, it is what the run hands
over. -/
theorem Mutator.handed_of_accepted {ns : Option String} {deadline : Option Int} {w : World}
    (hcheck : Targets.check (Targets.listsOf is) = .ok ())
    (hfresh : Footprint.isInstrumented m.config pod = false) :
    m.handed pod is ns deadline w =
      handOvers m.config ⟨m.store, namespaceOf ns pod, deadline⟩
        (Plan.of m.config m.injectors pod.spec.containers is) pod
        (.start (w.note (Targets.lines (Targets.listsOf is)))) := by
  rw [handed, hcheck]
  simp only [hfresh, Bool.false_eq_true, if_false]

/-- **No container is handed over twice and no target is forgotten.** Where the targets are
accepted, the pod is not instrumented yet and the injectors keep the names of containers:

every instrumentation may look for its containers when its turn comes, and the injectors get the
same ones as by the plan;

the calls are what makes the pod, be the injectors what they are: the pod that the mutation yields
is the one that came in after these calls, one after the other, and a mutation that fails does so at
a container of the pod as the calls have left it;

the containers are there, no two of them are the same, and in their order they are those that the
instrumentations are meant for, each handed to the injector of its runtime; all of them if the
mutation yields a pod, which it does over a store that yields texts. -/
theorem handed_over_of_mutate (hkeep : m.injectors.KeepNames)
    (hcheck : Targets.check (Targets.listsOf is) = .ok ())
    (hfresh : Footprint.isInstrumented m.config pod = false) (ns : Option String)
    (deadline : Option Int) (w : World) :
    (∃ result p, m.inTurn ⟨m.store, Mutator.namespaceOf ns pod, deadline⟩ is pod
        (.start (w.note (Targets.lines (Targets.listsOf is)))) =
          (m.handed pod is ns deadline w, result, p) ∧
        (m.mutate pod is ns deadline w).1 = result.mapError .pass) ∧
      (∀ q w', m.mutate pod is ns deadline w = (.ok q, w') →
        q = (m.handed pod is ns deadline w).foldl (HandOver.outcome m.config) pod) ∧
      (∀ f w', m.mutate pod is ns deadline w = (.error (.pass f), w') →
        ∃ k ∈ ((m.handed pod is ns deadline w).foldl (HandOver.outcome m.config)
          pod).spec.containers, ∃ p,
          (Environment.resolve ⟨m.store, Mutator.namespaceOf ns pod, deadline⟩ k p).1 = .error f) ∧
      ((m.handed pod is ns deadline w).map (·.index)).Nodup ∧
      (∀ h ∈ m.handed pod is ns deadline w, h.index < pod.spec.containers.length) ∧
      (m.handed pod is ns deadline w).map (fun h ↦ (h.injector, h.spec, h.index)) <+:
        is.flatMap (m.assigned pod) ∧
      (∀ q w', m.mutate pod is ns deadline w = (.ok q, w') →
        (m.handed pod is ns deadline w).map (fun h ↦ (h.injector, h.spec, h.index)) =
          is.flatMap (m.assigned pod)) ∧
      (m.store.YieldsText → ∃ q w', m.mutate pod is ns deadline w = (.ok q, w')) := by
  set s : Scope := ⟨m.store, Mutator.namespaceOf ns pod, deadline⟩ with hs
  set p₀ : Pass := .start (w.note (Targets.lines (Targets.listsOf is))) with hp₀
  set plan := Plan.of m.config m.injectors pod.spec.containers is with hplan
  have hhanded : m.handed pod is ns deadline w = Mutator.handOvers m.config s plan pod p₀ :=
    Mutator.handed_of_accepted hcheck hfresh
  have hindexes : (m.handed pod is ns deadline w).map (·.index) =
      (m.trace pod is ns deadline w).map (·.index) := by
    rw [← Mutator.map_toInspection_handed, List.map_map]
    rfl
  have hfst : (m.mutate pod is ns deadline w).1 =
      (Mutator.run m.config s plan pod p₀).1.mapError .pass :=
    Mutator.mutate_fst_of_accepted hcheck hfresh
  have hvs : ∀ v ∈ plan, v.KeepsNames := by
    intro v hv
    obtain ⟨i, -, hi⟩ := List.mem_flatMap.1 hv
    exact Plan.keepsNames_of_mem_visits hkeep i v hi
  have hrange : ∀ i ∈ plan.filterMap Visit.index?, i < pod.spec.containers.length :=
    fun i ↦ Mutator.lt_of_mem_filterMap_index?_of
  obtain ⟨rest, happend, hrest⟩ :=
    Mutator.exists_map_handOvers_append (c := m.config) (s := s) hvs hrange p₀
  rw [Mutator.filterMap_handed?_of, ← hhanded] at happend
  have hturns : m.inTurn s is pod p₀ =
      (m.handed pod is ns deadline w, Mutator.run m.config s plan pod p₀) := by
    rw [Mutator.inTurn_eq hkeep, hhanded]
  have hcases := Mutator.run_cases (c := m.config) (s := s) plan pod p₀
  rw [← hhanded] at hcases
  refine ⟨⟨_, _, hturns, hfst⟩, ?_, ?_, ?_, ?_, ⟨rest, happend.symm⟩, ?_, ?_⟩
  · intro q w' h
    rw [h] at hfst
    rcases hcases with ⟨f, p', hrun, -⟩ | ⟨p', hrun⟩
    · rw [hrun] at hfst
      cases hfst
    · rw [hrun] at hfst
      exact Except.ok.inj hfst
  · intro f w' h
    rw [h] at hfst
    rcases hcases with ⟨f', p', hrun, hfails⟩ | ⟨p', hrun⟩
    · rw [hrun] at hfst
      cases hfst
      exact hfails
    · rw [hrun] at hfst
      cases hfst
  · rw [hindexes]
    exact Mutator.nodup_map_index_trace
  · intro h hh
    have hmem : h.index ∈ (m.trace pod is ns deadline w).map (·.index) :=
      hindexes ▸ List.mem_map_of_mem (f := fun h : HandOver ↦ h.index) hh
    rw [Mutator.trace_of_accepted hcheck hfresh] at hmem
    exact hrange h.index ((Mutator.map_index_inspections_sublist plan pod p₀).subset hmem)
  · intro q w' h
    obtain ⟨q', p', hrun⟩ := (Mutator.exists_mutate_eq_ok_iff hcheck hfresh).1 ⟨q, w', h⟩
    rw [happend, hrest q' p' hrun, List.append_nil]
  · intro hstore
    exact Mutator.exists_mutate_eq_ok hstore hcheck pod ns deadline w

end Mutation

/-! ### A pod in which a name occurs twice -/

namespace Sample

/-- A pod in which a name occurs twice. -/
def twins : Pod :=
  ⟨.empty, { PodSpec.empty with containers :=
    [container "app", container "worker", container "app", container "otc-container"] }, []⟩

/-- Settings for one more runtime, which has no injector. -/
def unknown : Instrumentation := ⟨"cobol", ⟨"agent:2", [], "otc-container", none, none⟩⟩

end Sample

/-- The first of the two is handed over, after the container that is named first, and the pod is
what the injector makes of them. -/
theorem handed_over_sample : ∃ q w',
    (Mutator.ofStore Sample.bundles.store .standard).mutate Sample.twins
      [Sample.instrumentation, Sample.unknown] none none (.start 0) = (.ok q, w') ∧
    ((Mutator.ofStore Sample.bundles.store .standard).handed Sample.twins
      [Sample.instrumentation, Sample.unknown] none none (.start 0)).map (·.index) = [1, 0] ∧
    q = ((Mutator.ofStore Sample.bundles.store .standard).handed Sample.twins
      [Sample.instrumentation, Sample.unknown] none none (.start 0)).foldl
        (HandOver.outcome .standard) Sample.twins := by
  have hkeep : Injectors.standard.KeepNames := Injectors.keepNames_standard
  obtain ⟨-, hfold, -, -, -, -, hall, hyields⟩ := @handed_over_of_mutate
    (Mutator.ofStore Sample.bundles.store .standard) Sample.twins
    [Sample.instrumentation, Sample.unknown] hkeep (by decide +kernel) (by decide +kernel) none none
    (.start 0)
  obtain ⟨q, w', h⟩ := hyields (Sample.bundles.serves_store.yieldsText Sample.isText_bundles)
  have hindexes := congrArg (List.map (·.2.2)) (hall q w' h)
  rw [List.map_map] at hindexes
  exact ⟨q, w', h, hindexes.trans (by decide +kernel), hfold q w' h⟩

end AgentGraft
