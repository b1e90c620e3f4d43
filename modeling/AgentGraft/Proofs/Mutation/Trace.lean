import AgentGraft.Mutation.Run
import AgentGraft.Proofs.Java.Grafting
import AgentGraft.Proofs.Mutation.Visits

/-!
# The trace of a mutation

A run threads two things through its visits, a pod that grows and a pass that remembers what was
read. Its trace forgets both: for each container that was reached it keeps an `Inspection`, the
container as it was found and the view that was resolved for it. What became of the container is a
function of that, since both gates of an injection look at nothing else but the security settings of
the pod, which no injection changes.

So a mutation that yields a pod has a closed form, `eq_foldl_of_mutate_eq_ok`: the pod is the one
that came in with the agent grafted on the containers of `Mutator.grafts`, in order. Everything that
is proved about mutated pods starts from there and never opens the run again.
-/

namespace AgentGraft

open Java (isExtensible isWanted injectContainer setContainer withArtefacts)

/-! ### Inspections -/

/-- A container as a run finds it. -/
structure Inspection where
  /-- The settings of the instrumentation that the container is visited for. -/
  spec : JavaSpec
  index : Nat
  container : Container
  /-- The effective environment of the container. -/
  view : List EnvVar

namespace Inspection

/-- The container gets the agent: its options can be extended and the policy lets it. -/
def passes (c : Config) (pod : Pod) (n : Inspection) : Bool :=
  isExtensible n.container && isWanted c pod n.container n.view

/-- The container with the agent. -/
def grafted (c : Config) (n : Inspection) : Container :=
  injectContainer c n.spec n.view n.container

/-- The pod with the agent on the container. -/
def graft (c : Config) (pod : Pod) (n : Inspection) : Pod :=
  withArtefacts c n.spec (setContainer pod n.index (n.grafted c))

/-- Of a pod, the gates of an injection look at nothing but its security settings. -/
theorem passes_congr {c : Config} {p q : Pod} (h : p.withoutLists = q.withoutLists)
    (n : Inspection) : n.passes c p = n.passes c q := by
  have hs : p.spec.securityContext = q.spec.securityContext :=
    congrArg (·.spec.securityContext) h
  simp [passes, isWanted, hs]

/-- An injection into a container that was inspected succeeds exactly where both gates are open. -/
theorem inject_eq_some_iff {c : Config} {pod pod' : Pod} {n : Inspection}
    (hn : pod.spec.containers[n.index]? = some n.container) :
    Java.inject c n.spec pod n.index n.view = .ok (some pod') ↔
      n.passes c pod = true ∧ pod' = n.graft c pod := by
  rw [Java.inject_eq_some_iff, passes, Bool.and_eq_true]
  constructor
  · rintro ⟨container, hc, he, hw, rfl⟩
    obtain rfl := Option.some.inj (hn.symm.trans hc)
    exact ⟨⟨he, hw⟩, rfl⟩
  · rintro ⟨⟨he, hw⟩, rfl⟩
    exact ⟨n.container, hn, he, hw, rfl⟩

@[simp] theorem graft_withoutLists (c : Config) (pod : Pod) (n : Inspection) :
    (n.graft c pod).withoutLists = pod.withoutLists := by
  simp [graft]

/-- **Grafting touches the three lists only.** -/
@[simp] theorem foldl_graft_withoutLists (c : Config) (l : List Inspection) (pod : Pod) :
    (l.foldl (graft c) pod).withoutLists = pod.withoutLists := by
  induction l generalizing pod with
  | nil => rfl
  | cons n l ih => rw [List.foldl_cons, ih, graft_withoutLists]

/-- Grafting changes no containers but those that were inspected. -/
theorem getElem?_foldl_graft_of_not_mem {c : Config} {l : List Inspection} {j : Nat}
    (h : j ∉ l.map (·.index)) (pod : Pod) :
    (l.foldl (graft c) pod).spec.containers[j]? = pod.spec.containers[j]? := by
  induction l generalizing pod with
  | nil => rfl
  | cons n l ih =>
    rw [List.map_cons, List.mem_cons, not_or] at h
    rw [List.foldl_cons, ih h.2, graft, Java.withArtefacts_containers,
      Java.setContainer_containers, List.getElem?_set_ne (Ne.symm h.1)]

end Inspection

namespace Mutator

variable {c : Config} {s : Scope}

/-! ### The trace of a run -/

/-- What one step of a plan inspects. -/
def inspection? (s : Scope) (pod : Pod) (p : Pass) : Visit → Option Inspection
  | .container _ i index =>
    match pod.spec.containers[index]? with
    | none => none
    | some container =>
      match Environment.resolve s container p with
      | (.error _, _) => none
      | (.ok view, _) => some ⟨i.spec, index, container, view⟩
  | _ => none

/-- What a run inspects, up to its first failure. -/
def inspections (c : Config) (s : Scope) : List Visit → Pod → Pass → List Inspection
  | [], _, _ => []
  | v :: vs, pod, p =>
    (inspection? s pod p v).toList ++
      match visit c s v pod p with
      | (.error _, _) => []
      | (.ok pod, p) => inspections c s vs pod p

/-- What is inspected is there: it is the container of that number, and the step is about it. -/
theorem getElem?_of_inspection? {v : Visit} {pod : Pod} {p : Pass} {n : Inspection}
    (h : inspection? s pod p v = some n) :
    v.index? = some n.index ∧ pod.spec.containers[n.index]? = some n.container := by
  cases v with
  | unknownRuntime runtime => simp [inspection?] at h
  | noSuchContainer target => simp [inspection?] at h
  | container injector i index =>
    simp only [inspection?] at h
    split at h
    · simp at h
    · rename_i container hc
      split at h
      · simp at h
      · obtain rfl := Option.some.inj h
        exact ⟨rfl, hc⟩

/-- A visit to a container that is not there does nothing. -/
theorem visit_of_getElem?_eq_none {pod : Pod} {index : Nat}
    (hk : pod.spec.containers[index]? = none) (injector : Injector) (i : Instrumentation)
    (p : Pass) : visit c s (.container injector i index) pod p = (.ok pod, p) := by
  rw [visit, visitContainer, hk]

/-- **A visit to a container that is there**: it fails because the container has no view, and
inspects nothing; or it inspects the container, and the injector has its say. -/
theorem visit_container_cases {pod : Pod} {index : Nat} {container : Container}
    (hk : pod.spec.containers[index]? = some container) (injector : Injector)
    (i : Instrumentation) (p : Pass) :
    (∃ f p', Environment.resolve s container p = (.error f, p') ∧
      visit c s (.container injector i index) pod p = (.error f, p') ∧
      inspection? s pod p (.container injector i index) = none) ∨
    ∃ view p₁ pod' p', Environment.resolve s container p = (.ok view, p₁) ∧
      visit c s (.container injector i index) pod p = (.ok pod', p') ∧
      inspection? s pod p (.container injector i index) = some ⟨i.spec, index, container, view⟩ ∧
      p'.cache = p₁.cache ∧
      (pod' = pod ∨ injector.inject c i.spec pod index view = .ok (some pod')) := by
  simp only [visit, visitContainer, inspection?, hk]
  rcases Environment.resolve s container p with ⟨f | view, p₁⟩
  · exact .inl ⟨f, p₁, rfl, rfl, rfl⟩
  · refine .inr ⟨view, p₁, ?_⟩
    dsimp only
    rcases hj : injector.inject c i.spec pod index view with f | - | pod₁
    · exact ⟨pod, _, rfl, rfl, rfl, rfl, .inl rfl⟩
    · exact ⟨pod, _, rfl, rfl, rfl, rfl, .inl rfl⟩
    · exact ⟨pod₁, _, rfl, rfl, rfl, rfl, .inr rfl⟩

/-- **A step**: it grafts the agent on what it inspects if both gates are open, and does nothing
else to the pod. -/
theorem eq_foldl_of_visit_eq_ok {v : Visit} (hv : v.IsJava) {pod pod' : Pod} {p p' : Pass}
    (h : visit c s v pod p = (.ok pod', p')) :
    pod' = ((inspection? s pod p v).toList.filter (·.passes c pod)).foldl
      (Inspection.graft c) pod := by
  cases v with
  | unknownRuntime runtime => simpa [visit, inspection?, eq_comm] using congrArg Prod.fst h
  | noSuchContainer target => simpa [visit, inspection?, eq_comm] using congrArg Prod.fst h
  | container injector i index =>
    obtain rfl : injector = Java.injector := hv
    simp only [visit, visitContainer, inspection?] at h ⊢
    rcases hc : pod.spec.containers[index]? with - | container
    · simpa [hc, eq_comm] using congrArg Prod.fst h
    · simp only [hc] at h ⊢
      rcases hr : Environment.resolve s container p with ⟨f | view, p₁⟩
      · simp [hr] at h
      · have hiff (q : Pod) : Java.inject c i.spec pod index view = .ok (some q) ↔ _ :=
          Inspection.inject_eq_some_iff (n := ⟨i.spec, index, container, view⟩) hc
        simp only [hr, Java.injector, Option.toList_some] at h ⊢
        rcases hj : Java.inject c i.spec pod index view with f | - | pod₁
        -- neither a container that cannot be extended nor one that is declined passes
        · have hn := mt (fun hn ↦ (hiff _).2 ⟨hn, rfl⟩) (by simp [hj])
          simpa [hj, hn, eq_comm] using congrArg Prod.fst h
        · have hn := mt (fun hn ↦ (hiff _).2 ⟨hn, rfl⟩) (by simp [hj])
          simpa [hj, hn, eq_comm] using congrArg Prod.fst h
        · obtain ⟨hn, rfl⟩ := (hiff pod₁).1 hj
          simpa [hj, hn, eq_comm] using congrArg Prod.fst h

/-- **A run**: it grafts the agent on what it inspects wherever both gates are open. -/
theorem eq_foldl_of_run_eq_ok {vs : List Visit} (hvs : ∀ v ∈ vs, v.IsJava) {pod m : Pod}
    {p p' : Pass} (h : run c s vs pod p = (.ok m, p')) :
    m = ((inspections c s vs pod p).filter (·.passes c pod)).foldl (Inspection.graft c) pod := by
  induction vs generalizing pod p with
  | nil => simpa [run, inspections, eq_comm] using congrArg Prod.fst h
  | cons v vs ih =>
    rw [run] at h
    rcases hv : visit c s v pod p with ⟨f | pod₁, p₁⟩
    · simp [hv] at h
    · rw [hv] at h
      have hstep := eq_foldl_of_visit_eq_ok (hvs v (List.mem_cons_self ..)) hv
      have hframe : pod₁.withoutLists = pod.withoutLists := by
        rw [hstep, Inspection.foldl_graft_withoutLists]
      rw [ih (fun v hv ↦ hvs v (List.mem_cons_of_mem _ hv)) h, inspections, hv]
      simp only [List.filter_append, List.foldl_append, Inspection.passes_congr hframe]
      rw [← hstep]

/-! ### What is in a trace -/

/-- A run inspects containers in the order of its plan, and no other ones. -/
theorem map_index_inspections_sublist (vs : List Visit) (pod : Pod) (p : Pass) :
    ((inspections c s vs pod p).map (·.index)).Sublist (vs.filterMap Visit.index?) := by
  induction vs generalizing pod p with
  | nil => exact List.Sublist.refl _
  | cons v vs ih =>
    rw [inspections, List.map_append, ← List.singleton_append, List.filterMap_append]
    refine List.Sublist.append ?_ ?_
    · rcases hn : inspection? s pod p v with - | n
      · exact List.nil_sublist _
      · simp [(getElem?_of_inspection? hn).1]
    · split
      · exact List.nil_sublist _
      · exact ih _ _

/-- A plan that visits no container twice finds every container as it was at the start. -/
theorem getElem?_of_mem_inspections {vs : List Visit} (hvs : ∀ v ∈ vs, v.IsJava)
    (hnd : (vs.filterMap Visit.index?).Nodup) {pod : Pod} {p : Pass} {n : Inspection}
    (hn : n ∈ inspections c s vs pod p) :
    pod.spec.containers[n.index]? = some n.container := by
  induction vs generalizing pod p with
  | nil => simp [inspections] at hn
  | cons v vs ih =>
    have hnd' : (vs.filterMap Visit.index?).Nodup :=
      hnd.sublist ((List.sublist_cons_self v vs).filterMap _)
    rw [inspections, List.mem_append] at hn
    rcases hn with hn | hn
    · exact (getElem?_of_inspection? (by simpa using hn)).2
    · rcases hv : visit c s v pod p with ⟨f | pod₁, p₁⟩
      · simp [hv] at hn
      · rw [hv] at hn
        have hlater : n.index ∈ vs.filterMap Visit.index? :=
          (map_index_inspections_sublist vs pod₁ p₁).subset (List.mem_map_of_mem hn)
        rw [← ih (fun v hv ↦ hvs v (List.mem_cons_of_mem _ hv)) hnd' hn,
          eq_foldl_of_visit_eq_ok (hvs v (List.mem_cons_self ..)) hv,
          Inspection.getElem?_foldl_graft_of_not_mem]
        -- the step is about a container that no later step is about
        intro hmem
        obtain ⟨n₀, hn₀, hidx⟩ := List.mem_map.1 hmem
        have hv₀ : inspection? s pod p v = some n₀ := by
          simpa using (List.mem_filter.1 hn₀).1
        rw [List.filterMap_cons_some (getElem?_of_inspection? hv₀).1, List.nodup_cons] at hnd
        exact hnd.1 (hidx ▸ hlater)

/-- A run inspects containers for the instrumentations of its plan, and for no other ones. -/
theorem exists_of_mem_inspections {vs : List Visit} {pod : Pod} {p : Pass} {n : Inspection}
    (hn : n ∈ inspections c s vs pod p) :
    ∃ injector i index, Visit.container injector i index ∈ vs ∧ n.spec = i.spec := by
  induction vs generalizing pod p with
  | nil => simp [inspections] at hn
  | cons v vs ih =>
    rw [inspections, List.mem_append] at hn
    rcases hn with hn | hn
    · cases v with
      | unknownRuntime runtime => simp [inspection?] at hn
      | noSuchContainer target => simp [inspection?] at hn
      | container injector i index =>
        refine ⟨injector, i, index, List.mem_cons_self .., ?_⟩
        simp only [inspection?] at hn
        split at hn
        · simp at hn
        · split at hn
          · simp at hn
          · rw [List.mem_singleton.1 hn]
    · split at hn
      · simp at hn
      · obtain ⟨injector, i, index, hmem, hspec⟩ := ih hn
        exact ⟨injector, i, index, List.mem_cons_of_mem _ hmem, hspec⟩

/-- The view of an inspection is that of its container, in the pass as the run finds it. -/
theorem exists_resolve_of_mem_inspections {vs : List Visit} {pod : Pod} {p : Pass} {n : Inspection}
    (hn : n ∈ inspections c s vs pod p) :
    ∃ p', (Environment.resolve s n.container p').1 = .ok n.view := by
  induction vs generalizing pod p with
  | nil => simp [inspections] at hn
  | cons v vs ih =>
    rw [inspections, List.mem_append] at hn
    rcases hn with hn | hn
    · cases v with
      | unknownRuntime runtime => simp [inspection?] at hn
      | noSuchContainer target => simp [inspection?] at hn
      | container injector i index =>
        simp only [inspection?] at hn
        split at hn
        · simp at hn
        · split at hn
          · simp at hn
          · next hview =>
            rw [List.mem_singleton.1 hn]
            exact ⟨p, congrArg Prod.fst hview⟩
    · split at hn
      · simp at hn
      · exact ih hn

/-! ### The trace of a mutation -/

/-- The mutator over a store that knows the standard injectors. -/
abbrev ofStore (store : Store) (c : Config) : Mutator := ⟨store, c, .standard⟩

/-- What a mutation inspects: nothing when it refuses the targets or leaves the pod alone. -/
def trace (m : Mutator) (pod : Pod) (is : List Instrumentation) (ns : Option String)
    (deadline : Option Int) (w : World) : List Inspection :=
  match Targets.check (Targets.listsOf is) with
  | .error _ => []
  | .ok () =>
    if Footprint.isInstrumented m.config pod then []
    else
      inspections m.config ⟨m.store, namespaceOf ns pod, deadline⟩
        (Plan.of m.config m.injectors pod.spec.containers is) pod
        (.start (w.note (Targets.lines (Targets.listsOf is))))

/-- The inspections after which the container gets the agent. -/
def grafts (m : Mutator) (pod : Pod) (is : List Instrumentation) (ns : Option String)
    (deadline : Option Int) (w : World) : List Inspection :=
  (m.trace pod is ns deadline w).filter (·.passes m.config pod)

section Mutation

variable {m : Mutator} {store : Store} {pod pod' : Pod} {is : List Instrumentation}
  {ns : Option String} {deadline : Option Int} {w w' : World} {n : Inspection}

/-- Only a pod that is not instrumented yet is inspected, and only for accepted targets. -/
theorem accepted_of_mem_trace (h : n ∈ m.trace pod is ns deadline w) :
    Targets.check (Targets.listsOf is) = .ok () ∧
      Footprint.isInstrumented m.config pod = false := by
  rw [trace] at h
  split at h
  · simp at h
  · rename_i hcheck
    split at h
    · simp at h
    · rename_i hfresh
      exact ⟨hcheck, by simpa using hfresh⟩

/-- Where the targets are accepted and the pod is not instrumented yet, the trace is that of the
run. -/
theorem trace_of_accepted (hcheck : Targets.check (Targets.listsOf is) = .ok ())
    (hfresh : Footprint.isInstrumented m.config pod = false) :
    m.trace pod is ns deadline w =
      inspections m.config ⟨m.store, namespaceOf ns pod, deadline⟩
        (Plan.of m.config m.injectors pod.spec.containers is) pod
        (.start (w.note (Targets.lines (Targets.listsOf is)))) := by
  rw [trace, hcheck]
  simp only [hfresh, Bool.false_eq_true, if_false]

/-- **No container is inspected twice.** -/
theorem nodup_map_index_trace : ((m.trace pod is ns deadline w).map (·.index)).Nodup := by
  rw [trace]
  split
  · exact List.nodup_nil
  · rename_i hcheck
    split
    · exact List.nodup_nil
    · exact (Plan.nodup_filterMap_index? hcheck).sublist (map_index_inspections_sublist _ _ _)

/-- **Every container is inspected as it came in.** -/
theorem getElem?_of_mem_trace (h : n ∈ (ofStore store c).trace pod is ns deadline w) :
    pod.spec.containers[n.index]? = some n.container := by
  obtain ⟨hcheck, hfresh⟩ := accepted_of_mem_trace h
  rw [trace_of_accepted hcheck hfresh] at h
  exact getElem?_of_mem_inspections (fun _ ↦ Plan.isJava_of_mem)
    (Plan.nodup_filterMap_index? hcheck) h

/-- **Every inspection is for one of the instrumentations.** -/
theorem exists_of_mem_trace (h : n ∈ m.trace pod is ns deadline w) : ∃ i ∈ is, n.spec = i.spec := by
  obtain ⟨hcheck, hfresh⟩ := accepted_of_mem_trace h
  rw [trace_of_accepted hcheck hfresh] at h
  obtain ⟨injector, i, index, hmem, hspec⟩ := exists_of_mem_inspections h
  exact ⟨i, Plan.mem_of_container_mem hmem, hspec⟩

/-- **Every container is inspected with its view.** -/
theorem exists_resolve_of_mem_trace (h : n ∈ m.trace pod is ns deadline w) :
    ∃ s p, (Environment.resolve s n.container p).1 = .ok n.view := by
  obtain ⟨hcheck, hfresh⟩ := accepted_of_mem_trace h
  rw [trace_of_accepted hcheck hfresh] at h
  exact ⟨_, exists_resolve_of_mem_inspections h⟩

/-! ### The grafts of a mutation -/

theorem mem_trace_of_mem_grafts (h : n ∈ m.grafts pod is ns deadline w) :
    n ∈ m.trace pod is ns deadline w ∧ n.passes m.config pod = true :=
  List.mem_filter.1 h

theorem nodup_map_index_grafts : ((m.grafts pod is ns deadline w).map (·.index)).Nodup :=
  nodup_map_index_trace.sublist (List.filter_sublist.map _)

theorem getElem?_of_mem_grafts (h : n ∈ (ofStore store c).grafts pod is ns deadline w) :
    pod.spec.containers[n.index]? = some n.container :=
  getElem?_of_mem_trace (mem_trace_of_mem_grafts h).1

/-- **What a mutation yields**: a fault of its targets, the pod as it is, or what its run yields. -/
theorem mutate_fst : (m.mutate pod is ns deadline w).1 =
    match Targets.check (Targets.listsOf is) with
    | .error f => .error (.targets f)
    | .ok () =>
      if Footprint.isInstrumented m.config pod then .ok pod
      else (run m.config ⟨m.store, namespaceOf ns pod, deadline⟩
        (Plan.of m.config m.injectors pod.spec.containers is) pod
        (.start (w.note (Targets.lines (Targets.listsOf is))))).1.mapError .pass := by
  rcases is with - | ⟨i, is⟩
  · -- no instrumentation: the targets are accepted and the plan is empty
    rw [Targets.listsOf, List.map_nil, Targets.check_nil]
    simp [mutate, Plan.of, run, Except.mapError]
  · simp only [mutate, List.isEmpty_cons, Bool.false_eq_true, if_false]
    rcases Targets.check (Targets.listsOf (i :: is)) with f | u
    · rfl
    · dsimp only
      split
      · rfl
      · split <;> simp_all [Except.mapError]

/-- Where the targets are accepted and the pod is not instrumented yet, it is what the run
yields. -/
theorem mutate_fst_of_accepted (hcheck : Targets.check (Targets.listsOf is) = .ok ())
    (hfresh : Footprint.isInstrumented m.config pod = false) :
    (m.mutate pod is ns deadline w).1 =
      (run m.config ⟨m.store, namespaceOf ns pod, deadline⟩
        (Plan.of m.config m.injectors pod.spec.containers is) pod
        (.start (w.note (Targets.lines (Targets.listsOf is))))).1.mapError .pass := by
  rw [mutate_fst, hcheck]
  simp only [hfresh, Bool.false_eq_true, if_false]

/-- A mutation ends with a fault of its targets exactly where the check of them does. -/
theorem mutate_fst_eq_targets_iff {f : Targets.Fault} :
    (m.mutate pod is ns deadline w).1 = .error (.targets f) ↔
      Targets.check (Targets.listsOf is) = .error f := by
  rw [mutate_fst]
  rcases Targets.check (Targets.listsOf is) with g | u
  · simp
  · dsimp only
    split
    · simp
    · refine ⟨fun h ↦ ?_, nofun⟩
      revert h
      generalize (run ..).1 = result
      cases result <;> simp [Except.mapError]

/-- A mutation yields a pod only for accepted targets. -/
theorem check_of_mutate_eq_ok (h : m.mutate pod is ns deadline w = (.ok pod', w')) :
    Targets.check (Targets.listsOf is) = .ok () := by
  rcases hcheck : Targets.check (Targets.listsOf is) with f | u
  · have hfst : (m.mutate pod is ns deadline w).1 = .error (.targets f) :=
      mutate_fst_eq_targets_iff.2 hcheck
    rw [h] at hfst
    cases hfst
  · rfl

/-- **A mutation that yields a pod** grafts the agent on the containers that pass, and does nothing
else. -/
theorem eq_foldl_of_mutate_eq_ok
    (h : (ofStore store c).mutate pod is ns deadline w = (.ok pod', w')) :
    pod' = ((ofStore store c).grafts pod is ns deadline w).foldl (Inspection.graft c) pod := by
  have hfst := (congrArg Prod.fst h).symm.trans mutate_fst
  rw [grafts, trace]
  split at hfst
  · simp at hfst
  · split at hfst
    · rename_i hcheck hdone
      simpa [hcheck, hdone] using hfst
    · rename_i hcheck hfresh
      rw [Bool.not_eq_true] at hfresh
      simp only [hfresh]
      rcases hr : run c ⟨store, namespaceOf ns pod, deadline⟩
          (Plan.of c .standard pod.spec.containers is) pod
          (.start (w.note (Targets.lines (Targets.listsOf is)))) with ⟨f | q, p⟩
      · simp [hr, Except.mapError] at hfst
      · obtain rfl : pod' = q := by simpa [hr, Except.mapError] using hfst
        exact eq_foldl_of_run_eq_ok (fun _ ↦ Plan.isJava_of_mem) hr

end Mutation

end Mutator

end AgentGraft
