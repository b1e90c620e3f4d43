import AgentGraft.Proofs.Mutation.Completion
import AgentGraft.Proofs.Mutation.Grafted

/-!
# Runs over fixed bundles

Over a store that serves fixed bundles the cache of a run tells nothing that a read would not tell,
so what a step inspects is a function of the pod and of the step (`inspected?`). As no container is
visited twice, the pod may as well be the one that came in: the trace of a run that ends with a pod
is its plan, looked up in that pod (`inspections_of_run_eq_ok`).
-/

namespace AgentGraft

namespace Mutator

variable {c : Config} {s : Scope} {b : Bundles} {p p' : Pass} {pod pod' : Pod} {vs : List Visit}

/-! ### The cache of a run -/

/-- A step keeps a cache that agrees with the bundles. -/
theorem agrees_visit (hs : s.Reads b) (hp : p.cache.Agrees b s.ns) (v : Visit) (pod : Pod) :
    (visit c s v pod p).2.cache.Agrees b s.ns := by
  cases v with
  | unknownRuntime runtime => exact hp
  | noSuchContainer target => exact hp
  | container injector i index =>
    rcases hk : pod.spec.containers[index]? with - | container
    · rw [visit_of_getElem?_eq_none hk]
      exact hp
    · have hcache := (Environment.resolve_of_reads hs hp container).2
      rcases visit_container_cases (c := c) hk injector i p with
        ⟨f, p', hr, hvisit, -⟩ | ⟨view, p₁, pod', p', hr, hvisit, -, hsame, -⟩
      · rw [hr] at hcache
        rw [hvisit]
        exact hcache
      · rw [hr] at hcache
        rw [hvisit]
        show p'.cache.Agrees b s.ns
        rw [hsame]
        exact hcache

/-! ### What a step inspects -/

/-- What a step of a plan inspects over fixed bundles. -/
def inspected? (b : Bundles) (ns : String) (pod : Pod) : Visit → Option Inspection
  | .container _ i index =>
    match pod.spec.containers[index]? with
    | none => none
    | some container =>
      match b.view ns container with
      | .error _ => none
      | .ok view => some ⟨i.spec, index, container, view⟩
  | _ => none

/-- **The pass has no say in what a step inspects.** -/
theorem inspection?_of_reads (hs : s.Reads b) (hp : p.cache.Agrees b s.ns) (v : Visit) (pod : Pod) :
    inspection? s pod p v = inspected? b s.ns pod v := by
  cases v with
  | unknownRuntime runtime => rfl
  | noSuchContainer target => rfl
  | container injector i index =>
    rw [inspection?, inspected?]
    rcases pod.spec.containers[index]? with - | container
    · rfl
    · dsimp only
      rw [← (Environment.resolve_of_reads hs hp container).1]
      rcases Environment.resolve s container p with ⟨f | view, p₁⟩ <;> rfl

/-- A step looks at one container. -/
theorem inspected?_congr {v : Visit}
    (h : ∀ i, v.index? = some i → pod.spec.containers[i]? = pod'.spec.containers[i]?)
    (ns : String) :
    inspected? b ns pod v = inspected? b ns pod' v := by
  cases v with
  | unknownRuntime runtime => rfl
  | noSuchContainer target => rfl
  | container injector i index => rw [inspected?, inspected?, h index rfl]

theorem eq_of_inspected? {v : Visit} {ns : String} {n : Inspection}
    (h : inspected? b ns pod v = some n) :
    v.index? = some n.index ∧ pod.spec.containers[n.index]? = some n.container ∧
      b.view ns n.container = .ok n.view := by
  cases v with
  | unknownRuntime runtime => cases h
  | noSuchContainer target => cases h
  | container injector i index =>
    rw [inspected?] at h
    split at h
    · cases h
    · next container hc =>
      split at h
      · cases h
      · next view hview =>
        cases h
        exact ⟨rfl, hc, hview⟩

/-- **The view of an inspection is the view of its container.** -/
theorem view_of_mem_inspections (hs : s.Reads b) (hp : p.cache.Agrees b s.ns) {n : Inspection}
    (hn : n ∈ inspections c s vs pod p) : b.view s.ns n.container = .ok n.view := by
  induction vs generalizing pod p with
  | nil => cases hn
  | cons v vs ih =>
    rw [inspections, List.mem_append] at hn
    rcases hn with hn | hn
    · rw [Option.mem_toList, inspection?_of_reads hs hp] at hn
      exact (eq_of_inspected? hn).2.2
    · have hcache := agrees_visit (c := c) hs hp v pod
      rcases hv : visit c s v pod p with ⟨f | pod₁, p₁⟩
      · rw [hv] at hn
        cases hn
      · rw [hv] at hn hcache
        exact ih hcache hn

/-! ### The trace of a run -/

/-- A step changes no container but the one it is about. -/
theorem getElem?_of_visit_eq_ok {v : Visit} (hv : v.IsJava)
    (h : visit c s v pod p = (.ok pod', p')) {j : Nat} (hj : v.index? ≠ some j) :
    pod'.spec.containers[j]? = pod.spec.containers[j]? := by
  rw [eq_foldl_of_visit_eq_ok hv h]
  refine Inspection.getElem?_foldl_graft_of_not_mem (fun hmem ↦ hj ?_) pod
  obtain ⟨n, hn, rfl⟩ := List.mem_map.1 hmem
  have hn : inspection? s pod p v = some n := by simpa using (List.mem_filter.1 hn).1
  exact (getElem?_of_inspection? hn).1

/-- So a plan that visits no container twice finds the later ones as they were. -/
theorem getElem?_of_mem_later {v : Visit} (hv : v.IsJava)
    (hnd : ((v :: vs).filterMap Visit.index?).Nodup) (h : visit c s v pod p = (.ok pod', p'))
    {j : Nat} (hj : j ∈ vs.filterMap Visit.index?) :
    pod'.spec.containers[j]? = pod.spec.containers[j]? := by
  refine getElem?_of_visit_eq_ok hv h fun hindex ↦ ?_
  rw [List.filterMap_cons_some hindex, List.nodup_cons] at hnd
  exact hnd.1 hj

/-- **The trace of a run that ends with a pod** is its plan, looked up in the pod that came in. -/
theorem inspections_of_run_eq_ok (hs : s.Reads b) (hp : p.cache.Agrees b s.ns)
    (hvs : ∀ v ∈ vs, v.IsJava) (hnd : (vs.filterMap Visit.index?).Nodup)
    (h : run c s vs pod p = (.ok pod', p')) :
    inspections c s vs pod p = vs.filterMap (inspected? b s.ns pod) := by
  induction vs generalizing pod p with
  | nil => rfl
  | cons v vs ih =>
    have hcache := agrees_visit (c := c) hs hp v pod
    have htail : (vs.filterMap Visit.index?).Nodup :=
      hnd.sublist ((List.sublist_cons_self v vs).filterMap _)
    rw [run] at h
    rw [inspections, inspection?_of_reads hs hp]
    rcases hv : visit c s v pod p with ⟨f | pod₁, p₁⟩
    · rw [hv] at h
      cases h
    · rw [hv] at h hcache
      have hrest := ih hcache (fun v hv ↦ hvs v (List.mem_cons_of_mem _ hv)) htail h
      have hlater : vs.filterMap (inspected? b s.ns pod₁) = vs.filterMap (inspected? b s.ns pod) :=
        List.filterMap_congr fun u hu ↦ inspected?_congr (fun j hj ↦
          getElem?_of_mem_later (hvs v (List.mem_cons_self ..)) hnd hv
            (List.mem_filterMap.2 ⟨u, hu, hj⟩)) s.ns
      dsimp only
      rw [hrest, hlater, List.filterMap_cons]
      rcases inspected? b s.ns pod v with - | n <;> rfl

/-- A step ends with a pod exactly where the container that it visits has a view. -/
theorem exists_visit_eq_ok_iff (hs : s.Reads b) (hp : p.cache.Agrees b s.ns) (v : Visit)
    (pod : Pod) :
    (∃ pod' p', visit c s v pod p = (.ok pod', p')) ↔
      ∀ i ∈ v.index?, ∀ k ∈ pod.spec.containers[i]?, ∃ view, b.view s.ns k = .ok view := by
  cases v with
  | unknownRuntime runtime =>
    exact ⟨fun _ i hi ↦ absurd hi (Option.not_mem_none i), fun _ ↦ ⟨pod, _, rfl⟩⟩
  | noSuchContainer target =>
    exact ⟨fun _ i hi ↦ absurd hi (Option.not_mem_none i), fun _ ↦ ⟨pod, _, rfl⟩⟩
  | container injector i index =>
    simp only [Visit.index?, Option.mem_some_iff, forall_eq']
    rcases hk : pod.spec.containers[index]? with - | container
    · exact ⟨fun _ k hk ↦ absurd hk (Option.not_mem_none k),
        fun _ ↦ ⟨pod, p, visit_of_getElem?_eq_none hk injector i p⟩⟩
    · simp only [Option.mem_some_iff, forall_eq']
      rw [← (Environment.resolve_of_reads hs hp container).1]
      rcases visit_container_cases (c := c) hk injector i p with
        ⟨f, p', hr, hvisit, -⟩ | ⟨view, p₁, pod', p', hr, hvisit, -⟩
      · rw [hr, hvisit]
        simp
      · rw [hr]
        exact ⟨fun _ ↦ ⟨view, rfl⟩, fun _ ↦ ⟨pod', p', hvisit⟩⟩

/-- **A run ends with a pod exactly where every container that it visits has a view.** -/
theorem exists_run_eq_ok_iff (hs : s.Reads b) (hp : p.cache.Agrees b s.ns)
    (hvs : ∀ v ∈ vs, v.IsJava) (hnd : (vs.filterMap Visit.index?).Nodup) :
    (∃ m p', run c s vs pod p = (.ok m, p')) ↔
      ∀ i ∈ vs.filterMap Visit.index?, ∀ k ∈ pod.spec.containers[i]?,
        ∃ view, b.view s.ns k = .ok view := by
  induction vs generalizing pod p with
  | nil => exact ⟨fun _ i hi ↦ absurd hi (List.not_mem_nil (a := i)), fun _ ↦ ⟨pod, p, rfl⟩⟩
  | cons v vs ih =>
    have hcache := agrees_visit (c := c) hs hp v pod
    have hv := hvs v (List.mem_cons_self ..)
    have hvs' : ∀ v ∈ vs, v.IsJava := fun v hv ↦ hvs v (List.mem_cons_of_mem _ hv)
    have hnd' : (vs.filterMap Visit.index?).Nodup :=
      hnd.sublist ((List.sublist_cons_self v vs).filterMap _)
    have hstep := exists_visit_eq_ok_iff (c := c) hs hp v pod
    have hmem (i : Nat) : i ∈ (v :: vs).filterMap Visit.index? ↔
        i ∈ v.index? ∨ i ∈ vs.filterMap Visit.index? := by
      rw [List.mem_filterMap, List.mem_filterMap]
      simp
    rw [run]
    rcases h : visit c s v pod p with ⟨f | pod₁, p₁⟩
    · -- the container of the first step has no view
      rw [h] at hstep
      constructor
      · rintro ⟨_, _, hok⟩
        cases hok
      · intro hall
        obtain ⟨_, _, hok⟩ := hstep.2 fun i hi ↦ hall i ((hmem i).2 (.inl hi))
        cases hok
    · rw [h] at hstep hcache
      dsimp only
      rw [ih hcache hvs' hnd']
      constructor
      · intro hall i hi
        rcases (hmem i).1 hi with hi | hi
        · exact hstep.1 ⟨pod₁, p₁, rfl⟩ i hi
        · exact getElem?_of_mem_later hv hnd h hi ▸ hall i hi
      · intro hall i hi
        rw [getElem?_of_mem_later hv hnd h hi]
        exact hall i ((hmem i).2 (.inr hi))

/-! ### The trace of a mutation -/

section Mutation

variable {store : Store} {is : List Instrumentation} {ns : Option String} {m : Pod} {w v : World}

/-- Without a deadline reads go to the bundles that the store serves. -/
theorem reads_of_serves (hb : store.Serves b) (ns : String) : Scope.Reads ⟨store, ns, none⟩ b :=
  ⟨hb, rfl⟩

theorem view_of_mem_trace (hb : store.Serves b) {n : Inspection}
    (hn : n ∈ (ofStore store c).trace pod is ns none w) :
    b.view (namespaceOf ns pod) n.container = .ok n.view := by
  obtain ⟨hcheck, hfresh⟩ := accepted_of_mem_trace hn
  rw [trace_of_accepted hcheck hfresh] at hn
  exact view_of_mem_inspections (reads_of_serves hb _) (Cache.agrees_empty ..) hn

/-- **The grafts of a mutation** over fixed bundles: the plan, looked up in the pod, without what
does not pass. -/
theorem grafts_of_mutate_eq_ok (hb : store.Serves b)
    (hcheck : Targets.check (Targets.listsOf is) = .ok ())
    (hfresh : Footprint.isInstrumented c pod = false)
    (h : (ofStore store c).mutate pod is ns none w = (.ok m, v)) :
    (ofStore store c).grafts pod is ns none w =
      ((Plan.of c .standard pod.spec.containers is).filterMap
        (inspected? b (namespaceOf ns pod) pod)).filter (·.passes c pod) := by
  obtain ⟨m', p', hrun⟩ :=
    (exists_mutate_eq_ok_iff (m := ofStore store c) hcheck hfresh).1 ⟨m, v, h⟩
  have htrace := inspections_of_run_eq_ok (reads_of_serves hb _) (Cache.agrees_empty ..)
    (fun _ ↦ Plan.isJava_of_mem) (Plan.nodup_filterMap_index? hcheck) hrun
  rw [grafts, trace_of_accepted (m := ofStore store c) hcheck hfresh, htrace]

/-- A mutation with accepted targets ends with a pod exactly where every container that is visited
has a view. -/
theorem exists_mutate_eq_ok_iff_view (hb : store.Serves b)
    (hcheck : Targets.check (Targets.listsOf is) = .ok ())
    (hfresh : Footprint.isInstrumented c pod = false) :
    (∃ m v, (ofStore store c).mutate pod is ns none w = (.ok m, v)) ↔
      ∀ i ∈ (Plan.of c .standard pod.spec.containers is).filterMap Visit.index?,
        ∀ k ∈ pod.spec.containers[i]?, ∃ view, b.view (namespaceOf ns pod) k = .ok view :=
  (exists_mutate_eq_ok_iff (m := ofStore store c) hcheck hfresh).trans
    (exists_run_eq_ok_iff (reads_of_serves hb _) (Cache.agrees_empty ..)
      (fun _ ↦ Plan.isJava_of_mem) (Plan.nodup_filterMap_index? hcheck))

end Mutation

end Mutator

end AgentGraft
