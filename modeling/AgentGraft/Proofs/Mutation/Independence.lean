import Mathlib.Data.List.Perm.Basic
import AgentGraft.Proofs.Mutation.Handover
import AgentGraft.Proofs.Mutation.Steady
import AgentGraft.Proofs.Mutation.Telemetry

/-!
# Independence of containers

Over fixed bundles nothing that happens to one container feeds back into another: the cache tells
what a read would tell, the containers are inspected as they came in, and of the volume and the init
container only that they are there is looked at. So the grafts of a mutation may be made in any
order (`Inspection.foldl_graft_perm`), and what is grafted on a container is given by this container
and what the pod says outside its lists (`Mutator.mem_grafts_of_sameBut`). `mutate_independent` puts
both together.
-/

namespace AgentGraft

open Java (lacksAgent setContainer)

namespace Inspection

variable {c : Config} {pod : Pod} {l l' : List Inspection} {n k : Inspection}

/-! ### The order of grafts -/

/-- **Grafts on two containers commute** where they have the same settings: they replace different
containers, and whichever comes first adds the volume and the init container. -/
theorem graft_comm (hspec : n.spec = k.spec) (hne : n.index ≠ k.index) (pod : Pod) :
    graft c (graft c pod n) k = graft c (graft c pod k) n := by
  have hlists : ([n, k].foldl (graft c) pod).spec.initContainers =
        ([k, n].foldl (graft c) pod).spec.initContainers ∧
      ([n, k].foldl (graft c) pod).spec.volumes = ([k, n].foldl (graft c) pod).spec.volumes := by
    by_cases h : lacksAgent pod = true
    -- the first of the two adds both, from the settings that they share
    · obtain ⟨hinit, hvol⟩ := foldl_graft_of_lacksAgent (c := c) (l := [k]) h n
      obtain ⟨hinit', hvol'⟩ := foldl_graft_of_lacksAgent (c := c) (l := [n]) h k
      rw [hinit, hvol, hinit', hvol', hspec]
      exact ⟨rfl, rfl⟩
    · rw [Bool.not_eq_true] at h
      obtain ⟨hinit, hvol⟩ := foldl_graft_of_present (c := c) (l := [n, k]) h
      obtain ⟨hinit', hvol'⟩ := foldl_graft_of_present (c := c) (l := [k, n]) h
      exact ⟨hinit.trans hinit'.symm, hvol.trans hvol'.symm⟩
  refine Pod.eq_of_withoutLists ?_ ?_ hlists.1 hlists.2
  · simp only [graft_withoutLists]
  · simp only [graft, Java.withArtefacts_containers, Java.setContainer_containers]
    exact List.set_comm _ _ hne

/-- **Grafting does not depend on the order** in which containers come. -/
theorem foldl_graft_perm (hspec : ∀ n ∈ l, ∀ k ∈ l, n.spec = k.spec)
    (hnd : (l.map (·.index)).Nodup) (h : l.Perm l') (pod : Pod) :
    l.foldl (graft c) pod = l'.foldl (graft c) pod := by
  refine h.foldl_eq' (fun n hn k hk pod ↦ ?_) pod
  by_cases hindex : n.index = k.index
  · rw [List.inj_on_of_nodup_map hnd hn hk hindex]
  · exact graft_comm (hspec n hn k hk) hindex pod

/-! ### Settings up to their targets -/

/-- The inspection for other settings. -/
def withSpec (spec : JavaSpec) (n : Inspection) : Inspection := { n with spec := spec }

end Inspection

/-- The settings are the same but for the targets. -/
def JavaSpec.Alike (spec spec' : JavaSpec) : Prop :=
  { spec with containers := spec'.containers } = spec'

namespace Inspection

variable {c : Config} {pod : Pod}

/-- Grafting does not look at the targets. -/
theorem graft_withSpec {spec : JavaSpec} {n : Inspection} (h : n.spec.Alike spec) (pod : Pod) :
    (n.withSpec spec).graft c pod = n.graft c pod := by
  obtain ⟨spec', index, container, view⟩ := n
  rw [← show _ = spec from h]
  rfl

theorem foldl_graft_withSpec {spec : JavaSpec} {l : List Inspection}
    (h : ∀ n ∈ l, n.spec.Alike spec) (pod : Pod) :
    (l.map (withSpec spec)).foldl (graft c) pod = l.foldl (graft c) pod := by
  induction l generalizing pod with
  | nil => rfl
  | cons n l ih =>
    rw [List.map_cons, List.foldl_cons, List.foldl_cons,
      graft_withSpec (h n (List.mem_cons_self ..))]
    exact ih (fun k hk ↦ h k (List.mem_cons_of_mem _ hk)) _

end Inspection

/-! ### Pods that differ in one container -/

/-- The pods differ in nothing but one container, which has the same name in both, and in what
injections add. -/
structure Pod.SameBut (p : Pod) (j : Nat) (q : Pod) : Prop where
  withoutLists : p.withoutLists = q.withoutLists
  containerNames : p.containerNames = q.containerNames
  elsewhere : ∀ i ≠ j, p.spec.containers[i]? = q.spec.containers[i]?

theorem Pod.SameBut.symm {j : Nat} {p q : Pod} (h : p.SameBut j q) : q.SameBut j p :=
  ⟨h.withoutLists.symm, h.containerNames.symm, fun i hi ↦ (h.elsewhere i hi).symm⟩

/-- Another container of the same name makes such a pod. -/
theorem Pod.sameBut_setContainer {j : Nat} {pod : Pod} {k k' : Container}
    (hk : pod.spec.containers[j]? = some k) (hname : k'.name = k.name) :
    pod.SameBut j (setContainer pod j k') where
  withoutLists := rfl
  containerNames := (Pod.containerNames_setContainer hk hname).symm
  elsewhere i hi := by
    rw [Java.setContainer_containers, List.getElem?_set_ne (Ne.symm hi)]

/-! ### What is visited -/

namespace Plan

/-- Where all instrumentations are for Java and have targets, what is visited is found by the names
of all lists, in order. -/
theorem filterMap_index?_of_named {c : Config} {containers : List Container}
    {is : List Instrumentation}
    (h : ∀ i ∈ is, i.runtime = "java" ∧ Targets.names i.spec.containers ≠ []) :
    (Plan.of c .standard containers is).filterMap Visit.index? =
      (Targets.allNames (Targets.listsOf is)).filterMap (indexOf? containers) := by
  induction is with
  | nil => rfl
  | cons i is ih =>
    obtain ⟨hruntime, hnames⟩ := h i (List.mem_cons_self ..)
    have hlookup : (Injectors.standard.lookup i.runtime).isSome = true := by rw [hruntime]; rfl
    simp only [Plan.of, Targets.allNames, Targets.listsOf, List.flatMap_cons, List.map_cons,
      List.filterMap_append] at ih ⊢
    rw [ih fun j hj ↦ h j (List.mem_cons_of_mem _ hj), filterMap_index?_visits, if_pos hlookup,
      indexes]
    split
    · contradiction
    · rfl

end Plan

namespace Mutator

variable {c : Config} {b : Bundles} {store : Store} {pod q m : Pod} {is is' : List Instrumentation}
  {ns : Option String} {w w' v v' : World}

/-! ### Grafts but for the targets -/

/-- What is inspected at a container for some settings. -/
def inspectedAt? (b : Bundles) (ns : String) (pod : Pod) (spec : JavaSpec) (index : Nat) :
    Option Inspection :=
  inspected? b ns pod (.container Java.injector ⟨"java", spec⟩ index)

/-- But for the settings, what a step inspects depends on the container only. -/
theorem map_withSpec_inspected? (ns : String) (spec : JavaSpec) (u : Visit) :
    (inspected? b ns pod u).map (Inspection.withSpec spec) =
      u.index?.bind (inspectedAt? b ns pod spec) := by
  cases u with
  | unknownRuntime runtime => rfl
  | noSuchContainer target => rfl
  | container injector i index =>
    rw [Visit.index?, Option.bind_some, inspectedAt?, inspected?, inspected?]
    rcases pod.spec.containers[index]? with - | container
    · rfl
    · dsimp only
      rcases b.view ns container with f | view <;> rfl

/-- **But for the targets, the grafts are given by the containers that are visited.** -/
theorem map_withSpec_grafts (hb : store.Serves b)
    (hcheck : Targets.check (Targets.listsOf is) = .ok ())
    (hfresh : Footprint.isInstrumented c pod = false)
    (h : (ofStore store c).mutate pod is ns none w = (.ok m, v)) (spec : JavaSpec) :
    ((ofStore store c).grafts pod is ns none w).map (Inspection.withSpec spec) =
      (((Plan.of c .standard pod.spec.containers is).filterMap Visit.index?).filterMap
        (inspectedAt? b (namespaceOf ns pod) pod spec)).filter (·.passes c pod) := by
  have hpasses : (fun n : Inspection ↦ n.passes c pod) ∘ Inspection.withSpec spec =
      fun n ↦ n.passes c pod := rfl
  rw [grafts_of_mutate_eq_ok hb hcheck hfresh h, List.filterMap_filterMap, ← hpasses,
    ← List.filter_map, List.map_filterMap, hpasses]
  simp only [map_withSpec_inspected?]

/-! ### The order of work -/

/-- A mutation that yields a pod yields the one that any other list with the same containers to
visit and the same settings yields. -/
theorem eq_of_mutate_eq_ok_of_perm (hb : store.Serves b)
    (hfresh : Footprint.isInstrumented c pod = false) {spec : JavaSpec}
    (hspec : ∀ i ∈ is, i.spec.Alike spec) (hspec' : ∀ i ∈ is', i.spec.Alike spec)
    (hcheck : Targets.check (Targets.listsOf is) = .ok ())
    (hcheck' : Targets.check (Targets.listsOf is') = .ok ())
    (hperm : ((Plan.of c .standard pod.spec.containers is).filterMap Visit.index?).Perm
      ((Plan.of c .standard pod.spec.containers is').filterMap Visit.index?))
    (h : (ofStore store c).mutate pod is ns none w = (.ok m, v))
    (h' : (ofStore store c).mutate pod is' ns none w' = (.ok q, v')) : m = q := by
  -- the grafts of both, brought to the settings that they share but for the targets
  set l := ((ofStore store c).grafts pod is ns none w).map (Inspection.withSpec spec) with hl
  set l' := ((ofStore store c).grafts pod is' ns none w').map (Inspection.withSpec spec) with hl'
  have hsame : l.Perm l' := by
    rw [hl, hl', map_withSpec_grafts hb hcheck hfresh h, map_withSpec_grafts hb hcheck' hfresh h']
    exact (hperm.filterMap _).filter _
  have hgrafts {is : List Instrumentation} {w : World} (hspec : ∀ i ∈ is, i.spec.Alike spec) :
      ∀ n ∈ (ofStore store c).grafts pod is ns none w, n.spec.Alike spec := by
    intro n hn
    obtain ⟨i, hi, heq⟩ := exists_of_mem_trace (mem_trace_of_mem_grafts hn).1
    exact heq ▸ hspec i hi
  have hshared : ∀ n ∈ l, n.spec = spec := by
    intro n hn
    obtain ⟨k, -, rfl⟩ := List.mem_map.1 hn
    rfl
  have hnd : (l.map (·.index)).Nodup := by
    rw [hl, List.map_map]
    exact nodup_map_index_grafts
  rw [eq_foldl_of_mutate_eq_ok h, eq_foldl_of_mutate_eq_ok h',
    ← Inspection.foldl_graft_withSpec (hgrafts hspec),
    ← Inspection.foldl_graft_withSpec (hgrafts hspec'), ← hl, ← hl']
  exact Inspection.foldl_graft_perm (fun n hn k hk ↦ (hshared n hn).trans (hshared k hk).symm) hnd
    hsame pod

/-- **The order of work does not matter.** -/
theorem toOption_mutate_of_perm (hb : store.Serves b)
    (hfresh : Footprint.isInstrumented c pod = false) {spec : JavaSpec}
    (hspec : ∀ i ∈ is, i.spec.Alike spec) (hspec' : ∀ i ∈ is', i.spec.Alike spec)
    (hcheck : Targets.check (Targets.listsOf is) = .ok ())
    (hcheck' : Targets.check (Targets.listsOf is') = .ok ())
    (hperm : ((Plan.of c .standard pod.spec.containers is).filterMap Visit.index?).Perm
      ((Plan.of c .standard pod.spec.containers is').filterMap Visit.index?)) :
    ((ofStore store c).mutate pod is ns none w).1.toOption =
      ((ofStore store c).mutate pod is' ns none w').1.toOption := by
  have hiff : (∃ m v, (ofStore store c).mutate pod is ns none w = (.ok m, v)) ↔
      ∃ q v', (ofStore store c).mutate pod is' ns none w' = (.ok q, v') := by
    rw [exists_mutate_eq_ok_iff_view hb hcheck hfresh,
      exists_mutate_eq_ok_iff_view hb hcheck' hfresh]
    simp only [hperm.mem_iff]
  rcases h : (ofStore store c).mutate pod is ns none w with ⟨f | m, v⟩ <;>
    rcases h' : (ofStore store c).mutate pod is' ns none w' with ⟨f' | q, v'⟩
  · rfl
  · obtain ⟨m, v, hm⟩ := hiff.2 ⟨q, v', h'⟩
    rw [h] at hm
    cases hm
  · obtain ⟨q, v', hq⟩ := hiff.1 ⟨m, v, h⟩
    rw [h'] at hq
    cases hq
  · rw [eq_of_mutate_eq_ok_of_perm hb hfresh hspec hspec' hcheck hcheck' hperm h h']

/-! ### One container among others -/

/-- What is grafted on other containers than one does not depend on that one. -/
theorem mem_grafts_of_sameBut {j : Nat} (hpq : pod.SameBut j q) (hb : store.Serves b)
    (hcheck : Targets.check (Targets.listsOf is) = .ok ())
    (hp : Footprint.isInstrumented c pod = false) (hq : Footprint.isInstrumented c q = false)
    (h : (ofStore store c).mutate pod is ns none w = (.ok m, v)) {m' : Pod}
    (h' : (ofStore store c).mutate q is ns none w' = (.ok m', v')) {n : Inspection}
    (hn : n ∈ (ofStore store c).grafts pod is ns none w) (hindex : n.index ≠ j) :
    n ∈ (ofStore store c).grafts q is ns none w' := by
  have hplan : Plan.of c .standard pod.spec.containers is =
      Plan.of c .standard q.spec.containers is :=
    List.flatMap_congr fun i _ ↦ Plan.visits_congr hpq.containerNames i
  have hns : namespaceOf ns pod = namespaceOf ns q := by
    have hmetadata : pod.metadata = q.metadata := congrArg (·.metadata) hpq.withoutLists
    rw [namespaceOf, namespaceOf, hmetadata]
  rw [grafts_of_mutate_eq_ok hb hcheck hp h, hplan, hns] at hn
  rw [grafts_of_mutate_eq_ok hb hcheck hq h']
  obtain ⟨hn, hpass⟩ := List.mem_filter.1 hn
  obtain ⟨u, hu, hinspect⟩ := List.mem_filterMap.1 hn
  -- the step is about the container of the inspection, which is the same in both pods
  have hsame : ∀ i, u.index? = some i → pod.spec.containers[i]? = q.spec.containers[i]? := by
    intro i hi
    rw [(eq_of_inspected? hinspect).1, Option.some.injEq] at hi
    exact hpq.elsewhere i (hi ▸ hindex)
  rw [inspected?_congr hsame] at hinspect
  rw [Inspection.passes_congr hpq.withoutLists] at hpass
  exact List.mem_filter.2 ⟨List.mem_filterMap.2 ⟨u, hu, hinspect⟩, hpass⟩

/-- **What becomes of a container does not depend on another one.** -/
theorem getElem?_eq_of_sameBut {i j : Nat} (hpq : pod.SameBut j q) (hb : store.Serves b)
    (hcheck : Targets.check (Targets.listsOf is) = .ok ())
    (hp : Footprint.isInstrumented c pod = false) (hq : Footprint.isInstrumented c q = false)
    (h : (ofStore store c).mutate pod is ns none w = (.ok m, v)) {m' : Pod}
    (h' : (ofStore store c).mutate q is ns none w' = (.ok m', v')) (hi : i ≠ j) :
    m.spec.containers[i]? = m'.spec.containers[i]? := by
  by_cases hgraft : ∃ n ∈ (ofStore store c).grafts pod is ns none w, n.index = i
  · obtain ⟨n, hn, rfl⟩ := hgraft
    have hn' := mem_grafts_of_sameBut hpq hb hcheck hp hq h h' hn hi
    rw [eq_foldl_of_mutate_eq_ok h, eq_foldl_of_mutate_eq_ok h',
      Inspection.getElem?_foldl_graft_of_mem nodup_map_index_grafts
        (fun _ ↦ getElem?_of_mem_grafts) hn,
      Inspection.getElem?_foldl_graft_of_mem nodup_map_index_grafts
        (fun _ ↦ getElem?_of_mem_grafts) hn']
  · have hkept : i ∉ ((ofStore store c).grafts pod is ns none w).map (·.index) := fun hmem ↦
      hgraft (List.mem_map.1 hmem)
    have hkept' : i ∉ ((ofStore store c).grafts q is ns none w').map (·.index) := by
      intro hmem
      obtain ⟨n, hn, rfl⟩ := List.mem_map.1 hmem
      exact hgraft ⟨n, mem_grafts_of_sameBut hpq.symm hb hcheck hq hp h' h hn hi, rfl⟩
    rw [eq_foldl_of_mutate_eq_ok h, eq_foldl_of_mutate_eq_ok h',
      Inspection.getElem?_foldl_graft_of_not_mem hkept,
      Inspection.getElem?_foldl_graft_of_not_mem hkept', hpq.elsewhere i hi]

end Mutator

/-! ### Independence -/

section Mutation

variable {c : Config} {b : Bundles} {store : Store} {pod : Pod}

/-- **Containers are instrumented independently** of each other and of the order of work. Over fixed
bundles, for a pod that is not instrumented yet: instrumentations for Java that name the same
containers, in another order or grouped in another way, yield the same pod; another container in one
place, of the same name, leaves what becomes of all others as it is; and if the bundles are texts
there always is a pod. -/
theorem mutate_independent (hb : store.Serves b)
    (hfresh : Footprint.isInstrumented c pod = false) (ns : Option String) (w w' : World) :
    (∀ (spec : JavaSpec) (is is' : List Instrumentation),
      (∀ i ∈ is ++ is', i.runtime = "java" ∧ i.spec.Alike spec ∧
        Targets.names i.spec.containers ≠ []) →
      Targets.check (Targets.listsOf is) = .ok () → Targets.check (Targets.listsOf is') = .ok () →
      (Targets.allNames (Targets.listsOf is)).Perm (Targets.allNames (Targets.listsOf is')) →
      ((Mutator.ofStore store c).mutate pod is ns none w).1.toOption =
        ((Mutator.ofStore store c).mutate pod is' ns none w').1.toOption) ∧
    (∀ (j : Nat) (k k' : Container) (is : List Instrumentation),
      pod.spec.containers[j]? = some k → k'.name = k.name →
      Footprint.isInstrumented c (setContainer pod j k') = false →
      Targets.check (Targets.listsOf is) = .ok () →
      ∀ m m' v v', (Mutator.ofStore store c).mutate pod is ns none w = (.ok m, v) →
        (Mutator.ofStore store c).mutate (setContainer pod j k') is ns none w' = (.ok m', v') →
        ∀ i ≠ j, m.spec.containers[i]? = m'.spec.containers[i]?) ∧
    (b.IsText → ∀ (q : Pod) (is : List Instrumentation) (v : World),
      Targets.check (Targets.listsOf is) = .ok () →
      ∃ m v', (Mutator.ofStore store c).mutate q is ns none v = (.ok m, v')) := by
  refine ⟨?_, ?_, ?_⟩
  · intro spec is is' hall hcheck hcheck' hperm
    have hnamed : ∀ i ∈ is, i.runtime = "java" ∧ Targets.names i.spec.containers ≠ [] :=
      fun i hi ↦ ⟨(hall i (List.mem_append_left _ hi)).1, (hall i (List.mem_append_left _ hi)).2.2⟩
    have hnamed' : ∀ i ∈ is', i.runtime = "java" ∧ Targets.names i.spec.containers ≠ [] :=
      fun i hi ↦
        ⟨(hall i (List.mem_append_right _ hi)).1, (hall i (List.mem_append_right _ hi)).2.2⟩
    refine Mutator.toOption_mutate_of_perm hb hfresh
      (fun i hi ↦ (hall i (List.mem_append_left _ hi)).2.1)
      (fun i hi ↦ (hall i (List.mem_append_right _ hi)).2.1) hcheck hcheck' ?_
    rw [Plan.filterMap_index?_of_named hnamed, Plan.filterMap_index?_of_named hnamed']
    exact hperm.filterMap _
  · intro j k k' is hk hname hfresh' hcheck m m' v v' h h' i hi
    exact Mutator.getElem?_eq_of_sameBut (Pod.sameBut_setContainer hk hname) hb hcheck hfresh
      hfresh' h h' hi
  · intro htext q is v hcheck
    exact Mutator.exists_mutate_eq_ok (hb.yieldsText htext) hcheck q ns none v

end Mutation

/-! ### A pod with two containers that import the same bundles -/

namespace Sample

/-- A pod with two such containers. -/
def pair : Pod :=
  ⟨.empty, { PodSpec.empty with containers := [importer, { importer with name := "web" }] }, []⟩

/-- Another container of the same name: it imports nothing, routes its telemetry to a third party,
and names a user. -/
def declarer : Container :=
  { importer with
    env := [foreignEndpoint], envFrom := [], securityContext := some ⟨none, some 1000, []⟩ }

/-- The pod with that one in the first place. -/
def otherPair : Pod := setContainer pair 0 declarer

/-- Settings for the containers of a list. -/
def targeting (list : String) : Instrumentation :=
  ⟨"java", { instrumentation.spec with containers := list }⟩

end Sample

/-- Both get the agent in any order; and the second one gets the same, whatever the first one
says. -/
theorem mutate_independent_sample :
    ((Mutator.ofStore Sample.bundles.store .standard).mutate Sample.pair
        [Sample.targeting "app,web"] none none (.start 0)).1.toOption =
      ((Mutator.ofStore Sample.bundles.store .standard).mutate Sample.pair
        [Sample.targeting " web", Sample.targeting "app"] none none (.start 5)).1.toOption ∧
    ∃ m m' v v', (Mutator.ofStore Sample.bundles.store .standard).mutate Sample.pair
        [Sample.targeting "app,web"] none none (.start 0) = (.ok m, v) ∧
      (Mutator.ofStore Sample.bundles.store .standard).mutate Sample.otherPair
        [Sample.targeting "app,web"] none none (.start 5) = (.ok m', v') ∧
      m.spec.containers[1]? = m'.spec.containers[1]? := by
  obtain ⟨horder, hother, hyields⟩ := @mutate_independent .standard Sample.bundles
    Sample.bundles.store Sample.pair Sample.bundles.serves_store (by decide +kernel) none (.start 0)
    (.start 5)
  have hyields := hyields Sample.isText_bundles
  have hcheck : Targets.check (Targets.listsOf [Sample.targeting "app,web"]) = .ok () := by
    decide +kernel
  refine ⟨horder Sample.instrumentation.spec _ _ ?_ hcheck (by decide +kernel)
    (by decide +kernel), ?_⟩
  · intro i hi
    simp only [List.cons_append, List.nil_append, List.mem_cons, List.not_mem_nil, or_false] at hi
    rcases hi with rfl | rfl | rfl <;> exact ⟨rfl, rfl, by decide +kernel⟩
  · obtain ⟨m, v, h⟩ := hyields Sample.pair _ (.start 0) hcheck
    obtain ⟨m', v', h'⟩ := hyields Sample.otherPair _ (.start 5) hcheck
    have hsame := hother 0 Sample.importer Sample.declarer _ rfl rfl (by decide +kernel) hcheck m m'
      v v' h h' 1 (by decide)
    exact ⟨m, m', v, v', h, h', hsame⟩

end AgentGraft
