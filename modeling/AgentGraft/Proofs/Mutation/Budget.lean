import AgentGraft.Proofs.Environment.Timeline
import AgentGraft.Proofs.Mutation.Handover

/-!
# Scope and budget of a mutation

A mutation reads bundles while it resolves the containers of its plan, and at no other time. As long
as the injectors keep what containers import, these are the bundles that the containers of the pod
that came in import; they are read from one namespace; and every read starts before the deadline and
may take the time that is left. So a mutation whose reads keep their time is done by the deadline,
however many containers import what cannot be had and is asked for again: `reads_of_mutate`.
-/

namespace AgentGraft

/-! ### Injectors that keep imports -/

/-- The name and the sources of every container, in the order of the pod. -/
def Pod.imports (pod : Pod) : List (String × List EnvFromSource) :=
  pod.spec.containers.map fun k ↦ (k.name, k.envFrom)

theorem Pod.imports_setContainer {pod : Pod} {i : Nat} {k k' : Container}
    (hk : pod.spec.containers[i]? = some k) (hname : k'.name = k.name)
    (hfrom : k'.envFrom = k.envFrom) : (Java.setContainer pod i k').imports = pod.imports := by
  obtain ⟨hlt, rfl⟩ := List.getElem?_eq_some_iff.1 hk
  have hself :
      (pod.spec.containers.set i pod.spec.containers[i]).map (fun k ↦ (k.name, k.envFrom)) =
      pod.imports := congrArg (List.map _) (List.set_getElem_self hlt)
  rw [List.map_set, ← hname, ← hfrom] at hself
  rw [imports, Java.setContainer_containers, List.map_set]
  exact hself

/-- Where imports are the same, a container imports what the one of the same number does. -/
theorem Pod.exists_imports_of_getElem? {pod pod' : Pod} (h : pod'.imports = pod.imports) {i : Nat}
    {k' : Container} (hk' : pod'.spec.containers[i]? = some k') :
    ∃ k, pod.spec.containers[i]? = some k ∧
      ∀ kind name, k'.Imports kind name → k.Imports kind name := by
  have hget : pod'.spec.containers[i]?.map (fun k ↦ (k.name, k.envFrom)) =
      pod.spec.containers[i]?.map (fun k ↦ (k.name, k.envFrom)) := by
    rw [← List.getElem?_map, ← List.getElem?_map]
    exact congrArg (fun l : List (String × List EnvFromSource) ↦ l[i]?) h
  rw [hk', Option.map_some, eq_comm, Option.map_eq_some_iff] at hget
  obtain ⟨k, hk, heq⟩ := hget
  have hfrom : k.envFrom = k'.envFrom := congrArg Prod.snd heq
  refine ⟨k, hk, fun kind name himports ↦ ?_⟩
  rwa [Container.Imports, hfrom]

/-- The injector leaves the containers of the pod their number, their names and their sources. -/
def Injector.KeepsImports (injector : Injector) : Prop :=
  ∀ c spec pod index view pod', injector.inject c spec pod index view = .ok (some pod') →
    pod'.imports = pod.imports

/-- All injectors that a runtime can lead to keep imports. -/
def Injectors.KeepImports (injectors : Injectors) : Prop :=
  ∀ runtime injector, injectors.lookup runtime = some injector → injector.KeepsImports

/-- **The Java agent changes no source.** -/
theorem Java.keepsImports_injector : Java.injector.KeepsImports := by
  intro c spec pod index view pod' h
  obtain ⟨container, hc, -, -, rfl⟩ := Java.inject_eq_some_iff.1 h
  rw [Pod.imports, Java.withArtefacts_containers]
  exact Pod.imports_setContainer hc rfl rfl

/-- The standard injectors keep imports. -/
theorem Injectors.keepImports_standard : standard.KeepImports := by
  intro runtime injector h
  rw [eq_java_of_lookup h]
  exact Java.keepsImports_injector

namespace Mutator

/-! ### The namespace of a mutation -/

section Namespace

variable {asked : Option String} {pod : Pod} {ns : String}

/-- **The namespace that is asked for** comes first, if it is not empty. -/
theorem namespaceOf_of_asked (hasked : asked = some ns) (hne : ns ≠ "") (pod : Pod) :
    namespaceOf asked pod = ns := by
  have hfilter : asked.filter (· ≠ "") = some ns := by simp [hasked, hne]
  rw [namespaceOf, hfilter]

/-- **The namespace of the pod** comes next, if it is not empty. -/
theorem namespaceOf_of_pod (hasked : ∀ a ∈ asked, a = "") (hpod : pod.metadata.ns = some ns)
    (hne : ns ≠ "") : namespaceOf asked pod = ns := by
  have hnone : asked.filter (· ≠ "") = none := by simpa using hasked
  have hsome : pod.metadata.ns.filter (· ≠ "") = some ns := by simp [hpod, hne]
  rw [namespaceOf, hnone, hsome]

/-- **The default namespace** comes last. -/
theorem namespaceOf_of_neither (hasked : ∀ a ∈ asked, a = "")
    (hpod : ∀ n ∈ pod.metadata.ns, n = "") : namespaceOf asked pod = "default" := by
  have hnone : asked.filter (· ≠ "") = none := by simpa using hasked
  have hnone' : pod.metadata.ns.filter (· ≠ "") = none := by simpa using hpod
  rw [namespaceOf, hnone, hnone']

end Namespace

variable {c : Config} {s : Scope} {asked : BundleKind → String → Prop} {w : World} {p p' : Pass}
  {pod pod' : Pod} {vs : List Visit}

/-! ### What a run asks for -/

/-- **A step asks for what its container imports.** -/
theorem reaches_visit (h : w.Reaches s asked p.world) (v : Visit)
    (hasked : ∀ i ∈ v.index?, ∀ k ∈ pod.spec.containers[i]?, ∀ kind name,
      k.Imports kind name → asked kind name) :
    w.Reaches s asked (visit c s v pod p).2.world := by
  cases v with
  | unknownRuntime runtime => exact h.note _
  | noSuchContainer target => exact h.note _
  | container injector i index =>
    rw [visit, visitContainer]
    rcases hk : pod.spec.containers[index]? with - | k
    · exact h
    · have hresolve := Environment.reaches_resolve h (hasked index rfl k hk)
      dsimp only
      rcases hr : Environment.resolve s k p with ⟨f | view, p₁⟩
      · rwa [hr] at hresolve
      · rw [hr] at hresolve
        dsimp only
        split
        · exact (hresolve.note _).note _
        · exact hresolve.note _
        · exact hresolve.note _

/-- A step keeps the imports that its injector keeps. -/
theorem imports_of_visit_eq_ok {v : Visit}
    (hv : ∀ injector i index, v = .container injector i index → injector.KeepsImports)
    (h : visit c s v pod p = (.ok pod', p')) : pod'.imports = pod.imports := by
  cases v with
  | unknownRuntime runtime => rw [Except.ok.inj (congrArg Prod.fst h)]
  | noSuchContainer target => rw [Except.ok.inj (congrArg Prod.fst h)]
  | container injector i index =>
    rcases hk : pod.spec.containers[index]? with - | k
    · rw [visit_of_getElem?_eq_none hk] at h
      rw [Except.ok.inj (congrArg Prod.fst h)]
    · rcases visit_container_cases (c := c) (s := s) hk injector i p with
        ⟨f, p₁, -, hvisit, -⟩ | ⟨view, -, pod₁, p₁, -, hvisit, -, -, hpod⟩
      · rw [hvisit] at h
        cases h
      · rw [hvisit] at h
        obtain rfl : pod₁ = pod' := Except.ok.inj (congrArg Prod.fst h)
        rcases hpod with rfl | hinject
        · rfl
        · exact hv injector i index rfl _ _ _ _ _ _ hinject

/-- **A run asks for what the containers of its plan import**, as the pod has them at the start. -/
theorem reaches_run (h : w.Reaches s asked p.world)
    (hvs : ∀ injector i index, Visit.container injector i index ∈ vs → injector.KeepsImports)
    (hasked : ∀ i ∈ vs.filterMap Visit.index?, ∀ k ∈ pod.spec.containers[i]?, ∀ kind name,
      k.Imports kind name → asked kind name) :
    w.Reaches s asked (run c s vs pod p).2.world := by
  induction vs generalizing pod p with
  | nil => exact h
  | cons v vs ih =>
    have hfirst : w.Reaches s asked (visit c s v pod p).2.world :=
      reaches_visit h v fun i hi ↦ hasked i (List.mem_filterMap.2 ⟨v, List.mem_cons_self .., hi⟩)
    rw [run]
    rcases hv : visit c s v pod p with ⟨f | pod₁, p₁⟩
    · rwa [hv] at hfirst
    · rw [hv] at hfirst
      have hkept : pod₁.imports = pod.imports := imports_of_visit_eq_ok
        (fun injector i index heq ↦ hvs injector i index (heq ▸ List.mem_cons_self ..)) hv
      refine ih hfirst (fun injector i index hmem ↦
        hvs injector i index (List.mem_cons_of_mem _ hmem)) fun i hi k hk kind name himports ↦ ?_
      -- what a container imports now it imported at the start
      obtain ⟨k₀, hk₀, himports₀⟩ := Pod.exists_imports_of_getElem? hkept hk
      obtain ⟨u, hu, hindex⟩ := List.mem_filterMap.1 hi
      exact hasked i (List.mem_filterMap.2 ⟨u, List.mem_cons_of_mem _ hu, hindex⟩) k₀ hk₀ kind name
        (himports₀ kind name himports)

/-! ### What a mutation asks for -/

/-- A container that some instrumentation is meant for, by a runtime with an injector, imports the
bundle. -/
def Asks (m : Mutator) (pod : Pod) (is : List Instrumentation) (kind : BundleKind) (name : String) :
    Prop :=
  ∃ i ∈ is, ∃ index ∈ m.sites pod i, ∃ k, pod.spec.containers[index]? = some k ∧ k.Imports kind name

variable {m : Mutator} {is : List Instrumentation}

/-- What is visited is what instrumentations are meant for. -/
theorem exists_mem_sites {index : Nat}
    (h : index ∈ (Plan.of m.config m.injectors pod.spec.containers is).filterMap Visit.index?) :
    ∃ i ∈ is, index ∈ m.sites pod i := by
  obtain ⟨v, hv, hindex⟩ := List.mem_filterMap.1 h
  cases v with
  | unknownRuntime runtime => cases hindex
  | noSuchContainer target => cases hindex
  | container injector i index' =>
    obtain rfl : index' = index := Option.some.inj hindex
    obtain ⟨hi, hlookup, hmem⟩ := Plan.container_mem_iff.1 hv
    refine ⟨i, hi, ?_⟩
    rw [sites, hlookup, Option.isSome_some, if_pos rfl]
    rwa [Plan.indexes_eq_sites] at hmem

/-- The run of the plan asks for what containers import that instrumentations are meant for. -/
theorem reaches_plan (hkeep : m.injectors.KeepImports) (h : w.Reaches s (m.Asks pod is) p.world) :
    w.Reaches s (m.Asks pod is)
      (run m.config s (Plan.of m.config m.injectors pod.spec.containers is) pod p).2.world := by
  refine reaches_run h
    (fun injector i index hmem ↦ hkeep _ _ (Plan.container_mem_iff.1 hmem).2.1)
    fun index hindex k hk kind name himports ↦ ?_
  obtain ⟨i, hi, hsite⟩ := exists_mem_sites hindex
  exact ⟨i, hi, index, hsite, k, hk, himports⟩

/-- What a mutation leaves behind: nothing is read where the targets are refused or the pod carries
the agent already; else the world is the one that its run leaves. -/
theorem reaches_mutate (hkeep : m.injectors.KeepImports) (pod : Pod) (is : List Instrumentation)
    (ns : Option String) (deadline : Option Int) (w : World) :
    w.Reaches ⟨m.store, namespaceOf ns pod, deadline⟩
      (fun kind name ↦ Targets.check (Targets.listsOf is) = .ok () ∧
        Footprint.isInstrumented m.config pod = false ∧ m.Asks pod is kind name)
      (m.mutate pod is ns deadline w).2 := by
  rw [mutate]
  split
  · exact .refl
  · dsimp only
    split
    · exact .note _ .refl
    · next hcheck =>
      split
      · exact .note _ (.note _ .refl)
      · next hfresh =>
        rw [Bool.not_eq_true] at hfresh
        refine .mono (?_ : w.Reaches _ (m.Asks pod is) _) fun _ _ hasks ↦ ⟨hcheck, hfresh, hasks⟩
        have hstart : w.Reaches ⟨m.store, namespaceOf ns pod, deadline⟩ (m.Asks pod is)
            (Pass.start (w.note (Targets.lines (Targets.listsOf is)))).world := .note _ .refl
        have hrun := reaches_plan hkeep hstart
        split
        · next heq => rwa [heq] at hrun
        · next heq => rwa [heq] at hrun

end Mutator

section Mutation

variable {m : Mutator}

/-- **Reads stay within their scope and their budget.** Let the injectors keep all imports. Then all
reads of a mutation are for one namespace: the one that is asked for if it is not empty, else that
of the pod if it is not empty, else the default one; and they are for bundles that a container
imports which a runtime with an injector is meant for. There are none where the targets are refused
or the pod is instrumented already. They follow one another on the clock; with a deadline each
starts before it and may take the time that is left; and if they take no more than that, the clock
stands at the later of start and deadline at most when the mutation ends. -/
theorem reads_of_mutate (hkeep : m.injectors.KeepImports) (pod : Pod) (is : List Instrumentation)
    (ns : Option String) (deadline : Option Int) (w : World) :
    ∃ made, (m.mutate pod is ns deadline w).2.reads = w.reads ++ made ∧
      (m.mutate pod is ns deadline w).2.clock = m.store.clockAfter w.clock w.reads made ∧
      (∀ r ∈ made, (∀ a ∈ ns, a ≠ "" → r.ns = a) ∧
        ((∀ a ∈ ns, a = "") → ∀ n ∈ pod.metadata.ns, n ≠ "" → r.ns = n) ∧
        ((∀ a ∈ ns, a = "") → (∀ n ∈ pod.metadata.ns, n = "") → r.ns = "default") ∧
        m.Asks pod is r.kind r.name) ∧
      (made ≠ [] → Targets.check (Targets.listsOf is) = .ok () ∧
        Footprint.isInstrumented m.config pod = false) ∧
      (∀ seen r, seen ++ [r] <+: made →
        r.start = m.store.clockAfter w.clock w.reads seen ∧
          r.timeout = deadline.map (· - r.start) ∧ ∀ d ∈ deadline, r.start < d) ∧
      (∀ d ∈ deadline, m.store.InTime w.reads made →
        (m.mutate pod is ns deadline w).2.clock ≤ max w.clock d) := by
  obtain ⟨made, hreads, hclock, hmade, hpaced⟩ :=
    (Mutator.reaches_mutate hkeep pod is ns deadline w).exists_paced
  refine ⟨made, hreads, hclock, ?_, ?_, ?_, ?_⟩
  · intro r hr
    obtain ⟨hns, -, -, hasks⟩ := hmade r hr
    refine ⟨fun a ha hne ↦ ?_, fun hempty n hn hne ↦ ?_, fun hempty hempty' ↦ ?_, hasks⟩
    · exact hns.trans (Mutator.namespaceOf_of_asked ha hne pod)
    · exact hns.trans (Mutator.namespaceOf_of_pod hempty hn hne)
    · exact hns.trans (Mutator.namespaceOf_of_neither hempty hempty')
  · intro hne
    obtain ⟨r, hr⟩ := List.exists_mem_of_ne_nil made hne
    exact ⟨(hmade r hr).2.1, (hmade r hr).2.2.1⟩
  · intro seen r hprefix
    have hr : r ∈ made := hprefix.subset (by simp)
    exact ⟨hpaced.start seen r hprefix, hpaced.timeout r hr, hpaced.before r hr⟩
  · intro d hd hcost
    rw [hclock]
    exact hpaced.clockAfter_le hcost hd

end Mutation

/-! ### A store that takes all the time it gets -/

namespace Sample

/-- A store that has one config map and takes two seconds for a read, or what is left. -/
def slow : Store := ⟨true, fun _ read ↦
  ⟨if read.name = "app-env" then .contents [("LOG_LEVEL", .str "debug")]
    else .fault ⟨true, read.kind.name, read.ns, read.name, "not found"⟩,
    min (read.timeout.getD 2) 2⟩⟩

/-- A pod with two containers that import it, and another one that is not there. -/
def importers : Pod :=
  ⟨{ ObjectMeta.empty with ns := some "shop" },
    { PodSpec.empty with containers := [importer, { importer with name := "worker" }] }, []⟩

/-- What a mutation with a deadline leaves behind. -/
def slowWorld : World :=
  ((Mutator.ofStore slow .standard).mutate importers [instrumentation] (some "")
    (some 5) (.start 0)).2

end Sample

/-- The one that is not there is asked for again, with the second that is left, and the mutation
ends with the deadline. All is asked for in the namespace of the pod, as the one that is asked for
is empty. -/
theorem reads_slow_sample : Injectors.standard.KeepImports ∧
    Sample.slowWorld.reads.map (fun r ↦ (r.name, r.start, r.timeout)) =
      [("app-env", 0, some 5), ("node-env", 2, some 3), ("node-env", 4, some 1)] ∧
    (∀ r ∈ Sample.slowWorld.reads, r.ns = "shop") ∧
    Sample.slow.InTime [] Sample.slowWorld.reads ∧ Sample.slowWorld.clock ≤ 5 := by
  obtain ⟨made, hreads, -, hscope, -, -, hbudget⟩ := @reads_of_mutate
    (Mutator.ofStore Sample.slow .standard) Injectors.keepImports_standard Sample.importers
    [Sample.instrumentation] (some "") (some 5) (.start 0)
  have htime : Sample.slow.InTime [] made := by
    intro seen r _ timeout htimeout
    show min (r.timeout.getD 2) 2 ≤ timeout
    rw [Option.mem_def.1 htimeout, Option.getD_some]
    exact Int.min_le_left ..
  have hns : ∀ r ∈ made, r.ns = "shop" := fun r hr ↦
    (hscope r hr).2.1 (fun a ha ↦ (Option.some.inj ha).symm) "shop" rfl (by decide)
  obtain rfl : made = Sample.slowWorld.reads := hreads.symm
  exact ⟨Injectors.keepImports_standard, by decide +kernel, hns, htime, hbudget 5 rfl htime⟩

end AgentGraft
