import AgentGraft.Proofs.Java.Shape
import AgentGraft.Proofs.Mutation.Precedence
import AgentGraft.Proofs.Mutation.Sources

/-!
# Options of the virtual machine

The agent is put at the end of the options that a container has, wherever these come from: from the
container, from a bundle that it imports, or, where it has none, from the first proposal of them
(`Java.baseOptions`). What the container sees afterwards under the name are these options with the
agent, once; and they are declared, so no bundle is asked for them again.

Options that are declared with a source cannot be extended, and a container that has such ones first
is left as it is.
-/

namespace AgentGraft

namespace Java

variable {c : Config} {spec : JavaSpec} {view env es : List EnvVar} {e : EnvVar}

/-! ### One container -/

/-- The options that the agent is put behind: those that the owner sees, else those that are
proposed first. -/
def baseOptions (spec : JavaSpec) (view : List EnvVar) : String :=
  if Env.declares toolOptions view then Env.valueOf toolOptions view
  else Env.valueOf toolOptions spec.env

/-- The standard policy has no say in the options: they are added where the owner sees none. -/
theorem admits_toolOptions_standard (view : List EnvVar) (value : Option String) :
    Policy.admits .standard view toolOptions value = !Env.declares toolOptions view := by
  have hmetrics : toolOptions ≠ Config.standard.reserved.metricsExporter := by decide
  have hlogs : toolOptions ≠ Config.standard.reserved.logsExporter := by decide
  have htraces : Config.standard.reserved.traces.contains toolOptions = false := by decide
  simp only [Policy.admits, if_neg hmetrics, if_neg hlogs, htraces, Bool.false_eq_true, if_false,
    Bool.and_true]

theorem find?_toolOptions_map_extended (es : List EnvVar) :
    Env.find? toolOptions (es.map extended) = (Env.find? toolOptions es).map withAgent := by
  induction es with
  | nil => rfl
  | cons e es ih =>
    rw [List.map_cons, Env.find?_cons, Env.find?_cons, extended_name]
    split
    · next he => rw [extended, if_pos he, Option.map_some]
    · exact ih

/-- Of the proposed options the first are added, where the owner sees none. -/
theorem find?_toolOptions_chosen_standard (view es : List EnvVar) :
    Env.find? toolOptions (chosen .standard view es) =
      if Env.declares toolOptions view then none else Env.find? toolOptions es := by
  have hadmits (e : EnvVar) :
      (e.name == toolOptions && Policy.admits .standard view e.name e.value) =
        (e.name == toolOptions && !Env.declares toolOptions view) := by
    by_cases he : e.name = toolOptions
    · rw [he, admits_toolOptions_standard]
    · rw [beq_eq_false_iff_ne.2 he, Bool.false_and, Bool.false_and]
  rw [← admitted_eq_chosen, find?_admitted List.not_mem_nil]
  simp only [hadmits]
  split
  · next hdecl => simp [hdecl]
  · next hdecl => simp [hdecl, Env.find?]

theorem valueOf_of_find?_eq_some {name : String} (h : Env.find? name env = some e) :
    Env.valueOf name env = e.value.getD "" := by
  rw [Env.valueOf, h]

theorem valueOf_of_find?_eq_none {name : String} (h : Env.find? name env = none) :
    Env.valueOf name env = "" := by
  rw [Env.valueOf, h]

/-- **The options of a container with the agent** are its base options with the agent at their
end. -/
theorem value_toolOptions_injectEnv (hgrows : env <+: view) :
    ∃ e, Env.find? toolOptions (injectEnv .standard spec view env) = some e ∧
      e.value = some (baseOptions spec view ++ agentOption) := by
  rw [injectEnv_eq_append, Env.find?_append, find?_updateFirst withAgent_name]
  rcases hfind : Env.find? toolOptions env with - | e
  · -- the options are not declared, so they are among the additions
    have hdecl : Env.declares toolOptions env = false := Env.find?_eq_none_iff.1 hfind
    rw [additions_eq_append hgrows, Env.find?_append, Env.find?_append,
      find?_toolOptions_map_extended, missingOptions, Env.declares_append, hdecl, Bool.false_or,
      Env.declares, find?_toolOptions_chosen_standard, baseOptions]
    split
    · exact ⟨_, rfl, rfl⟩
    · next hview =>
      have hnone : Env.find? toolOptions view = none :=
        Env.find?_eq_none_iff.2 (by simpa using hview)
      rcases hspec : Env.find? toolOptions spec.env with - | e
      · refine ⟨_, rfl, ?_⟩
        rw [valueOf_of_find?_eq_none hspec, valueOf_of_find?_eq_none hnone]
        rfl
      · refine ⟨_, rfl, ?_⟩
        rw [valueOf_of_find?_eq_some hspec]
        rfl
  · obtain ⟨rest, rfl⟩ := hgrows
    have hview : Env.find? toolOptions (env ++ rest) = some e := by
      rw [Env.find?_append, hfind, Option.some_or]
    refine ⟨withAgent e, rfl, ?_⟩
    rw [baseOptions, Env.declares, hview, if_pos Option.isSome_some, valueOf_of_find?_eq_some hview]
    rfl

end Java

/-! ### Mutations -/

section Mutation

variable {store : Store} {b : Bundles} {pod m : Pod} {is : List Instrumentation}
  {ns : Option String} {w w' : World}

/-- **A container with the agent sees its base options with the agent**, and declares them. -/
theorem Bundles.exists_options_injectContainer {ns : String} {k : Container} {view : List EnvVar}
    (h : b.view ns k = .ok view) (spec : JavaSpec) :
    ∃ view' e, b.view ns (Java.injectContainer .standard spec view k) = .ok view' ∧
      Env.find? Java.toolOptions view' = some e ∧
      e.value = some (Java.baseOptions spec view ++ Java.agentOption) := by
  obtain ⟨view', hview', -⟩ := b.exists_view_injectContainer h .standard spec
  obtain ⟨e, hfind, hvalue⟩ :
      ∃ e, Env.find? Java.toolOptions (Java.injectEnv .standard spec view k.env) = some e ∧
        e.value = some (Java.baseOptions spec view ++ Java.agentOption) :=
    Java.value_toolOptions_injectEnv (Bundles.prefix_of_view_eq_ok h)
  refine ⟨view', e, hview', ?_, hvalue⟩
  rw [find?_of_view_eq_ok hview']
  show (Env.find? Java.toolOptions (Java.injectEnv .standard spec view k.env)).or _ = _
  rw [hfind, Option.some_or]

/-- **Options are kept, and the agent is put behind them once.** Over fixed bundles a mutation
yields a pod if the bundles are texts. In the pod that it yields a container whose first options are
declared with a source is as it was. Every other container that changed now declares the options
that it sees, and these are the base options with the agent at their end: what it saw before,
declared or else from the first bundle that has them, and what is proposed first where it saw none.
Options that it declares again further on stay as they are, and none are added to those that it
declares. -/
theorem options_of_mutate (hb : store.Serves b)
    (hcheck : Targets.check (Targets.listsOf is) = .ok ()) :
    (b.IsText → ∃ m w', (Mutator.ofStore store .standard).mutate pod is ns none w = (.ok m, w')) ∧
    ∀ m w', (Mutator.ofStore store .standard).mutate pod is ns none w = (.ok m, w') →
      ∀ (i : Nat) (k : Container), pod.spec.containers[i]? = some k →
        ∃ k', m.spec.containers[i]? = some k' ∧
          ((∃ e, Env.find? Java.toolOptions k.env = some e ∧ e.valueFrom.isSome = true) → k' = k) ∧
          (k' ≠ k →
            ∃ n ∈ (Mutator.ofStore store .standard).trace pod is ns none w, n.index = i ∧
              (∃ j ∈ is, n.spec = j.spec) ∧
              ∃ view' e added,
                (∀ v, (Environment.resolve ⟨store, Mutator.namespaceOf ns pod, none⟩ k
                  (.start v)).1 = .ok n.view) ∧
                Env.find? Java.toolOptions n.view = (Env.find? Java.toolOptions k.env).or
                  ((Members.find? Java.toolOptions
                    (k.envFrom.flatMap (b.entries (Mutator.namespaceOf ns pod)))).bind fun v ↦
                      (Environment.imported Java.toolOptions v).toOption) ∧
                (∀ v, (Environment.resolve ⟨store, Mutator.namespaceOf ns pod, none⟩ k'
                  (.start v)).1 = .ok view') ∧
                Env.find? Java.toolOptions view' = some e ∧
                e.value = some (Java.baseOptions n.spec n.view ++ Java.agentOption) ∧
                k'.env = k.env.modify
                  (k.env.findIdx fun e ↦ e.name == Java.toolOptions) Java.withAgent ++ added ∧
                Java.AddsNew k.env added) := by
  refine ⟨fun htext ↦ Mutator.exists_mutate_eq_ok (hb.yieldsText htext) hcheck pod ns none w, ?_⟩
  intro m w' h i k hk
  have hresolve (k : Container) (v : World) :
      (Environment.resolve ⟨store, Mutator.namespaceOf ns pod, none⟩ k (.start v)).1 =
        b.view (Mutator.namespaceOf ns pod) k :=
    (Environment.resolve_of_reads (Mutator.reads_of_serves hb _) (Cache.agrees_empty ..) k).1
  simp only [hresolve]
  rcases getElem?_of_mutate_eq_ok h hk with hm | ⟨n, hn, hindex, rfl, hm⟩
  · exact ⟨k, hm, fun _ ↦ rfl, fun hne ↦ absurd rfl hne⟩
  · obtain ⟨htrace, hpasses⟩ := Mutator.mem_trace_of_mem_grafts hn
    have hview := Mutator.view_of_mem_trace hb htrace
    refine ⟨n.grafted .standard, hm, fun ⟨e, hfind, hsource⟩ ↦ ?_, fun _ ↦ ?_⟩
    · -- such a container does not pass the first gate
      rw [Inspection.passes, Bool.and_eq_true] at hpasses
      rw [Java.valueFrom_of_isExtensible hpasses.1 hfind] at hsource
      cases hsource
    · obtain ⟨view', e, hview', hfind, hvalue⟩ := b.exists_options_injectContainer hview n.spec
      refine ⟨n, htrace, hindex, Mutator.exists_of_mem_trace htrace, view', e,
        Java.additions .standard n.spec n.view n.container.env, fun _ ↦ hview,
        Bundles.find?_of_view_eq_ok hview _, fun _ ↦ hview', hfind, hvalue, ?_,
        Java.addsNew_additions (Bundles.prefix_of_view_eq_ok hview)⟩
      rw [← Java.updateFirst_eq_modify]
      exact Java.injectEnv_eq_append

end Mutation

/-! ### A container that imports its options -/

namespace Sample

/-- A cluster with one config map, which has options under a name that takes a prefix to be
theirs. -/
def heapBundles : Bundles := fun kind ns name ↦
  if kind = .configMap ∧ name = "heap" then .ok [("TOOL_OPTIONS", .str "-Xmx512m")]
  else .error ⟨true, kind.name, ns, name, "not found"⟩

/-- A container that imports the options, and one that declares them with a source. -/
def heaped : Pod :=
  ⟨.empty, { PodSpec.empty with containers :=
    [supplied "app" [⟨some "JAVA_", some ⟨"heap", none, []⟩, none, []⟩],
     { container "worker" with env := [⟨Java.toolOptions, none, some [], []⟩] }] }, []⟩

/-- Settings that propose other options. -/
def proposing : Instrumentation :=
  ⟨"java", ⟨"agent:1", [.literal Java.toolOptions "-Xms64m"], "", none, none⟩⟩

/-- What a mutation of the pod returns and leaves behind. -/
def heapedOutcome : Except Mutator.Fault Pod × World :=
  (Mutator.ofStore heapBundles.store .standard).mutate heaped [proposing] none none (.start 0)

end Sample

/-- The imported options are kept, and not the proposed ones; the other container stays as it is. -/
theorem options_sample : ∃ m k' view', Sample.heapedOutcome.1 = .ok m ∧
    m.spec.containers[0]? = some k' ∧
    (Environment.resolve ⟨Sample.heapBundles.store, "default", none⟩ k' (.start (.start 0))).1 =
      .ok view' ∧
    (Env.find? Java.toolOptions view').bind (·.value) = some ("-Xmx512m" ++ Java.agentOption) ∧
    m.spec.containers[1]? = Sample.heaped.spec.containers[1]? := by
  have h : Sample.heapedOutcome =
      (.ok (Sample.heapedOutcome.1.toOption.getD Sample.heaped), Sample.heapedOutcome.2) :=
    Prod.ext (by decide +kernel) rfl
  obtain ⟨-, hkept⟩ := @options_of_mutate Sample.heapBundles.store Sample.heapBundles Sample.heaped
    [Sample.proposing] none (.start 0) Sample.heapBundles.serves_store (by decide +kernel)
  obtain ⟨k', hk', -, hinstrumented⟩ := hkept _ _ h 0 _ rfl
  obtain ⟨k₁, hk₁, hsourced, -⟩ := hkept _ _ h 1 _ rfl
  have hne : (Sample.heapedOutcome.1.toOption.getD Sample.heaped).spec.containers[0]? ≠
      Sample.heaped.spec.containers[0]? := by decide +kernel
  obtain ⟨n, -, -, -, view', e, added, hview, -, hview', hfind, hvalue, -⟩ :=
    hinstrumented fun heq ↦ hne (hk'.trans (congrArg some heq))
  have hseen : n.view = [.literal Java.toolOptions "-Xmx512m"] :=
    Except.ok.inj ((hview (.start 0)).symm.trans (by decide +kernel))
  have hbase : Java.baseOptions n.spec n.view = "-Xmx512m" := by
    rw [hseen]
    rfl
  refine ⟨_, k', view', congrArg Prod.fst h, hk', hview' (.start 0), ?_, ?_⟩
  · rw [hfind, Option.bind_some, hvalue, hbase]
  · rw [hk₁, hsourced ⟨_, rfl, rfl⟩]
    rfl

end AgentGraft
