import AgentGraft.Proofs.Java.Variables
import AgentGraft.Proofs.Mutation.Grafted
import AgentGraft.Proofs.Policy.Routing

/-!
# Telemetry of third parties

An owner who routes a signal to a third party keeps that route: a container that gets the agent gets
no variable with it that would take the signal elsewhere or switch it off. For a mutation this is
`undisturbed_of_mutate`; the view that decides is the one that the pass resolved for the container.

It takes settings that propose no endpoints of their own, and a signal that is not feigned: where an
endpoint of all signals comes from a source and carries a value at once, the value alone is looked
at, and if it leads to the first-party collector the signal counts as one that nobody routes
elsewhere.
-/

namespace AgentGraft

/-- The settings propose no endpoint but the one of traces. -/
def JavaSpec.LeavesEndpoints (n : ReservedNames) (spec : JavaSpec) : Prop :=
  ∀ e ∈ spec.env, e.name ∉ [n.otlpEndpoint, n.metricsEndpoint, n.logsEndpoint]

/-- The built-in settings are such settings. -/
theorem JavaSpec.leavesEndpoints_builtin (d : Deployment) :
    (builtin d).LeavesEndpoints .standard := by
  have hnames : ∀ v ∈ builtinEnv, v.1 ∉ [ReservedNames.standard.otlpEndpoint,
      ReservedNames.standard.metricsEndpoint, ReservedNames.standard.logsEndpoint] := by decide
  intro e he
  obtain ⟨v, hv, rfl⟩ := List.mem_map.1 he
  exact hnames v hv

namespace Policy

/-- What added variables do not do to a signal. -/
structure Undisturbed (c : Config) (added : List EnvVar) (σ : Signal) : Prop where
  /-- They do not route it: neither endpoint that could is among them. -/
  endpoint : ∀ e ∈ added, e.name ≠ c.reserved.otlpEndpoint ∧ e.name ≠ σ.endpoint c.reserved
  /-- Nor do they choose an exporter or a sampler for traces. -/
  traces : σ = .traces → ∀ e ∈ added, e.name ∉ c.reserved.traces
  /-- Nor do they switch an exporter of metrics or logs off. -/
  exporter : σ ≠ .traces → ∀ e ∈ added, e.name = σ.exporter c.reserved →
    ∃ value, e.value = some value ∧ value ≠ "none"

theorem switchesOff_eq_false_iff {value : Option String} :
    switchesOff value = false ↔ ∃ v, value = some v ∧ v ≠ "none" := by
  cases value <;> simp [switchesOff]

end Policy

/-! ### One container -/

section Container

variable {spec : JavaSpec} {view env : List EnvVar} {σ : Policy.Signal} {e : EnvVar}
  {pod container : Option SecurityContext}

/-- Of the names that decisions look at, only admitted proposals are added. -/
theorem Java.mem_admitted_of_mem_additions (he : e ∈ additions .standard spec view env)
    (hname : e.name ∈ ReservedNames.standard.names) : e ∈ admitted .standard view [] spec.env := by
  have hoptions : toolOptions ∉ ReservedNames.standard.names := by decide
  have hmarker : Config.standard.markerVariable ∉ ReservedNames.standard.names := by decide
  rcases mem_additions he with he | he | rfl
  · exact he
  · exact absurd (he ▸ hname) hoptions
  · exact absurd hname hmarker

/-- **A container that gets the agent** gets no variable that disturbs a signal of a third party. -/
theorem Java.undisturbed_additions (hi : Policy.installs .standard view pod container = true)
    (hspec : spec.LeavesEndpoints .standard) (hs : ¬Policy.Feigned .standard view σ)
    (h : Policy.RoutesElsewhere .standard view σ) :
    Policy.Undisturbed .standard (additions .standard spec view env) σ := by
  have hd : Config.standard.reserved.names.Nodup := by decide
  have hclosed : Policy.overrides .standard view σ = false := Policy.overrides_eq_false hi hs h
  have htraces : σ = .traces → ∀ e ∈ additions .standard spec view env,
      e.name ∉ Config.standard.reserved.traces := by
    rintro rfl e he hname
    have hadmits := admits_of_mem_admitted
      (mem_admitted_of_mem_additions he (List.mem_append_left _ hname))
    rw [Policy.overrides_of_admits_traces hd hname hadmits] at hclosed
    cases hclosed
  have hproposed : ∀ e ∈ additions .standard spec view env,
      e.name ∉ [ReservedNames.standard.otlpEndpoint, ReservedNames.standard.metricsEndpoint,
        ReservedNames.standard.logsEndpoint] := by
    intro e he hname
    have hmem : e.name ∈ ReservedNames.standard.names := by
      revert hname
      generalize e.name = name
      revert name
      decide
    exact hspec e (mem_of_mem_admitted (mem_admitted_of_mem_additions he hmem)) hname
  refine ⟨fun e he ↦ ⟨fun hname ↦ ?_, fun hname ↦ ?_⟩, htraces, fun hσ e he hname ↦ ?_⟩
  · exact hproposed e he (hname ▸ List.mem_cons_self ..)
  · cases σ with
    | traces => exact htraces rfl e he (hname ▸ List.mem_cons_self ..)
    | metrics => exact hproposed e he (by rw [hname]; decide)
    | logs => exact hproposed e he (by rw [hname]; decide)
  · have hmem : e.name ∈ ReservedNames.standard.names := by
      rw [hname]
      cases σ <;> decide
    have hadmits := admits_of_mem_admitted (mem_admitted_of_mem_additions he hmem)
    rw [hname] at hadmits
    rw [← Policy.switchesOff_eq_false_iff, Bool.eq_false_iff]
    intro hoff
    rw [Policy.overrides_of_admits_exporter hd hσ hoff hadmits] at hclosed
    cases hclosed

end Container

/-! ### Mutations -/

section Mutation

variable {store : Store} {pod m : Pod} {is : List Instrumentation} {ns : Option String}
  {deadline : Option Int} {w w' : World}

/-- **Telemetry that goes to a third party is neither redirected nor switched off.** A container
that a mutation changes was inspected as it came in, with some view. What is put behind its
variables leaves every signal alone that this view routes to a third party, unless the signal is
feigned: it follows an endpoint of all signals that comes from a source and that pretends, by a
value beside it, to lead to the first-party collector. -/
theorem undisturbed_of_mutate (hspec : ∀ i ∈ is, i.spec.LeavesEndpoints .standard)
    (h : (Mutator.ofStore store .standard).mutate pod is ns deadline w = (.ok m, w')) {i : Nat}
    {old new : Container} (hold : pod.spec.containers[i]? = some old)
    (hnew : m.spec.containers[i]? = some new) (hne : new ≠ old) :
    ∃ n ∈ (Mutator.ofStore store .standard).trace pod is ns deadline w,
      n.index = i ∧ n.container = old ∧
      (new.env.take old.env.length).map (·.name) = old.env.map (·.name) ∧
      ∀ σ, Policy.RoutesElsewhere .standard n.view σ → ¬Policy.Feigned .standard n.view σ →
        Policy.Undisturbed .standard (new.env.drop old.env.length) σ := by
  rcases getElem?_of_mutate_eq_ok h hold with hkept | ⟨n, hn, hindex, rfl, hgrafted⟩
  · exact absurd (Option.some.inj (hnew.symm.trans hkept)) hne
  obtain rfl : new = n.grafted .standard := Option.some.inj (hnew.symm.trans hgrafted)
  obtain ⟨htrace, hpasses⟩ := Mutator.mem_trace_of_mem_grafts hn
  obtain ⟨j, hj, hspecn⟩ := Mutator.exists_of_mem_trace htrace
  have hi : Policy.installs .standard n.view pod.spec.securityContext
      n.container.securityContext = true := by
    rw [Inspection.passes, Bool.and_eq_true] at hpasses
    exact hpasses.2
  have hleaves : n.spec.LeavesEndpoints .standard := hspecn ▸ hspec j hj
  refine ⟨n, htrace, hindex, rfl, Java.map_name_take_injectEnv, fun σ hσ hs ↦ ?_⟩
  show Policy.Undisturbed .standard
    ((Java.injectEnv .standard n.spec n.view n.container.env).drop n.container.env.length) σ
  rw [Java.drop_injectEnv]
  exact Java.undisturbed_additions hi hleaves hs hσ

end Mutation

/-! ### Two containers that are asked to get the agent -/

namespace Sample

/-- The built-in settings, for every container. -/
def builtin : Instrumentation := ⟨"java", JavaSpec.builtin .standard⟩

/-- A pod with one container, which asks for the agent and has this endpoint of all signals. -/
def routed (endpoint : EnvVar) : Pod :=
  ⟨.empty, { PodSpec.empty with containers := [{ container "app" with env :=
    [.literal Config.standard.reserved.enablementFlag "true", endpoint] }] }, []⟩

/-- An endpoint of a third party. -/
def foreignEndpoint : EnvVar :=
  .literal Config.standard.reserved.otlpEndpoint "https://collector.example:4317"

/-- An endpoint that comes from a source, with a value that leads to the first-party collector. -/
def feignedEndpoint : EnvVar :=
  ⟨Config.standard.reserved.otlpEndpoint, some "http://cloudwatch-agent.amazon-cloudwatch:4316",
    some [("configMapKeyRef", .obj [("name", .str "otel"), ("key", .str "endpoint")])], []⟩

/-- What a mutation of such a pod returns and leaves behind. -/
def routedOutcome (endpoint : EnvVar) : Except Mutator.Fault Pod × World :=
  (Mutator.ofStore store .standard).mutate (routed endpoint) [builtin] none none (.start 0)

/-- The pod that it returns. -/
def hosted (endpoint : EnvVar) : Pod := (routedOutcome endpoint).1.toOption.getD (routed endpoint)

/-- What is put behind the two variables of the container. -/
def added (endpoint : EnvVar) : List EnvVar :=
  ((hosted endpoint).spec.containers[0]?.elim [] (·.env)).drop 2

/-- The environment that the container is inspected with. -/
def routedView (endpoint : EnvVar) : List EnvVar :=
  [.literal Config.standard.reserved.enablementFlag "true", endpoint]

/-- The views that the mutation resolves. -/
def routedViews (endpoint : EnvVar) : List (List EnvVar) :=
  ((Mutator.ofStore store .standard).trace (routed endpoint) [builtin] none none (.start 0)).map
    (·.view)

end Sample

/-- Where the endpoint of all signals names a third party, all signals stay as they are. -/
theorem undisturbed_foreign_sample :
    (∀ σ, Policy.RoutesElsewhere .standard (Sample.routedView Sample.foreignEndpoint) σ) ∧
      Env.declares Java.toolOptions (Sample.added Sample.foreignEndpoint) = true ∧
        ∀ σ, Policy.Undisturbed .standard (Sample.added Sample.foreignEndpoint) σ := by
  have hthird : Policy.IsThirdParty .standard Sample.foreignEndpoint := .inr (by decide +kernel)
  have hroutes : ∀ σ, Policy.RoutesElsewhere .standard
      (Sample.routedView Sample.foreignEndpoint) σ := fun σ ↦
    ⟨Sample.foreignEndpoint, by cases σ <;> decide +kernel, hthird⟩
  refine ⟨hroutes, by decide +kernel, fun σ ↦ ?_⟩
  have h : Sample.routedOutcome Sample.foreignEndpoint =
      (.ok (Sample.hosted Sample.foreignEndpoint),
        (Sample.routedOutcome Sample.foreignEndpoint).2) :=
    Prod.ext (by decide +kernel) rfl
  have hspec : ∀ i ∈ [Sample.builtin], i.spec.LeavesEndpoints .standard := fun i hi ↦
    List.mem_singleton.1 hi ▸ JavaSpec.leavesEndpoints_builtin .standard
  have hchanged : (Sample.hosted Sample.foreignEndpoint).spec.containers[0]? ≠
      (Sample.routed Sample.foreignEndpoint).spec.containers[0]? := by decide +kernel
  have hviews : Sample.routedViews Sample.foreignEndpoint =
      [Sample.routedView Sample.foreignEndpoint] := by decide +kernel
  rcases hnew : (Sample.hosted Sample.foreignEndpoint).spec.containers[0]? with - | new
  · exact absurd hnew (by decide +kernel)
  obtain ⟨n, hn, -, -, -, hall⟩ :=
    undisturbed_of_mutate hspec h rfl hnew fun heq ↦ hchanged (by rw [hnew, heq]; rfl)
  have hview : n.view = Sample.routedView Sample.foreignEndpoint := by
    have hmem : n.view ∈ Sample.routedViews Sample.foreignEndpoint := List.mem_map_of_mem hn
    rw [hviews] at hmem
    exact List.mem_singleton.1 hmem
  have hnot : ¬Policy.Feigned .standard (Sample.routedView Sample.foreignEndpoint) σ := by
    rintro ⟨-, e, he, hsource, -⟩
    obtain rfl : Sample.foreignEndpoint = e := Option.some.inj he
    cases hsource
  rw [Sample.added, hnew]
  exact hall σ (hview ▸ hroutes σ) (hview ▸ hnot)

/-- Where it comes from a source and feigns, traces are taken over and metrics are switched off. -/
theorem disturbed_feigned_sample :
    Sample.routedViews Sample.feignedEndpoint = [Sample.routedView Sample.feignedEndpoint] ∧
    (∀ σ, Policy.RoutesElsewhere .standard (Sample.routedView Sample.feignedEndpoint) σ) ∧
      ¬Policy.Undisturbed .standard (Sample.added Sample.feignedEndpoint) .traces ∧
        ¬Policy.Undisturbed .standard (Sample.added Sample.feignedEndpoint) .metrics := by
  refine ⟨by decide +kernel,
    fun σ ↦ ⟨Sample.feignedEndpoint, by cases σ <;> decide +kernel, .inl rfl⟩, ?_, ?_⟩
  · intro h
    have hadded : ∃ e ∈ Sample.added Sample.feignedEndpoint,
        e.name ∈ Config.standard.reserved.traces := by decide +kernel
    obtain ⟨e, he, hname⟩ := hadded
    exact h.traces rfl e he hname
  · intro h
    have hadded : ∃ e ∈ Sample.added Sample.feignedEndpoint,
        e.name = Config.standard.reserved.metricsExporter ∧ e.value = some "none" := by
      decide +kernel
    obtain ⟨e, he, hname, hvalue⟩ := hadded
    obtain ⟨value, hsome, hne⟩ := h.exporter (by decide) e he hname
    exact hne (Option.some.inj (hsome.symm.trans hvalue))

end AgentGraft
