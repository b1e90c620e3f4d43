import AgentGraft.Proofs.Mutation.Telemetry

/-!
# Settings of traces stand or fall together

Endpoint, exporter, sampler and sampler argument of traces are added together or not at all: as far
as they are proposed and the owner sees none of the name, one gate decides about all four, and it is
the same for every proposal, since what has been added is not looked at. For metrics and logs a like
gate decides whether their exporters are switched off.

An exception closes all three gates: the agent is asked for although the endpoint of all signals is
a third party's. It does so unless the endpoint *pretends*, that is, comes from a source and carries
a value that leads to the first-party collector: of such an endpoint the value is looked at, and the
gates stay open.
-/

namespace AgentGraft

namespace Policy

variable {c : Config} {env : List EnvVar} {σ : Signal}

/-! ### The exception -/

/-- The agent is asked for although the endpoint of all signals is set, to that of a third party. -/
def IsExempt (c : Config) (env : List EnvVar) : Prop :=
  isEnabled c env = true ∧ Env.isSet c.reserved.otlpEndpoint env = true ∧
    ∃ e, Env.find? c.reserved.otlpEndpoint env = some e ∧ IsThirdParty c e

/-- The endpoint of all signals comes from a source and has a value beside it that leads to the
first-party collector. -/
def Pretends (c : Config) (env : List EnvVar) : Prop :=
  ∃ e, Env.find? c.reserved.otlpEndpoint env = some e ∧ e.valueFrom.isSome = true ∧
    isFirstParty c (e.value.getD "") = true

/-- **The exception is made** where it should be, unless the endpoint pretends. -/
theorem isEnabledElsewhere_iff :
    isEnabledElsewhere c env = true ↔ IsExempt c env ∧ ¬Pretends c env := by
  rw [isEnabledElsewhere, leadsElsewhere, Bool.and_eq_true, Bool.and_eq_true, Bool.not_eq_true']
  constructor
  · rintro ⟨⟨hset, hvalue⟩, henabled⟩
    obtain ⟨e, he⟩ := Option.isSome_iff_exists.1 (declares_of_isSet hset)
    rw [Env.valueOf, he] at hvalue
    refine ⟨⟨henabled, hset, e, he, .inr hvalue⟩, ?_⟩
    rintro ⟨e', he', -, hfirst⟩
    obtain rfl : e = e' := Option.some.inj (he.symm.trans he')
    rw [hvalue] at hfirst
    cases hfirst
  · rintro ⟨⟨henabled, hset, e, he, hthird⟩, hhonest⟩
    refine ⟨⟨hset, ?_⟩, henabled⟩
    rw [Env.valueOf, he]
    rcases hthird with hsource | hvalue
    · rw [Bool.eq_false_iff]
      exact fun hfirst ↦ hhonest ⟨e, he, hsource, hfirst⟩
    · exact hvalue

/-- What closes the gate of a signal of its own: an endpoint of traces that is declared, and an
endpoint of metrics or logs that is set. -/
def IsRouted (c : Config) (env : List EnvVar) : Signal → Bool
  | .traces => Env.declares c.reserved.tracesEndpoint env
  | σ => Env.isSet (σ.endpoint c.reserved) env

theorem overrides_iff : overrides c env σ = true ↔
    ¬(IsRouted c env σ = true ∨ IsExempt c env ∧ ¬Pretends c env) := by
  rw [← isEnabledElsewhere_iff]
  cases σ <;> simp [overrides, overridesTraces, disablesMetrics, disablesLogs, IsRouted,
    Signal.endpoint, and_comm]

end Policy

namespace Java

variable {c : Config} {spec : JavaSpec} {view env : List EnvVar} {name : String} {σ : Policy.Signal}
  {pod pod' : Pod} {old : Container} {index : Nat}

/-! ### What is added under a name -/

/-- Under a name that is neither that of the options nor that of the marker, only proposals are
added. -/
theorem find?_additions (hoptions : name ≠ toolOptions) (hmarker : name ≠ c.markerVariable) :
    Env.find? name (additions c spec view env) = Env.find? name (admitted c view [] spec.env) := by
  have hproposed : Env.find? name (proposed c spec view env) =
      Env.find? name (admitted c view [] spec.env) := by
    rw [proposed]
    split
    · rfl
    · exact find?_withOptions hoptions _
  rw [additions]
  split
  · exact hproposed
  · rw [Env.find?_append_of_not_declares, hproposed]
    rw [← Env.find?_eq_none_iff, Env.find?_cons, marker_name, if_neg hmarker.symm, Env.find?_nil]

/-- **A name is added** where one of its proposals is admitted. -/
theorem declares_additions_iff (hoptions : name ≠ toolOptions) (hmarker : name ≠ c.markerVariable) :
    Env.declares name (additions c spec view env) = true ↔
      ∃ e ∈ spec.env, e.name = name ∧ Policy.admits c view name e.value = true := by
  rw [Env.declares, find?_additions hoptions hmarker, find?_admitted List.not_mem_nil,
    List.find?_isSome]
  simp only [Bool.and_eq_true, beq_iff_eq]
  constructor
  · rintro ⟨e, he, rfl, hadmits⟩
    exact ⟨e, he, rfl, hadmits⟩
  · rintro ⟨e, he, rfl, hadmits⟩
    exact ⟨e, he, rfl, hadmits⟩

/-! ### One container -/

section Additions

variable (hd : c.reserved.names.Nodup) (hoptions : toolOptions ∉ c.reserved.names)
  (hmarker : c.markerVariable ∉ c.reserved.names)

include hd hoptions hmarker

/-- **A setting of traces is added** where it is proposed, the owner sees none and the gate is
open. -/
theorem declares_additions_traces_iff (hname : name ∈ c.reserved.traces) :
    Env.declares name (additions c spec view env) = true ↔
      Env.declares name spec.env = true ∧ Env.declares name view = false ∧
        Policy.overrides c view .traces = true := by
  have hmem : name ∈ c.reserved.names := List.mem_append_left _ hname
  rw [declares_additions_iff (fun h ↦ hoptions (h ▸ hmem)) (fun h ↦ hmarker (h ▸ hmem)),
    Env.declares_iff]
  simp only [Policy.admits_of_mem_traces hd hname, Bool.and_eq_true, Bool.not_eq_true', ← and_assoc,
    exists_and_right]

/-- **An exporter that is proposed once, to be switched off,** is added where the owner sees none
and the gate is open. -/
theorem declares_additions_exporter_iff (hσ : σ ≠ .traces)
    (honce : (spec.env.filter (·.name == σ.exporter c.reserved)).map (·.value) = [some "none"]) :
    Env.declares (σ.exporter c.reserved) (additions c spec view env) = true ↔
      Env.declares (σ.exporter c.reserved) view = false ∧ Policy.overrides c view σ = true := by
  have hmem : σ.exporter c.reserved ∈ c.reserved.names := by
    cases σ <;> simp [Policy.Signal.exporter, ReservedNames.names, ReservedNames.traces]
  obtain ⟨e, hfilter, hvalue⟩ := List.map_eq_singleton_iff.1 honce
  have hproposals (e' : EnvVar) : e' ∈ spec.env ∧ e'.name = σ.exporter c.reserved ↔ e' = e := by
    have hmem : e' ∈ spec.env.filter (·.name == σ.exporter c.reserved) ↔ e' = e := by
      rw [hfilter, List.mem_singleton]
    rwa [List.mem_filter, beq_iff_eq] at hmem
  rw [declares_additions_iff (fun h ↦ hoptions (h ▸ hmem)) (fun h ↦ hmarker (h ▸ hmem))]
  simp only [← and_assoc, hproposals, exists_eq_left, hvalue,
    Policy.admits_exporter hd hσ (show Policy.switchesOff (some "none") = true from rfl),
    Bool.and_eq_true, Bool.not_eq_true']

end Additions

/-- **All settings of traces or none**, and an exporter is switched off where nothing speaks against
it. What closes the gate of traces is an endpoint of traces that the owner declares, or the
exception; a gate that is closed lets no setting of traces pass, and one that is open lets every
setting pass that is proposed and not seen by the owner. The exception is not made for an endpoint
of all signals that pretends. -/
theorem coherent_of_inject (hd : c.reserved.names.Nodup) (hoptions : toolOptions ∉ c.reserved.names)
    (hmarker : c.markerVariable ∉ c.reserved.names) (hold : pod.spec.containers[index]? = some old)
    (h : inject c spec pod index view = .ok (some pod')) :
    ∃ new, pod'.spec.containers[index]? = some new ∧
      (new.env.take old.env.length).map (·.name) = old.env.map (·.name) ∧
      (Env.declares c.reserved.tracesEndpoint view = true ∨
          Policy.IsExempt c view ∧ ¬Policy.Pretends c view →
        ∀ e ∈ new.env.drop old.env.length, e.name ∉ c.reserved.traces) ∧
      (¬(Env.declares c.reserved.tracesEndpoint view = true ∨
          Policy.IsExempt c view ∧ ¬Policy.Pretends c view) →
        ∀ e ∈ spec.env, e.name ∈ c.reserved.traces → Env.declares e.name view = false →
          Env.declares e.name (new.env.drop old.env.length) = true) ∧
      ∀ σ : Policy.Signal, σ ≠ .traces →
        (spec.env.filter (·.name == σ.exporter c.reserved)).map (·.value) = [some "none"] →
          (Env.declares (σ.exporter c.reserved) (new.env.drop old.env.length) = true ↔
            Env.declares (σ.exporter c.reserved) view = false ∧
              Env.isSet (σ.endpoint c.reserved) view = false ∧
                ¬(Policy.IsExempt c view ∧ ¬Policy.Pretends c view)) := by
  have htraces : Policy.overrides c view .traces = true ↔ _ := Policy.overrides_iff
  have hdrop : (injectContainer c spec view old).env.drop old.env.length =
      additions c spec view old.env := drop_injectEnv
  refine ⟨injectContainer c spec view old, getElem?_of_inject_eq_some hold h,
    map_name_take_injectEnv, ?_, ?_, ?_⟩
  · rw [hdrop]
    intro hclosed e he hname
    have hadded := (declares_additions_traces_iff hd hoptions hmarker hname).1
      (Env.declares_iff.2 ⟨e, he, rfl⟩)
    exact htraces.1 hadded.2.2 hclosed
  · rw [hdrop]
    intro hopen e he hname hnew
    exact (declares_additions_traces_iff hd hoptions hmarker hname).2
      ⟨Env.declares_iff.2 ⟨e, he, rfl⟩, hnew, htraces.2 hopen⟩
  · rw [hdrop]
    intro σ hσ honce
    rw [declares_additions_exporter_iff hd hoptions hmarker hσ honce, Policy.overrides_iff, not_or,
      Bool.not_eq_true]
    cases σ with
    | traces => exact absurd rfl hσ
    | metrics => rfl
    | logs => rfl

end Java

/-! ### Two endpoints of all signals -/

namespace Sample

/-- Settings that propose a sampler, and to switch the exporter of metrics off. -/
def sampling : JavaSpec :=
  ⟨"agent:1", [.literal Config.standard.reserved.sampler "xray",
    .literal Config.standard.reserved.metricsExporter "none"], "", none, none⟩

/-- An injection into the container that asks for the agent and has this endpoint. -/
def sampled (endpoint : EnvVar) : Except Java.Fault (Option Pod) :=
  Java.inject .standard sampling (routed endpoint) 0 (routedView endpoint)

end Sample

/-- Where the endpoint names a third party, neither proposal is added. -/
theorem coherent_foreign_sample : ∃ pod' new,
    Sample.sampled Sample.foreignEndpoint = .ok (some pod') ∧
    pod'.spec.containers[0]? = some new ∧
    (∀ e ∈ new.env.drop 2, e.name ∉ Config.standard.reserved.traces) ∧
    Env.declares Config.standard.reserved.metricsExporter (new.env.drop 2) = false := by
  obtain ⟨pod', h⟩ : ∃ pod', Sample.sampled Sample.foreignEndpoint = .ok (some pod') :=
    ⟨_, Java.inject_eq_some_iff.2 ⟨_, rfl, by decide +kernel, by decide +kernel, rfl⟩⟩
  obtain ⟨new, hnew, -, hclosed, -, hexporters⟩ := Java.coherent_of_inject (by decide) (by decide)
    (by decide) (show (Sample.routed Sample.foreignEndpoint).spec.containers[0]? = _ from rfl) h
  have hexempt : Policy.IsExempt .standard (Sample.routedView Sample.foreignEndpoint) ∧
      ¬Policy.Pretends .standard (Sample.routedView Sample.foreignEndpoint) :=
    Policy.isEnabledElsewhere_iff.1 (by decide +kernel)
  have hexporter := hexporters .metrics (by decide) (by decide +kernel)
  exact ⟨pod', new, h, hnew, hclosed (.inr hexempt), Bool.eq_false_iff.2 fun hadded ↦
    (hexporter.1 hadded).2.2 hexempt⟩

/-- Where it pretends, both are, though the endpoint is a third party's and the agent is asked
for. -/
theorem incoherent_feigned_sample :
    Policy.IsExempt .standard (Sample.routedView Sample.feignedEndpoint) ∧
    ∃ pod' new, Sample.sampled Sample.feignedEndpoint = .ok (some pod') ∧
      pod'.spec.containers[0]? = some new ∧
      Env.declares Config.standard.reserved.sampler (new.env.drop 2) = true ∧
      Env.declares Config.standard.reserved.metricsExporter (new.env.drop 2) = true := by
  have hexempt : Policy.IsExempt .standard (Sample.routedView Sample.feignedEndpoint) :=
    ⟨by decide +kernel, by decide +kernel, Sample.feignedEndpoint, rfl, .inl rfl⟩
  obtain ⟨pod', h⟩ : ∃ pod', Sample.sampled Sample.feignedEndpoint = .ok (some pod') :=
    ⟨_, Java.inject_eq_some_iff.2 ⟨_, rfl, by decide +kernel, by decide +kernel, rfl⟩⟩
  exact ⟨hexempt, pod', _, h, Java.getElem?_of_inject_eq_some rfl h, by decide +kernel,
    by decide +kernel⟩

end AgentGraft
