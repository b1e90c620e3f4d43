import Mathlib.Data.List.Nodup
import AgentGraft.Policy.Decision
import AgentGraft.Proofs.Environment.Lookup

/-!
# Where telemetry goes

A signal is routed by its own endpoint if that is set, else by the endpoint of all signals. The
tiers of the policy protect a signal that goes to a third party only together: the gate of the
installation lets no endpoint pass that leads elsewhere unless the agent is asked for, and where it
is asked for, an endpoint of all signals that leads elsewhere closes the gates of the single
signals. `isEnabledElsewhere_or_isSet` is the fact that ties them together; the gates are closed one
by one from it.

The policy reads the value of an endpoint also where the endpoint comes from a source as well. A
signal is `Feigned` where such a value makes the endpoint of all signals look as if it led to the
first-party collector; for every other signal the tiers do what they are meant to.
-/

namespace AgentGraft

/-- All names that decisions look at. -/
def ReservedNames.names (n : ReservedNames) : List String :=
  n.traces ++ n.metricsExporter :: n.logsExporter ::
    [n.enablementFlag, n.otlpEndpoint, n.metricsEndpoint, n.logsEndpoint]

namespace Policy

/-! ### Signals -/

/-- A kind of telemetry. -/
inductive Signal where
  | traces
  | metrics
  | logs
  deriving DecidableEq, Repr

/-- The endpoint of one signal. -/
def Signal.endpoint (n : ReservedNames) : Signal → String
  | .traces => n.tracesEndpoint
  | .metrics => n.metricsEndpoint
  | .logs => n.logsEndpoint

/-- The exporter of one signal. -/
def Signal.exporter (n : ReservedNames) : Signal → String
  | .traces => n.tracesExporter
  | .metrics => n.metricsExporter
  | .logs => n.logsExporter

/-- The variable that routes a signal: its own endpoint if that is set, else the endpoint of all
signals if that one is. -/
def destination? (c : Config) (env : List EnvVar) (σ : Signal) : Option EnvVar :=
  if Env.isSet (σ.endpoint c.reserved) env then Env.find? (σ.endpoint c.reserved) env
  else if Env.isSet c.reserved.otlpEndpoint env then Env.find? c.reserved.otlpEndpoint env
  else none

/-- A variable that routes to a third party: it comes from a source, which cannot be inspected, or
its value does not lead to the first-party collector. -/
def IsThirdParty (c : Config) (e : EnvVar) : Prop :=
  e.valueFrom.isSome = true ∨ isFirstParty c (e.value.getD "") = false

/-- The signal goes to a third party. -/
def RoutesElsewhere (c : Config) (env : List EnvVar) (σ : Signal) : Prop :=
  ∃ e, destination? c env σ = some e ∧ IsThirdParty c e

/-- The signal follows an endpoint of all signals that comes from a source and has a value beside it
that leads to the first-party collector. -/
def Feigned (c : Config) (env : List EnvVar) (σ : Signal) : Prop :=
  Env.isSet (σ.endpoint c.reserved) env = false ∧
    ∃ e, Env.find? c.reserved.otlpEndpoint env = some e ∧ e.valueFrom.isSome = true ∧
      isFirstParty c (e.value.getD "") = true

variable {c : Config} {env : List EnvVar} {name : String} {value : Option String} {σ : Signal}
  {pod container : Option SecurityContext}

theorem declares_of_isSet (h : Env.isSet name env = true) : Env.declares name env = true := by
  rw [Env.isSet] at h
  split at h
  · cases h
  · next e he => rw [Env.declares, he]; rfl

/-! ### The gate of the installation -/

/-- What routes a signal to a third party is its own endpoint, or the one of all signals leads
elsewhere. -/
theorem isSet_or_leadsElsewhere (hs : ¬Feigned c env σ) (h : RoutesElsewhere c env σ) :
    Env.isSet (σ.endpoint c.reserved) env = true ∨
      leadsElsewhere c env c.reserved.otlpEndpoint = true := by
  obtain ⟨e, he, hthird⟩ := h
  rw [destination?] at he
  split at he
  · next hown => exact .inl hown
  · next hown =>
    split at he
    · next hset =>
      have hvalue : Env.valueOf c.reserved.otlpEndpoint env = e.value.getD "" := by
        rw [Env.valueOf, he]
      have hfirst : isFirstParty c (e.value.getD "") = false := by
        rw [Bool.eq_false_iff]
        intro hfirst
        rcases hthird with hsource | hvalue
        · exact hs ⟨Bool.eq_false_iff.2 hown, e, he, hsource, hfirst⟩
        · rw [hfirst] at hvalue
          cases hvalue
      exact .inr (by rw [leadsElsewhere, hset, hvalue, hfirst]; rfl)
    · cases he

/-- The agent is installed where security allows it, and it is asked for or no endpoint leads
elsewhere. -/
theorem installs_iff : installs c env pod container = true ↔ veto pod container = none ∧
    (isEnabled c env = true ∨
      ∀ name ∈ c.reserved.endpoints, leadsElsewhere c env name = false) := by
  rw [installs, Bool.and_eq_true, Bool.or_eq_true, List.all_eq_true, Option.isNone_iff_eq_none]
  simp only [Bool.not_eq_true']

/-- **A third party that gets a signal from a container with the agent** was named for this signal,
or for all of them while the agent was asked for. -/
theorem isEnabledElsewhere_or_isSet (hi : installs c env pod container = true)
    (hs : ¬Feigned c env σ) (h : RoutesElsewhere c env σ) :
    isEnabledElsewhere c env = true ∨ Env.isSet (σ.endpoint c.reserved) env = true := by
  rcases isSet_or_leadsElsewhere hs h with hown | helsewhere
  · exact .inr hown
  · rcases (installs_iff.1 hi).2 with henabled | hnone
    · exact .inl (by rw [isEnabledElsewhere, helsewhere, henabled]; rfl)
    · rw [hnone _ (List.mem_cons_self ..)] at helsewhere
      cases helsewhere

/-! ### The gates of the signals -/

/-- The gate of a signal: its settings are to be replaced by those of the first-party collector. -/
def overrides (c : Config) (env : List EnvVar) : Signal → Bool
  | .traces => overridesTraces c env
  | .metrics => disablesMetrics c env
  | .logs => disablesLogs c env

/-- **The gate of a signal that goes to a third party is closed.** -/
theorem overrides_eq_false (hi : installs c env pod container = true) (hs : ¬Feigned c env σ)
    (h : RoutesElsewhere c env σ) : overrides c env σ = false := by
  rcases isEnabledElsewhere_or_isSet hi hs h with henabled | hown
  · cases σ <;> simp [overrides, overridesTraces, disablesMetrics, disablesLogs, henabled]
  · cases σ with
    | traces =>
      have hdecl : Env.declares c.reserved.tracesEndpoint env = true := declares_of_isSet hown
      simp [overrides, overridesTraces, hdecl]
    | metrics =>
      have hset : Env.isSet c.reserved.metricsEndpoint env = true := hown
      simp [overrides, disablesMetrics, hset]
    | logs =>
      have hset : Env.isSet c.reserved.logsEndpoint env = true := hown
      simp [overrides, disablesLogs, hset]

/-! ### Admitted variables -/

/-- Where no name has two roles the exporters of metrics and logs are no settings of traces. -/
theorem exporters_apart (hd : c.reserved.names.Nodup) :
    c.reserved.metricsExporter ∉ c.reserved.traces ∧
      c.reserved.logsExporter ∉ c.reserved.traces ∧
        c.reserved.metricsExporter ≠ c.reserved.logsExporter := by
  rw [ReservedNames.names, List.nodup_append'] at hd
  obtain ⟨-, hrest, hapart⟩ := hd
  have hne := (List.nodup_cons.1 hrest).1
  exact ⟨fun h ↦ hapart h (by simp), fun h ↦ hapart h (by simp), fun h ↦ hne (by simp [h])⟩

/-- **A variable of the traces** is admitted where the owner sees none of its name and the gate of
the traces is open. -/
theorem admits_of_mem_traces (hd : c.reserved.names.Nodup) (hname : name ∈ c.reserved.traces)
    (value : Option String) :
    admits c env name value = (!Env.declares name env && overrides c env .traces) := by
  obtain ⟨hmetrics, hlogs, -⟩ := exporters_apart hd
  have hm : name ≠ c.reserved.metricsExporter := fun heq ↦ hmetrics (heq ▸ hname)
  have hl : name ≠ c.reserved.logsExporter := fun heq ↦ hlogs (heq ▸ hname)
  simp only [admits, if_neg hm, if_neg hl, if_pos (List.contains_iff_mem.2 hname), overrides]

/-- **An exporter that is to be switched off** is admitted where the owner sees none and the gate of
its signal is open. -/
theorem admits_exporter (hd : c.reserved.names.Nodup) (hσ : σ ≠ .traces)
    (hoff : switchesOff value = true) : admits c env (σ.exporter c.reserved) value =
      (!Env.declares (σ.exporter c.reserved) env && overrides c env σ) := by
  obtain ⟨-, -, hne⟩ := exporters_apart hd
  cases σ with
  | traces => exact absurd rfl hσ
  | metrics =>
    simp only [admits, Signal.exporter, if_true, hoff, Bool.not_true, Bool.false_or, overrides]
  | logs =>
    simp only [admits, Signal.exporter, if_neg hne.symm, if_true, hoff, Bool.not_true,
      Bool.false_or, overrides]

/-- A variable of the traces is admitted only through the gate of the traces. -/
theorem overrides_of_admits_traces (hd : c.reserved.names.Nodup) (hname : name ∈ c.reserved.traces)
    (h : admits c env name value = true) : overrides c env .traces = true := by
  rw [admits_of_mem_traces hd hname, Bool.and_eq_true] at h
  exact h.2

/-- An exporter is admitted as switched off only through the gate of its signal. -/
theorem overrides_of_admits_exporter (hd : c.reserved.names.Nodup) (hσ : σ ≠ .traces)
    (hoff : switchesOff value = true) (h : admits c env (σ.exporter c.reserved) value = true) :
    overrides c env σ = true := by
  rw [admits_exporter hd hσ hoff, Bool.and_eq_true] at h
  exact h.2

end Policy

end AgentGraft
