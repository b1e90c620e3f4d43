import AgentGraft.Java.Injection
import AgentGraft.Proofs.Environment.Lookup

/-!
# What decisions depend on

Of a view, the decisions about a container see little: of every name whether it is declared, and of
few names what is found under them (`Config.watchedNames`). Views that are `Env.Alike` in that make
the same container, whatever the values of all other variables are: `Policy.installs_congr` says so
of the gate of the installation, `Policy.admits_congr` of the proposals and `Java.injectEnv_congr`
of what is made of them.
-/

namespace AgentGraft

/-- The names whose variables decisions look into. -/
def Config.watchedNames (c : Config) : List String :=
  Java.toolOptions :: c.reserved.enablementFlag :: c.reserved.endpoints

/-! ### Views that are alike -/

namespace Env

variable {names : List String} {name : String} {view view' : List EnvVar}

/-- The views declare the same names, and show the same under some of them. -/
structure Alike (names : List String) (view view' : List EnvVar) : Prop where
  declares : ∀ name, declares name view = declares name view'
  find? : ∀ name ∈ names, find? name view = find? name view'

theorem Alike.refl (names : List String) (view : List EnvVar) : Alike names view view :=
  ⟨fun _ ↦ rfl, fun _ _ ↦ rfl⟩

theorem isSet_congr (h : find? name view = find? name view') :
    isSet name view = isSet name view' := by
  rw [isSet, isSet, h]

theorem valueOf_congr (h : find? name view = find? name view') :
    valueOf name view = valueOf name view' := by
  rw [valueOf, valueOf, h]

end Env

/-! ### The policy -/

namespace Policy

variable {c : Config} {view view' : List EnvVar} {name : String}

theorem isEnabled_congr
    (h : Env.find? c.reserved.enablementFlag view = Env.find? c.reserved.enablementFlag view') :
    isEnabled c view = isEnabled c view' := by
  rw [isEnabled, isEnabled, Env.valueOf_congr h]

theorem leadsElsewhere_congr (h : Env.find? name view = Env.find? name view') :
    leadsElsewhere c view name = leadsElsewhere c view' name := by
  rw [leadsElsewhere, leadsElsewhere, Env.isSet_congr h, Env.valueOf_congr h]

/-- **The gate of the installation** sees the enablement flag and the endpoints. -/
theorem installs_congr (h : ∀ name ∈ c.reserved.enablementFlag :: c.reserved.endpoints,
      Env.find? name view = Env.find? name view') (pod container : Option SecurityContext) :
    installs c view pod container = installs c view' pod container := by
  obtain ⟨hflag, hendpoints⟩ := List.forall_mem_cons.1 h
  have hall : (c.reserved.endpoints.all fun name ↦ !leadsElsewhere c view name) =
      c.reserved.endpoints.all fun name ↦ !leadsElsewhere c view' name := by
    rw [Bool.eq_iff_iff, List.all_eq_true, List.all_eq_true]
    exact forall₂_congr fun name hname ↦ by rw [leadsElsewhere_congr (hendpoints name hname)]
  rw [installs, installs, isEnabled_congr hflag, hall]

variable (h : ∀ name ∈ c.reserved.enablementFlag :: c.reserved.endpoints,
  Env.find? name view = Env.find? name view')

include h

theorem find?_endpoint (hname : name ∈ c.reserved.endpoints) :
    Env.find? name view = Env.find? name view' :=
  h name (List.mem_cons_of_mem _ hname)

theorem isEnabledElsewhere_congr : isEnabledElsewhere c view = isEnabledElsewhere c view' := by
  have hotlp : Env.find? c.reserved.otlpEndpoint view = Env.find? c.reserved.otlpEndpoint view' :=
    find?_endpoint h (by simp [ReservedNames.endpoints])
  rw [isEnabledElsewhere, isEnabledElsewhere, isEnabled_congr (h _ (List.mem_cons_self ..)),
    leadsElsewhere_congr hotlp]

/-- **The gates of the signals** see the flag and the endpoints. -/
theorem disablesMetrics_congr : disablesMetrics c view = disablesMetrics c view' := by
  rw [disablesMetrics, disablesMetrics, isEnabledElsewhere_congr h,
    Env.isSet_congr (find?_endpoint h (by simp [ReservedNames.endpoints]))]

theorem disablesLogs_congr : disablesLogs c view = disablesLogs c view' := by
  rw [disablesLogs, disablesLogs, isEnabledElsewhere_congr h,
    Env.isSet_congr (find?_endpoint h (by simp [ReservedNames.endpoints]))]

theorem overridesTraces_congr : overridesTraces c view = overridesTraces c view' := by
  rw [overridesTraces, overridesTraces, isEnabledElsewhere_congr h,
    Env.declares_congr (find?_endpoint h (by simp [ReservedNames.endpoints]))]

/-- **The gate of a proposal** sees whether the name is taken as well. -/
theorem admits_congr (hname : Env.declares name view = Env.declares name view')
    (value : Option String) : admits c view name value = admits c view' name value := by
  rw [admits, admits, hname, disablesMetrics_congr h, disablesLogs_congr h, overridesTraces_congr h]

end Policy

/-! ### The injection -/

namespace Java

variable {c : Config} {view view' : List EnvVar}

theorem admitted_congr (h : Env.Alike c.watchedNames view view') (taken : List String)
    (proposals : List EnvVar) :
    admitted c view taken proposals = admitted c view' taken proposals := by
  induction proposals generalizing taken with
  | nil => rfl
  | cons e proposals ih =>
    have hadmits : Policy.admits c view e.name e.value = Policy.admits c view' e.name e.value :=
      Policy.admits_congr (fun name hname ↦ h.find? name (List.mem_cons_of_mem _ hname))
        (h.declares e.name) e.value
    rw [admitted, admitted, hadmits, ih, ih]

/-- **The variables of a container with the agent** are the same for views that are alike. -/
theorem injectEnv_congr (h : Env.Alike c.watchedNames view view') (spec : JavaSpec)
    (env : List EnvVar) : injectEnv c spec view env = injectEnv c spec view' env := by
  have hoptions : Env.valueOf toolOptions view = Env.valueOf toolOptions view' :=
    Env.valueOf_congr (h.find? toolOptions (List.mem_cons_self ..))
  rw [injectEnv, injectEnv, admitted_congr h, withOptions, withOptions, hoptions]

end Java

end AgentGraft
