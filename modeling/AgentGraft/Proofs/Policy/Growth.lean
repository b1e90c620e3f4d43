import AgentGraft.Proofs.Policy.Dependence
import AgentGraft.Proofs.Policy.Routing

/-!
# What more declarations do to decisions

A view is `Env.Within` another one when the other shows all that it shows; so is every view within
what it becomes by variables at its end. Whatever a decision finds in a view it still finds in the
other one, so what tells against the agent stays. The gates of the signals can only close then
(`overrides_of_within`). The gate of the installation closes with them as long as nothing more asks
for the agent (`installs_of_within`), and stays open where the agent is asked for
(`installs_of_isEnabled`).
-/

namespace AgentGraft

/-! ### Views that grow -/

namespace Env

variable {name : String} {view view' : List EnvVar}

/-- What the one view shows under a name, the other shows as well. -/
def Within (view view' : List EnvVar) : Prop :=
  ∀ name e, find? name view = some e → find? name view' = some e

/-- Variables at the end take nothing away. -/
theorem within_append (view back : List EnvVar) : Within view (view ++ back) := by
  intro name e he
  rw [find?_append, he]
  rfl

/-- A name that is declared is found as it was. -/
theorem Within.find?_eq (h : Within view view') (hname : declares name view = true) :
    find? name view = find? name view' := by
  obtain ⟨e, he⟩ := Option.isSome_iff_exists.1 hname
  rw [he, h name e he]

theorem Within.declares (h : Within view view') (hname : declares name view = true) :
    declares name view' = true :=
  declares_congr (h.find?_eq hname) ▸ hname

end Env

namespace Policy

variable {c : Config} {view view' : List EnvVar} {name : String} {σ : Signal}
  {pod container : Option SecurityContext} {e : EnvVar}

/-! ### What is found stays found -/

theorem isSet_of_within (h : Env.Within view view') (hset : Env.isSet name view = true) :
    Env.isSet name view' = true :=
  Env.isSet_congr (h.find?_eq (declares_of_isSet hset)) ▸ hset

theorem leadsElsewhere_of_within (h : Env.Within view view')
    (helsewhere : leadsElsewhere c view name = true) : leadsElsewhere c view' name = true := by
  have hset : Env.isSet name view = true := (Bool.and_eq_true_iff.1 helsewhere).1
  rwa [← leadsElsewhere_congr (h.find?_eq (declares_of_isSet hset))]

/-- An agent is asked for by a flag that is there. -/
theorem declares_of_isEnabled (h : isEnabled c view = true) :
    Env.declares c.reserved.enablementFlag view = true := by
  by_contra hnone
  have hvalue : Env.valueOf c.reserved.enablementFlag view = "" := by
    rw [Env.valueOf, Env.find?_eq_none_iff.2 (Bool.eq_false_iff.2 hnone)]
  rw [isEnabled, hvalue] at h
  exact absurd h (by decide +kernel)

theorem isEnabled_of_within (h : Env.Within view view') (henabled : isEnabled c view = true) :
    isEnabled c view' = true :=
  isEnabled_congr (h.find?_eq (declares_of_isEnabled henabled)) ▸ henabled

theorem isEnabledElsewhere_of_within (h : Env.Within view view')
    (helsewhere : isEnabledElsewhere c view = true) : isEnabledElsewhere c view' = true := by
  rw [isEnabledElsewhere, Bool.and_eq_true] at helsewhere ⊢
  exact ⟨leadsElsewhere_of_within h helsewhere.1, isEnabled_of_within h helsewhere.2⟩

/-! ### Gates -/

/-- **The gate of a signal only closes** when a view grows. -/
theorem overrides_of_within (h : Env.Within view view') (hopen : overrides c view' σ = true) :
    overrides c view σ = true := by
  have hexempt : isEnabledElsewhere c view' = false → isEnabledElsewhere c view = false :=
    fun hnot ↦ Bool.eq_false_iff.2 fun hyes ↦
      Bool.eq_false_iff.1 hnot (isEnabledElsewhere_of_within h hyes)
  have hset (name : String) : Env.isSet name view' = false → Env.isSet name view = false :=
    fun hnot ↦ Bool.eq_false_iff.2 fun hyes ↦ Bool.eq_false_iff.1 hnot (isSet_of_within h hyes)
  have hdeclares (name : String) :
      Env.declares name view' = false → Env.declares name view = false :=
    fun hnot ↦ Bool.eq_false_iff.2 fun hyes ↦ Bool.eq_false_iff.1 hnot (h.declares hyes)
  cases σ with
  | traces =>
    simp only [overrides, overridesTraces, Bool.and_eq_true, Bool.not_eq_true'] at hopen ⊢
    exact hopen.imp hexempt (hdeclares _)
  | metrics =>
    simp only [overrides, disablesMetrics, Bool.and_eq_true, Bool.not_eq_true'] at hopen ⊢
    exact hopen.imp hexempt (hset _)
  | logs =>
    simp only [overrides, disablesLogs, Bool.and_eq_true, Bool.not_eq_true'] at hopen ⊢
    exact hopen.imp hexempt (hset _)

/-- **The gate of the installation only closes** when a view grows and the flag stays as it is. -/
theorem installs_of_within (h : Env.Within view view')
    (hflag : Env.find? c.reserved.enablementFlag view = Env.find? c.reserved.enablementFlag view')
    (hopen : installs c view' pod container = true) : installs c view pod container = true := by
  rw [installs_iff, ← isEnabled_congr hflag] at hopen
  refine installs_iff.2 (hopen.imp_right (Or.imp_right fun hall name hname ↦ ?_))
  exact Bool.eq_false_iff.2 fun hyes ↦
    Bool.eq_false_iff.1 (hall name hname) (leadsElsewhere_of_within h hyes)

/-- **The gate of the installation stays open** where the agent is asked for. -/
theorem installs_of_isEnabled (henabled : isEnabled c view' = true)
    (hopen : installs c view pod container = true) : installs c view' pod container = true :=
  installs_iff.2 ⟨(installs_iff.1 hopen).1, .inl henabled⟩

/-! ### One more variable -/

/-- Where no name has two roles the flag is no endpoint. -/
theorem flag_not_mem_endpoints (hd : c.reserved.names.Nodup) :
    c.reserved.enablementFlag ∉ c.reserved.endpoints := by
  simp only [ReservedNames.names, ReservedNames.traces, ReservedNames.endpoints, List.cons_append,
    List.nil_append, List.nodup_cons, List.mem_cons, List.not_mem_nil, not_or, or_false] at hd ⊢
  grind

/-- A flag at the end that says true asks for the agent, if it is the first one. -/
theorem isEnabled_append (hname : e.name = c.reserved.enablementFlag)
    (hnew : Env.declares c.reserved.enablementFlag view = false)
    (hvalue : Text.lower (Text.strip (e.value.getD "")) = "true") :
    isEnabled c (view ++ [e]) = true := by
  have hfind : Env.find? c.reserved.enablementFlag (view ++ [e]) = some e := by
    rw [Env.find?_append, Env.find?_eq_none_iff.2 hnew, Option.none_or, Env.find?_cons,
      if_pos hname]
  rw [isEnabled, Env.valueOf, hfind]
  exact decide_eq_true hvalue

/-- **Gates respond to what the owner declares**, and to nothing else. They are the same for views
that show the same under the flag and the endpoints, and so is the gate of a proposal whose name is
declared in both or in none. An endpoint that is declared at the end, with whatever value or source,
opens none of them. A first flag that asks for the agent keeps the gate of the installation open and
opens none of the gates of the signals. -/
theorem gates_respond (hd : c.reserved.names.Nodup) (pod container : Option SecurityContext) :
    (∀ view view', (∀ name ∈ c.reserved.enablementFlag :: c.reserved.endpoints,
        Env.find? name view = Env.find? name view') →
      installs c view pod container = installs c view' pod container ∧
      (∀ σ, overrides c view σ = overrides c view' σ) ∧
      ∀ name value, Env.declares name view = Env.declares name view' →
        admits c view name value = admits c view' name value) ∧
    (∀ view e, e.name ∈ c.reserved.endpoints →
      (installs c (view ++ [e]) pod container = true → installs c view pod container = true) ∧
      ∀ σ, overrides c (view ++ [e]) σ = true → overrides c view σ = true) ∧
    (∀ view e, e.name = c.reserved.enablementFlag →
      Env.declares c.reserved.enablementFlag view = false →
      Text.lower (Text.strip (e.value.getD "")) = "true" →
      (installs c view pod container = true → installs c (view ++ [e]) pod container = true) ∧
      ∀ σ, overrides c (view ++ [e]) σ = true → overrides c view σ = true) := by
  refine ⟨fun view view' h ↦ ⟨installs_congr h pod container, fun σ ↦ ?_,
    fun name value hname ↦ admits_congr h hname value⟩, fun view e hname ↦ ?_,
    fun view e hname hnew hvalue ↦ ?_⟩
  · cases σ with
    | traces => exact overridesTraces_congr h
    | metrics => exact disablesMetrics_congr h
    | logs => exact disablesLogs_congr h
  · have hne : e.name ≠ c.reserved.enablementFlag :=
      fun heq ↦ flag_not_mem_endpoints hd (heq ▸ hname)
    have hflag : Env.declares c.reserved.enablementFlag [e] = false :=
      Env.find?_eq_none_iff.1 (by rw [Env.find?_cons, if_neg hne, Env.find?_nil])
    exact ⟨installs_of_within (Env.within_append view [e])
      (Env.find?_append_of_not_declares hflag).symm,
      fun _ ↦ overrides_of_within (Env.within_append view [e])⟩
  · exact ⟨installs_of_isEnabled (isEnabled_append hname hnew hvalue),
      fun _ ↦ overrides_of_within (Env.within_append view [e])⟩

end Policy

/-! ### Endpoints of metrics -/

namespace Sample

/-- A variable that no decision looks at, and metrics that go to a third party. -/
def measured (other : EnvVar) : List EnvVar :=
  [other, .literal Config.standard.reserved.metricsEndpoint "https://metrics.example"]

/-- The flag, in capitals and with blanks around it. -/
def loudFlag : EnvVar := .literal Config.standard.reserved.enablementFlag " TRUE "

end Sample

/-- What else is declared, and in which order, changes no gate; metrics that go elsewhere close the
gate of the installation, which the flag keeps open where it is. -/
theorem gates_respond_sample :
    Policy.installs .standard (Sample.measured (.literal "APP" "web")) none none =
      Policy.installs .standard (Sample.measured (.literal "APP" "db")).reverse none none ∧
    Policy.admits .standard (Sample.measured (.literal "APP" "web"))
        Config.standard.reserved.metricsExporter (some "none") =
      Policy.admits .standard (Sample.measured (.literal "APP" "db")).reverse
        Config.standard.reserved.metricsExporter (some "none") ∧
    Policy.overrides .standard [.literal "APP" "web"] .logs = true ∧
    Policy.installs .standard ([.literal "APP" "web"] ++ [Sample.loudFlag]) none none = true := by
  obtain ⟨hsame, hendpoint, hflag⟩ :=
    Policy.gates_respond (c := .standard) (by decide) none none
  obtain ⟨hinstalls, -, hadmits⟩ := hsame (Sample.measured (.literal "APP" "web"))
    (Sample.measured (.literal "APP" "db")).reverse (by decide +kernel)
  exact ⟨hinstalls, hadmits _ _ (by decide +kernel),
    (hendpoint [.literal "APP" "web"]
      (.literal Config.standard.reserved.metricsEndpoint "https://metrics.example")
      (by decide +kernel)).2 .logs (by decide +kernel),
    (hflag [.literal "APP" "web"] Sample.loudFlag rfl (by decide +kernel) (by decide +kernel)).1
      (by decide +kernel)⟩

end AgentGraft
