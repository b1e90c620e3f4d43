import Mathlib.Data.List.Induction
import Mathlib.Data.List.Nodup
import AgentGraft.Proofs.Environment.Snapshots
import AgentGraft.Proofs.Java.Grafting
import AgentGraft.Proofs.Java.Variables

/-!
# The variables of a container, one by one

What an injection makes of the variables of a container, said without its loop: the declared ones in
their places, the first options with the agent at their end; then of each name the first proposal
that the policy admits in the view of the owner, in the order of the proposals (`chosen`); then the
options and the marker where nothing declares them yet.

The loop decides about a proposal with what it has added in mind, and nothing else of it counts: a
proposal that the policy declines does not keep a later one of its name from being added, and what
is added does not sway the policy. That is `admitted_eq_chosen`, by induction from the end of the
proposals.
-/

namespace AgentGraft

namespace Java

variable {c : Config} {spec : JavaSpec} {pod pod' : Pod} {old : Container}
  {view env es : List EnvVar}
  {name : String} {e : EnvVar} {f : EnvVar → EnvVar} {taken : List String}

/-! ### The declared variables -/

/-- **Changing the first variable of a name** is changing the one variable at its place. -/
theorem updateFirst_eq_modify (name : String) (f : EnvVar → EnvVar) (env : List EnvVar) :
    updateFirst name f env = env.modify (env.findIdx fun e ↦ e.name == name) f := by
  induction env with
  | nil => rw [updateFirst, List.modify_nil]
  | cons e env ih =>
    rw [updateFirst, List.findIdx_cons]
    by_cases he : e.name = name
    · rw [if_pos he, beq_iff_eq.2 he, cond_true, List.modify_zero_cons]
    · rw [if_neg he, beq_eq_false_iff_ne.2 he, cond_false, List.modify_succ_cons, ih]

/-- Where names are distinct, it is changing every variable of the name. -/
theorem updateFirst_eq_map (h : (env.map (·.name)).Nodup) :
    updateFirst name f env = env.map fun e ↦ if e.name = name then f e else e := by
  induction env with
  | nil => rfl
  | cons e env ih =>
    rw [List.map_cons, List.nodup_cons] at h
    rw [updateFirst, List.map_cons]
    split
    · next he =>
      have hrest : ∀ e' ∈ env, e'.name ≠ name := fun e' he' heq ↦
        h.1 (List.mem_map.2 ⟨e', he', heq.trans he.symm⟩)
      rw [List.map_congr_left fun e' he' ↦ if_neg (hrest e' he'), List.map_id']
    · rw [ih h.2]

/-! ### The proposals that are added -/

/-- Of each name the first proposal that the policy admits in a view, in the order of the
proposals. -/
def chosen (c : Config) (view es : List EnvVar) : List EnvVar :=
  (es.zipIdx.filter fun m ↦ Policy.admits c view m.1.name m.1.value &&
    !(es.take m.2).any fun e ↦
      e.name == m.1.name && Policy.admits c view e.name e.value).map Prod.fst

theorem chosen_concat (es : List EnvVar) (e : EnvVar) : chosen c view (es ++ [e]) =
    chosen c view es ++ if Policy.admits c view e.name e.value &&
      !es.any (fun e' ↦ e'.name == e.name && Policy.admits c view e'.name e'.value)
    then [e] else [] :=
  map_fst_filter_zipIdx_concat (fun (front : List EnvVar) (e : EnvVar) ↦
    Policy.admits c view e.name e.value &&
      !front.any fun e' ↦ e'.name == e.name && Policy.admits c view e'.name e'.value) es e

/-- **The last proposal** is added if the policy admits it and its name has not been added. -/
theorem admitted_concat (taken : List String) (es : List EnvVar) (e : EnvVar) :
    admitted c view taken (es ++ [e]) = admitted c view taken es ++
      if Policy.admits c view e.name e.value &&
        !(taken.contains e.name || Env.declares e.name (admitted c view taken es)) then [e]
      else [] := by
  induction es generalizing taken with
  | nil =>
    rw [List.nil_append, admitted, admitted, admitted, admitted]
    cases taken.contains e.name <;> cases Policy.admits c view e.name e.value <;> rfl
  | cons x es ih =>
    rw [List.cons_append, admitted, admitted]
    split
    · exact ih taken
    · split
      · have hname : Env.declares e.name (x :: admitted c view (x.name :: taken) es) =
            (e.name == x.name || Env.declares e.name (admitted c view (x.name :: taken) es)) := by
          rw [Env.declares_eq_contains, Env.declares_eq_contains, List.map_cons, List.contains_cons]
        rw [ih, hname, List.contains_cons, List.cons_append]
        cases e.name == x.name <;> cases taken.contains e.name <;> rfl
      · exact ih taken

/-- **What the loop adds is what it should.** -/
theorem admitted_eq_chosen (es : List EnvVar) : admitted c view [] es = chosen c view es := by
  induction es using List.reverseRecOn with
  | nil => rfl
  | append_singleton es e ih =>
    have hdecl : Env.declares e.name (admitted c view [] es) =
        es.any fun e' ↦ e'.name == e.name && Policy.admits c view e'.name e'.value := by
      rw [Env.declares, find?_admitted List.not_mem_nil, Bool.eq_iff_iff, List.find?_isSome,
        List.any_eq_true]
    rw [admitted_concat, chosen_concat, hdecl, ih, List.contains_nil, Bool.false_or]

/-- Names stay distinct where the last of them is new. -/
theorem nodup_map_name_concat (h : (env.map (·.name)).Nodup)
    (hnew : Env.declares e.name env = false) : ((env ++ [e]).map (·.name)).Nodup := by
  have hmem : e.name ∉ env.map (·.name) := by
    rw [← List.contains_iff_mem, ← Env.declares_eq_contains, hnew]
    exact Bool.false_ne_true
  rw [List.map_append, List.map_singleton, ← List.concat_eq_append]
  exact h.concat hmem

/-- **No name is added twice.** -/
theorem nodup_map_name_admitted (taken : List String) (es : List EnvVar) :
    ((admitted c view taken es).map (·.name)).Nodup := by
  induction es using List.reverseRecOn with
  | nil => exact List.nodup_nil
  | append_singleton es e ih =>
    rw [admitted_concat]
    split
    · next h =>
      simp only [Bool.and_eq_true, Bool.not_eq_true', Bool.or_eq_false_iff] at h
      exact nodup_map_name_concat ih h.2.2
    · rwa [List.append_nil]

/-! ### The whole -/

/-- A variable as it is added: the options get the agent at their end. -/
def extended (e : EnvVar) : EnvVar := if e.name = toolOptions then withAgent e else e

/-- The options that are added behind these variables. -/
def missingOptions (view env : List EnvVar) : List EnvVar :=
  if Env.declares toolOptions env then []
  else [.literal toolOptions (Env.valueOf toolOptions view ++ agentOption)]

/-- The marker that is added behind these variables. -/
def missingMarker (c : Config) (env : List EnvVar) : List EnvVar :=
  if Env.declares c.markerVariable env then [] else [marker c]

@[simp] theorem extended_name (e : EnvVar) : (extended e).name = e.name := by
  rw [extended]
  split <;> rfl

theorem declares_map_extended (name : String) (es : List EnvVar) :
    Env.declares name (es.map extended) = Env.declares name es := by
  simp only [Env.declares_eq_contains, List.map_map, Function.comp_def, extended_name]

/-- What a container declares, its owner sees. -/
theorem declares_view_of_declares (h : env <+: view) (hdecl : Env.declares name env = true) :
    Env.declares name view = true := by
  obtain ⟨rest, rfl⟩ := h
  rw [Env.declares_append, hdecl, Bool.true_or]

theorem map_extended_of_not_declares (h : Env.declares toolOptions es = false) :
    es.map extended = es := by
  have hne (e : EnvVar) (he : e ∈ es) : extended e = e := by
    refine if_neg fun hname ↦ ?_
    rw [Env.declares_iff.2 ⟨e, he, hname⟩] at h
    cases h
  rw [List.map_congr_left hne, List.map_id']

/-- The proposals and the options, part by part. -/
theorem proposed_eq_append (hgrows : env <+: view) : proposed c spec view env =
    (chosen c view spec.env).map extended ++
      missingOptions view (env ++ chosen c view spec.env) := by
  rw [proposed, missingOptions, Env.declares_append, ← admitted_eq_chosen]
  by_cases hdecl : Env.declares toolOptions env = true
  · have hnone : Env.declares toolOptions (admitted c view [] spec.env) = false :=
      not_declares_admitted (declares_view_of_declares hgrows hdecl) [] spec.env
    rw [if_pos hdecl, hdecl, Bool.true_or, if_pos rfl, map_extended_of_not_declares hnone,
      List.append_nil]
  · rw [if_neg hdecl, Bool.eq_false_iff.2 hdecl, Bool.false_or, withOptions]
    split
    · rw [updateFirst_eq_map (nodup_map_name_admitted [] spec.env), List.append_nil]
      rfl
    · next hnone => rw [map_extended_of_not_declares (Bool.eq_false_iff.2 hnone)]

/-- **What is added**, part by part. -/
theorem additions_eq_append (hgrows : env <+: view) : additions c spec view env =
    (chosen c view spec.env).map extended ++ missingOptions view (env ++ chosen c view spec.env) ++
      missingMarker c (env ++ ((chosen c view spec.env).map extended ++
        missingOptions view (env ++ chosen c view spec.env))) := by
  rw [additions, proposed_eq_append hgrows, missingMarker]
  split
  · rw [List.append_nil]
  · rfl

/-- **The names of added variables are new**, and different from each other. -/
structure AddsNew (env added : List EnvVar) : Prop where
  nodup : (added.map (·.name)).Nodup
  fresh : ∀ e ∈ added, Env.declares e.name env = false

/-- One more variable that nothing declares is new as well. -/
theorem AddsNew.concat {added : List EnvVar} (h : AddsNew env added)
    (hnew : Env.declares e.name (env ++ added) = false) : AddsNew env (added ++ [e]) := by
  rw [Env.declares_append, Bool.or_eq_false_iff] at hnew
  exact ⟨nodup_map_name_concat h.nodup hnew.2,
    List.forall_mem_append.2 ⟨h.fresh, List.forall_mem_singleton.2 hnew.1⟩⟩

theorem addsNew_chosen (hgrows : env <+: view) : AddsNew env (chosen c view es) := by
  rw [← admitted_eq_chosen]
  refine ⟨nodup_map_name_admitted [] es, fun e he ↦ ?_⟩
  have hview := not_declares_of_admits (admits_of_mem_admitted he)
  by_contra hdecl
  rw [declares_view_of_declares hgrows (by simpa using hdecl)] at hview
  cases hview

theorem addsNew_proposed (hgrows : env <+: view) : AddsNew env (proposed c spec view env) := by
  have hextended : AddsNew env ((chosen c view spec.env).map extended) := by
    have h : AddsNew env (chosen c view spec.env) := addsNew_chosen hgrows
    refine ⟨by simpa [List.map_map, Function.comp_def] using h.nodup, ?_⟩
    simpa using h.fresh
  rw [proposed_eq_append hgrows, missingOptions]
  split
  · rwa [List.append_nil]
  · next hmissing =>
    refine hextended.concat ?_
    show Env.declares toolOptions _ = false
    rw [Env.declares_append, declares_map_extended, ← Env.declares_append]
    exact Bool.eq_false_iff.2 hmissing

theorem addsNew_additions (hgrows : env <+: view) : AddsNew env (additions c spec view env) := by
  have h : AddsNew env (proposed c spec view env) := addsNew_proposed hgrows
  rw [additions]
  split
  · exact h
  · next hmissing => exact h.concat (Bool.eq_false_iff.2 hmissing)

/-- **The options are declared afterwards**, whoever declares them. -/
theorem declares_toolOptions_injectEnv (env : List EnvVar) :
    Env.declares toolOptions (injectEnv c spec view env) = true := by
  have hoptions (env : List EnvVar) : Env.declares toolOptions (withOptions view env) = true := by
    rw [withOptions]
    split
    · next h =>
      rwa [Env.declares_eq_contains, map_name_updateFirst withAgent_name,
        ← Env.declares_eq_contains]
    · rw [Env.declares_append, Bool.or_eq_true]
      exact .inr (Env.declares_iff.2 ⟨_, List.mem_singleton_self _, rfl⟩)
  rw [injectEnv, withMarker]
  split
  · exact hoptions _
  · rw [Env.declares_append, hoptions, Bool.true_or]

/-- **The shape of the variables** of a container that gets the agent, over its view. The declared
ones keep their places and, the first options apart, all that they say. Behind them stand new names
only: of each name the first proposal that the policy admits in the view, which has none of these
names, as it was proposed, with the agent at the end of proposed options; and then the options and
the marker, where nothing declares them yet. -/
theorem shape_of_inject {s : Scope} {p : Pass} {index : Nat}
    (hold : pod.spec.containers[index]? = some old)
    (hview : (Environment.resolve s old p).1 = .ok view)
    (h : inject c spec pod index view = .ok (some pod')) :
    ∃ new added, pod'.spec.containers[index]? = some new ∧
      new.env = old.env.modify (old.env.findIdx fun e ↦ e.name == toolOptions) withAgent ++ added ∧
      AddsNew old.env added ∧
      added = (chosen c view spec.env).map extended ++
        missingOptions view (old.env ++ chosen c view spec.env) ++
          missingMarker c (old.env ++ ((chosen c view spec.env).map extended ++
            missingOptions view (old.env ++ chosen c view spec.env))) ∧
      (∀ e ∈ chosen c view spec.env, Env.declares e.name view = false) ∧
      Env.declares toolOptions new.env = true ∧ Env.declares c.markerVariable new.env = true := by
  have hgrows := Environment.prefix_of_resolve_eq_ok hview
  refine ⟨injectContainer c spec view old, additions c spec view old.env,
    getElem?_of_inject_eq_some hold h, ?_, addsNew_additions hgrows, additions_eq_append hgrows,
    fun e he ↦ ?_, declares_toolOptions_injectEnv old.env, declares_injectEnv old.env⟩
  · show injectEnv c spec view old.env = _
    rw [injectEnv_eq_append, updateFirst_eq_modify]
  · rw [← admitted_eq_chosen] at he
    exact not_declares_of_admits (admits_of_mem_admitted he)

end Java

/-! ### Proposals that repeat names -/

namespace Sample

/-- A container that declares its options twice, and an endpoint of metrics. -/
def tuned : Container := { supplied "app" [] with env :=
  [.literal Java.toolOptions "-Xmx1g", .literal Java.toolOptions "-Xss1m",
    .literal Config.standard.reserved.metricsEndpoint
      "http://cloudwatch-agent.amazon-cloudwatch:4316/v1/metrics"] }

/-- A pod that runs nothing else. -/
def tunedPod : Pod := ⟨.empty, { PodSpec.empty with containers := [tuned] }, []⟩

/-- Settings that propose three exporters of metrics, and options. -/
def repeating : JavaSpec :=
  ⟨"agent:1", [.literal Config.standard.reserved.metricsExporter "none",
    .literal Config.standard.reserved.metricsExporter "otlp",
    .literal Config.standard.reserved.metricsExporter "console",
    .literal Java.toolOptions "-Xmx2g", .literal "SERVICE" "shop"], "", none, none⟩

/-- What is behind the variables of the container afterwards. -/
def repeated : List EnvVar :=
  [.literal Config.standard.reserved.metricsExporter "otlp", .literal "SERVICE" "shop",
    Java.marker .standard]

end Sample

/-- The first exporter is declined, as metrics have an endpoint, and does not keep the second from
being added; the options are not proposed anew, and the first of them get the agent. -/
theorem shape_sample : ∃ pod' new,
    Java.inject .standard Sample.repeating Sample.tunedPod 0 Sample.tuned.env = .ok (some pod') ∧
    pod'.spec.containers[0]? = some new ∧ Java.AddsNew Sample.tuned.env Sample.repeated ∧
    new.env = .literal Java.toolOptions ("-Xmx1g" ++ Java.agentOption) ::
      Sample.tuned.env.drop 1 ++ Sample.repeated := by
  have hpasses : Java.isWanted .standard Sample.tunedPod Sample.tuned Sample.tuned.env = true := by
    decide +kernel
  obtain ⟨pod', h⟩ : ∃ pod',
      Java.inject .standard Sample.repeating Sample.tunedPod 0 Sample.tuned.env = .ok (some pod') :=
    ⟨_, Java.inject_eq_some_iff.2 ⟨Sample.tuned, rfl, by decide +kernel, hpasses, rfl⟩⟩
  have hview : (Environment.resolve ⟨Sample.moody, "shop", none⟩ Sample.tuned
    (.start (.start 0))).1 = .ok Sample.tuned.env := rfl
  obtain ⟨new, added, hnew, henv, hadds, hadded, -⟩ :=
    Java.shape_of_inject (show Sample.tunedPod.spec.containers[0]? = some Sample.tuned from rfl)
      hview h
  have hrepeated : added = Sample.repeated := by
    rw [hadded]
    decide +kernel
  rw [hrepeated] at henv hadds
  refine ⟨pod', new, h, hnew, hadds, ?_⟩
  rw [henv]
  decide +kernel

end AgentGraft
