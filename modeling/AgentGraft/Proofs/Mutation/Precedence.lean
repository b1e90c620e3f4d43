import AgentGraft.Proofs.Java.Variables
import AgentGraft.Proofs.Mutation.Steady

/-!
# What the owner has set

Everything that an injection adds stands in front of what a container imports, so a variable of the
owner survives only if nothing of its name is added. Proposals and options are looked up in the
effective environment first. The marker is not: it is looked up in what the container declares, and
where a bundle brings it in, the marker that is added hides it.

`find?_view_of_mutate` says so of whole mutations: resolved once more against the same bundles,
every variable but the options is found as before, save that one.
-/

namespace AgentGraft

variable {c : Config} {spec : JavaSpec} {b : Bundles}

/-! ### One container -/

/-- A marker that the owner sees without declaring it is hidden. -/
theorem Java.find?_injectEnv_marker {view env : List EnvVar}
    (hname : c.markerVariable ≠ toolOptions) (hview : Env.declares c.markerVariable view = true)
    (henv : Env.declares c.markerVariable env = false) :
    Env.find? c.markerVariable (injectEnv c spec view env) = some (marker c) := by
  have hproposed := not_declares_admitted (c := c) hview [] spec.env
  have hdecl : Env.declares c.markerVariable
      (withOptions view (env ++ admitted c view [] spec.env)) = false := by
    rw [Env.declares_congr (find?_withOptions hname _), Env.declares_append, henv, hproposed]
    rfl
  rw [injectEnv, withMarker, hdecl, if_neg Bool.false_ne_true, Env.find?_append,
    Env.find?_eq_none_iff.2 hdecl, Option.none_or, Env.find?_cons, if_pos (marker_name c)]

/-- **The view of a container with the agent** shows the owner's variables, options and hidden
marker apart. -/
theorem Bundles.exists_view_injectContainer {ns : String} {k : Container} {view : List EnvVar}
    (h : b.view ns k = .ok view) (c : Config) (spec : JavaSpec) :
    ∃ view', b.view ns (Java.injectContainer c spec view k) = .ok view' ∧
      ∀ name, name ≠ Java.toolOptions → Env.declares name view = true →
        Env.find? name view' =
          if name = c.markerVariable ∧ Env.declares name k.env = false then some (Java.marker c)
          else Env.find? name view := by
  have hmore (name : String) : Env.declares name k.env = true →
      Env.declares name (Java.injectEnv c spec view k.env) = true :=
    Java.declares_injectEnv_of_declares
  obtain ⟨view', hview'⟩ :=
    Environment.exists_addKeys_eq_ok (Environment.ofChecked_eq_ok_iff.1 h) hmore
  have hresolved : b.view ns (Java.injectContainer c spec view k) = .ok view' :=
    Environment.ofChecked_eq_ok_iff.2 hview'
  refine ⟨view', hresolved, fun name hname hdecl ↦ ?_⟩
  rw [find?_of_view_eq_ok hresolved, find?_of_view_eq_ok h]
  show (Env.find? name (Java.injectEnv c spec view k.env)).or _ = _
  split
  · next hmarker =>
    obtain ⟨rfl, henv⟩ := hmarker
    rw [Java.find?_injectEnv_marker hname hdecl henv, Option.some_or]
  · next hmarker =>
    rw [not_and, Bool.not_eq_false] at hmarker
    rw [Java.find?_injectEnv hname hdecl (Classical.or_iff_not_imp_left.2 fun hm ↦
      hmarker (not_not.1 hm))]
    rfl

/-! ### Mutations -/

section Mutation

variable {store : Store} {pod : Pod} {is : List Instrumentation} {ns : Option String} {w : World}

/-- **What the owner has set is kept.** Over fixed bundles a mutation yields a pod if the bundles
are texts; and in the pod that it yields every variable that a container sees, the options apart, is
found as it was before. The one exception is the marker: where a container that gets the agent
imports it and does not declare it, the marker that is added is found instead. -/
theorem find?_view_of_mutate (hb : store.Serves b)
    (hcheck : Targets.check (Targets.listsOf is) = .ok ()) :
    (b.IsText → ∃ m w', (Mutator.ofStore store c).mutate pod is ns none w = (.ok m, w')) ∧
    ∀ m w', (Mutator.ofStore store c).mutate pod is ns none w = (.ok m, w') →
      ∀ (i : Nat) (k : Container) (view : List EnvVar) (v v' : World),
        pod.spec.containers[i]? = some k →
        (Environment.resolve ⟨store, Mutator.namespaceOf ns pod, none⟩ k (.start v)).1 = .ok view →
        ∃ k' view', m.spec.containers[i]? = some k' ∧
          (Environment.resolve ⟨store, Mutator.namespaceOf ns pod, none⟩ k' (.start v')).1 =
            .ok view' ∧
          ∀ name, name ≠ Java.toolOptions → Env.declares name view = true →
            Env.find? name view' =
              if k' ≠ k ∧ name = c.markerVariable ∧ Env.declares name k.env = false then
                some (Java.marker c)
              else Env.find? name view := by
  refine ⟨fun htext ↦ Mutator.exists_mutate_eq_ok (hb.yieldsText htext) hcheck pod ns none w, ?_⟩
  intro m w' h i k view v v' hk hview
  have hreads := Mutator.reads_of_serves hb (Mutator.namespaceOf ns pod)
  have hresolve (k : Container) (v : World) :
      (Environment.resolve ⟨store, Mutator.namespaceOf ns pod, none⟩ k (.start v)).1 =
        b.view (Mutator.namespaceOf ns pod) k :=
    (Environment.resolve_of_reads hreads (Cache.agrees_empty ..) k).1
  rw [hresolve] at hview
  simp only [hresolve]
  rcases getElem?_of_mutate_eq_ok h hk with hm | ⟨n, hn, -, rfl, hm⟩
  · exact ⟨k, view, hm, hview, fun name _ _ ↦ by rw [if_neg fun h ↦ h.1 rfl]⟩
  · -- the container was inspected with the view that it has now
    have htrace := (Mutator.mem_trace_of_mem_grafts hn).1
    obtain rfl : n.view = view :=
      Except.ok.inj ((Mutator.view_of_mem_trace hb htrace).symm.trans hview)
    obtain ⟨view', hview', hfind⟩ := b.exists_view_injectContainer hview c n.spec
    refine ⟨n.grafted c, view', hm, hview', fun name hname hdecl ↦ ?_⟩
    rw [hfind name hname hdecl]
    exact if_congr (and_iff_right (Java.injectContainer_ne n.container)).symm rfl rfl

end Mutation

/-! ### A container that imports the marker -/

namespace Sample

/-- A cluster with two config maps: one sets a level, the other the name of a node. -/
def bundles : Bundles := fun kind ns name ↦
  if kind = .configMap ∧ name = "app-env" then .ok [("LOG_LEVEL", .str "debug")]
  else if kind = .configMap ∧ name = "node-env" then
    .ok [(Config.standard.markerVariable, .str "edge-7")]
  else .error ⟨true, kind.name, ns, name, "not found"⟩

theorem isText_bundles : bundles.IsText := by
  intro kind ns name data h m hm
  rw [bundles] at h
  split at h
  · cases h
    exact ⟨"debug", by rw [List.mem_singleton.1 hm]⟩
  · split at h
    · cases h
      exact ⟨"edge-7", by rw [List.mem_singleton.1 hm]⟩
    · cases h

/-- A container that imports both. -/
def importer : Container :=
  { container "app" with envFrom :=
    [⟨none, some ⟨"app-env", none, []⟩, none, []⟩, ⟨none, some ⟨"node-env", none, []⟩, none, []⟩] }

/-- A pod that runs nothing else. -/
def importing : Pod := ⟨.empty, { PodSpec.empty with containers := [importer] }, []⟩

/-- What a mutation of the pod returns and leaves behind. -/
def importingOutcome : Except Mutator.Fault Pod × World :=
  (Mutator.ofStore bundles.store .standard).mutate importing [instrumentation] none none (.start 0)

/-- The view of a container in that cluster. -/
def viewOf (k : Container) : Except Failure (List EnvVar) :=
  (Environment.resolve ⟨bundles.store, "default", none⟩ k (.start (.start 0))).1

end Sample

/-- The level that the one config map sets is found as before. -/
theorem find?_level_sample : ∃ m k' view', Sample.importingOutcome.1 = .ok m ∧
    m.spec.containers[0]? = some k' ∧ Sample.viewOf k' = .ok view' ∧
    Env.find? "LOG_LEVEL" view' = some (.literal "LOG_LEVEL" "debug") := by
  obtain ⟨hyields, hkept⟩ := @find?_view_of_mutate .standard Sample.bundles Sample.bundles.store
    Sample.importing [Sample.instrumentation] none (.start 0) Sample.bundles.serves_store
    (by decide +kernel)
  obtain ⟨m, w', h⟩ := hyields Sample.isText_bundles
  have hview : Sample.viewOf Sample.importer = .ok [.literal "LOG_LEVEL" "debug",
      .literal Config.standard.markerVariable "edge-7"] := by decide +kernel
  obtain ⟨k', view', hk', hview', hfind⟩ :=
    hkept m w' h 0 Sample.importer _ (.start 0) (.start 0) rfl hview
  refine ⟨m, k', view', congrArg Prod.fst h, hk', hview', ?_⟩
  rw [hfind "LOG_LEVEL" (by decide) (by decide),
    if_neg fun hmarker ↦ absurd hmarker.2.1 (by decide)]
  rfl

/-- The name of the node that the other one sets is hidden by the marker. -/
theorem find?_marker_sample : Config.standard.markerVariable ≠ Java.toolOptions ∧
    (Sample.viewOf Sample.importer).toOption.bind (Env.find? Config.standard.markerVariable) =
        some (.literal Config.standard.markerVariable "edge-7") ∧
      ((Sample.importingOutcome.1.toOption.bind (·.spec.containers[0]?)).bind
        fun k' ↦ (Sample.viewOf k').toOption.bind (Env.find? Config.standard.markerVariable)) =
          some (Java.marker .standard) := by
  decide +kernel

end AgentGraft
