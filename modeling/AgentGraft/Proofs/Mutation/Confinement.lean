import AgentGraft.Proofs.Environment.Agreement
import AgentGraft.Proofs.Environment.Snapshots
import AgentGraft.Proofs.Mutation.Steady

/-!
# Where bundle values do not get to

A mutation may look at a bundle only to decide, and to take over the options of the virtual machine.
Two runs over bundles that agree (`Bundles.Agree`) inspect the same containers, with views that are
alike (`Mutator.forall₂_inspected?`). Alike views pass the same gates and are grafted alike, so the
runs end with the same pod: `mutate_eq_of_agree`. All other values of config maps and secrets stay
out of it.
-/

namespace AgentGraft

/-! ### Inspections that are alike -/

namespace Inspection

variable {c : Config} {names : List String} {n n' : Inspection} {l l' : List Inspection}

/-- The inspections differ in their views only, and these are alike. -/
structure Alike (names : List String) (n n' : Inspection) : Prop where
  spec : n.spec = n'.spec
  index : n.index = n'.index
  container : n.container = n'.container
  view : Env.Alike names n.view n'.view

namespace Alike

variable (h : n.Alike c.watchedNames n')

include h

/-- They pass alike. -/
theorem passes_eq (pod : Pod) : n.passes c pod = n'.passes c pod := by
  have hinstalls := Policy.installs_congr (fun name hname ↦
    h.view.find? name (List.mem_cons_of_mem _ hname)) pod.spec.securityContext
    n.container.securityContext
  rw [passes, passes, Java.isWanted, Java.isWanted, hinstalls, h.container]

/-- They are grafted alike. -/
theorem graft_eq (pod : Pod) : n.graft c pod = n'.graft c pod := by
  have hgrafted : n.grafted c = n'.grafted c := by
    rw [grafted, grafted, Java.injectContainer, Java.injectContainer, h.spec, h.container,
      Java.injectEnv_congr h.view]
  rw [graft, graft, hgrafted, h.spec, h.index]

end Alike

/-- **Grafting does not tell alike inspections apart.** -/
theorem foldl_graft_congr (h : List.Forall₂ (Alike c.watchedNames) l l') (pod : Pod) :
    (l.filter (·.passes c pod)).foldl (graft c) pod =
      (l'.filter (·.passes c pod)).foldl (graft c) pod := by
  have hfilter := List.rel_filter (p := (·.passes c pod)) (q := (·.passes c pod))
    (fun n n' hn ↦ iff_of_eq (congrArg (· = true) (Alike.passes_eq hn pod))) h
  refine List.rel_foldl (P := Eq) (fun p q hpq n n' hn ↦ ?_) rfl hfilter
  rw [hpq, Alike.graft_eq hn]

end Inspection

/-! ### Two runs -/

/-- What the containers of a pod import from. -/
def Pod.sources (pod : Pod) : List EnvFromSource := pod.spec.containers.flatMap (·.envFrom)

namespace Mutator

variable {b b' : Bundles} {names : List String} {pod : Pod}

/-- **Both runs inspect the same containers**, with views that are alike. -/
theorem forall₂_inspected? {ns : String} (h : b.Agree b' ns names pod.sources) (hb : b.IsText)
    (hb' : b'.IsText) (vs : List Visit) :
    List.Forall₂ (Inspection.Alike names) (vs.filterMap (inspected? b ns pod))
      (vs.filterMap (inspected? b' ns pod)) := by
  refine List.rel_filterMap (R := Eq) (fun v v' hv ↦ ?_) (List.forall₂_refl vs)
  subst hv
  cases v with
  | unknownRuntime runtime => exact .none
  | noSuchContainer target => exact .none
  | container injector i index =>
    rw [inspected?, inspected?]
    rcases hk : pod.spec.containers[index]? with - | k
    · exact .none
    · obtain ⟨view, hview⟩ := hb.exists_view_eq_ok ns k
      obtain ⟨view', hview'⟩ := hb'.exists_view_eq_ok ns k
      have hsources : k.envFrom ⊆ pod.sources := fun source hsource ↦
        List.mem_flatMap.2 ⟨k, List.mem_of_getElem? hk, hsource⟩
      simp only [hview, hview']
      exact .some ⟨rfl, rfl, rfl, h.alike_view hsources hview hview'⟩

end Mutator

/-- **Bundle values stay out of the pod.** Over bundles that agree on which of them can be had, on
their keys, and on the values that some container imports as the options of the virtual machine, the
enablement flag or an endpoint, a mutation has one result: the same pod, or the same fault of its
targets. -/
theorem mutate_eq_of_agree {c : Config} {b b' : Bundles} {store store' : Store} {pod : Pod}
    {ns : Option String} (hstore : store.Serves b) (hstore' : store'.Serves b') (hb : b.IsText)
    (hb' : b'.IsText)
    (hagree : b.Agree b' (Mutator.namespaceOf ns pod) c.watchedNames pod.sources)
    (is : List Instrumentation) (w w' : World) :
    (∃ m, ((Mutator.ofStore store c).mutate pod is ns none w).1 = .ok m ∧
      ((Mutator.ofStore store' c).mutate pod is ns none w').1 = .ok m) ∨
    ∃ f, ((Mutator.ofStore store c).mutate pod is ns none w).1 = .error (.targets f) ∧
      ((Mutator.ofStore store' c).mutate pod is ns none w').1 = .error (.targets f) := by
  rcases hcheck : Targets.check (Targets.listsOf is) with f | ⟨⟩
  · refine .inr ⟨f, ?_, ?_⟩ <;> simp only [Mutator.mutate_fst, hcheck]
  · obtain ⟨m, v, h⟩ := Mutator.exists_mutate_eq_ok (m := Mutator.ofStore store c)
      (hstore.yieldsText hb) hcheck pod ns none w
    obtain ⟨m', v', h'⟩ := Mutator.exists_mutate_eq_ok (m := Mutator.ofStore store' c)
      (hstore'.yieldsText hb') hcheck pod ns none w'
    refine .inl ⟨m, congrArg Prod.fst h, (congrArg Prod.fst h').trans (congrArg Except.ok ?_)⟩
    by_cases hfresh : Footprint.isInstrumented c pod = true
    · -- a pod that is instrumented already is left alone by both
      have hkept (store : Store) (w : World) :
          ((Mutator.ofStore store c).mutate pod is ns none w).1 = .ok pod := by
        simp only [Mutator.mutate_fst, hcheck, hfresh, if_true]
      have hm := hkept store w
      have hm' := hkept store' w'
      rw [h] at hm
      rw [h'] at hm'
      exact (Except.ok.inj hm').trans (Except.ok.inj hm).symm
    · rw [Bool.not_eq_true] at hfresh
      rw [Mutator.eq_foldl_of_mutate_eq_ok h, Mutator.eq_foldl_of_mutate_eq_ok h',
        Mutator.grafts_of_mutate_eq_ok hstore hcheck hfresh h,
        Mutator.grafts_of_mutate_eq_ok hstore' hcheck hfresh h']
      exact (Inspection.foldl_graft_congr (Mutator.forall₂_inspected? hagree hb hb' _) pod).symm

/-! ### A secret that stays one -/

namespace Sample

/-- A config map with options of the virtual machine, and a secret with a token. -/
def told (token : String) : Bundles := fun kind _ _ ↦
  match kind with
  | .configMap => .ok [("TOOL_OPTIONS", .str "-Xmx1g")]
  | .secret => .ok [("TOKEN", .str token)]

theorem isText_told (token : String) : (told token).IsText := by
  intro kind ns name data h m hm
  cases kind <;> cases h <;> exact ⟨_, by rw [List.mem_singleton.1 hm]⟩

/-- A pod that imports both behind a prefix, and the secret once more. -/
def confided : Pod :=
  ⟨.empty, { PodSpec.empty with containers := [{ container "app" with envFrom :=
    [⟨some "JAVA_", some ⟨"jvm", none, []⟩, none, []⟩,
     ⟨some "JAVA_", none, some ⟨"creds", none, []⟩, []⟩, secretBehind ""] }] }, []⟩

/-- The token is not looked at behind any of the prefixes. -/
theorem agree_told (token token' : String) : (told token).Agree (told token')
    (Mutator.namespaceOf none confided) Config.standard.watchedNames confided.sources where
  had kind name := by cases kind <;> simp [told]
  keys kind name data data' h h' key := by
    rcases kind with - | -
    · cases h
      cases h'
      rfl
    · cases h
      cases h'
      rw [Members.find?_cons, Members.find?_cons]
      split <;> rfl
  values source hsource kind ref hbundle data data' h h' key hname := by
    rcases kind with - | -
    · cases h
      cases h'
      rfl
    · have hprefix : ∀ source ∈ confided.sources,
          source.keyPrefix.getD "" ++ "TOKEN" ∉ Config.standard.watchedNames := by
        decide
      have hne : key ≠ "TOKEN" := by
        rintro rfl
        exact hprefix source hsource hname
      cases h
      cases h'
      rw [Members.find?_cons, Members.find?_cons, if_neg hne, if_neg hne]

end Sample

/-- The agent is added to the imported options, and the pod does not tell the token. -/
theorem mutate_eq_told_sample : ∃ m, m ≠ Sample.confided ∧
    ((Mutator.ofStore (Sample.told "s3cr3t").store .standard).mutate Sample.confided
      [Sample.instrumentation] none none (.start 0)).1 = .ok m ∧
    ((Mutator.ofStore (Sample.told "hunter2").store .standard).mutate Sample.confided
      [Sample.instrumentation] none none (.start 0)).1 = .ok m := by
  have hchanged : ((Mutator.ofStore (Sample.told "s3cr3t").store .standard).mutate
      Sample.confided [Sample.instrumentation] none none (.start 0)).1.toOption.any
        (· ≠ Sample.confided) = true := by
    decide +kernel
  rcases mutate_eq_of_agree (Bundles.serves_store _) (Bundles.serves_store _)
    (Sample.isText_told "s3cr3t") (Sample.isText_told "hunter2")
    (Sample.agree_told "s3cr3t" "hunter2") [Sample.instrumentation] (.start 0) (.start 0) with
    ⟨m, h, h'⟩ | ⟨f, h, -⟩
  · rw [h] at hchanged
    exact ⟨m, by simpa [Except.toOption] using hchanged, h, h'⟩
  · rw [h] at hchanged
    cases hchanged

end AgentGraft
