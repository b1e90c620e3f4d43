import AgentGraft.Proofs.Mutation.Grafted

/-!
# Security settings have the last word

Who demands a user other than root and names none cannot run the agent: its init container, or the
container itself, would be refused later on. `Policy.veto` is the one place where this is decided,
and `veto_eq_none_iff` says when it lets a container pass. What no veto holds back is grafted on, so
vetoed containers are left alone whatever else is configured.

The init container has settings of its own only where a pod demands such a user without naming one
(`Java.initSecurity`). But this is where the pod has a veto, so no graft ever gets there: the
settings are absent from every init container that is added, and the user that they would name has
no say in any mutation (`mutate_withInitContainerUser`).
-/

namespace AgentGraft

/-- The settings demand a user other than root and name none. -/
def SecurityContext.IsUnmet (s : SecurityContext) : Prop :=
  s.runAsNonRoot = some true ∧ s.runAsUser = none

namespace Policy

variable {c : Config} {env : List EnvVar} {pod container : Option SecurityContext}

/-! ### Vetoes -/

theorem demandsNonRoot_some {s : SecurityContext} (h : s.IsUnmet) :
    demandsNonRoot (some s) = true := by
  rw [demandsNonRoot, Option.any_some, SecurityContext.demandsNonRoot]
  exact decide_eq_true h.1

/-- **There is no veto** where pod and container demand no user other than root, or one is named
that counts: for the pod its own, for the container either. -/
theorem veto_eq_none_iff : veto pod container = none ↔
    (demandsNonRoot pod = true → userOf pod ≠ none) ∧
      (demandsNonRoot container = true → userOf container ≠ none ∨ userOf pod ≠ none) := by
  rw [veto]
  cases demandsNonRoot pod <;> cases demandsNonRoot container <;> cases userOf pod <;>
    cases userOf container <;> simp

theorem veto_ne_none_of_pod {s : SecurityContext} (h : s.IsUnmet) :
    veto (some s) container ≠ none := by
  rw [Ne, veto_eq_none_iff]
  rintro ⟨hpod, -⟩
  exact hpod (demandsNonRoot_some h) h.2

theorem veto_ne_none_of_container {s : SecurityContext} (h : s.IsUnmet) (hpod : userOf pod = none) :
    veto pod (some s) ≠ none := by
  rw [Ne, veto_eq_none_iff]
  rintro ⟨-, hcontainer⟩
  exact (hcontainer (demandsNonRoot_some h)).elim (· h.2) (· hpod)

/-- **A veto is not lifted by anything that the owner has set.** -/
theorem veto_eq_none_of_installs (h : installs c env pod container = true) :
    veto pod container = none := by
  rw [installs, Bool.and_eq_true, Option.isNone_iff_eq_none] at h
  exact h.1

end Policy

namespace Java

variable {c : Config} {pod : Pod}

/-! ### The init container -/

/-- **Where no container is vetoed the init container has no settings of its own**: those are for
pods with a veto. -/
theorem initSecurity_eq_none {container : Option SecurityContext}
    (h : Policy.veto pod.spec.securityContext container = none) : initSecurity c pod = none := by
  have hpod := (Policy.veto_eq_none_iff.1 h).1
  rw [initSecurity]
  split
  · rfl
  · next s hs =>
    rw [hs] at hpod
    have hmet : s.demandsNonRoot = true → s.runAsUser ≠ none := hpod
    split
    · rfl
    · next huser =>
      rw [Option.not_isSome_iff_eq_none] at huser
      rw [if_neg fun hdemands ↦ hmet hdemands huser]

end Java

/-- The configuration with another user for init containers. -/
def Config.withInitContainerUser (c : Config) (user : Int) : Config :=
  { c with initContainerUser := user }

namespace Java

variable {c : Config} {pod : Pod}

theorem admitted_withInitContainerUser (user : Int) (view : List EnvVar) (taken : List String)
    (proposals : List EnvVar) :
    admitted (c.withInitContainerUser user) view taken proposals =
      admitted c view taken proposals := by
  induction proposals generalizing taken with
  | nil => rfl
  | cons e proposals ih =>
    rw [admitted, admitted, ih, ih]
    rfl

/-- **An injection does not look at the user of init containers.** -/
theorem inject_withInitContainerUser (user : Int) (spec : JavaSpec) (pod : Pod) (index : Nat)
    (view : List EnvVar) :
    inject (c.withInitContainerUser user) spec pod index view = inject c spec pod index view := by
  rw [inject, inject]
  rcases hk : pod.spec.containers[index]? with - | container
  · rfl
  · dsimp only
    rcases checkExtensible container toolOptions with f | u
    · rfl
    · have hwanted : isWanted (c.withInitContainerUser user) pod container view =
          isWanted c pod container view := rfl
      dsimp only
      rw [hwanted]
      split
      · next h =>
        have hsecurity (c : Config) (k : Container) :
            initSecurity c (setContainer pod index k) = none :=
          initSecurity_eq_none (Policy.veto_eq_none_of_installs h)
        have hinject : injectContainer (c.withInitContainerUser user) spec view container =
            injectContainer c spec view container := by
          rw [injectContainer, injectContainer, injectEnv, injectEnv,
            admitted_withInitContainerUser]
          rfl
        rw [hinject, withArtefacts, withArtefacts, initContainer, initContainer, hsecurity,
          hsecurity]
        rfl
      · rfl

theorem proposalLines_withInitContainerUser (user : Int) (view : List EnvVar) (container : String)
    (taken : List String) (proposals : List EnvVar) :
    proposalLines (c.withInitContainerUser user) view container taken proposals =
      proposalLines c view container taken proposals := by
  induction proposals generalizing taken with
  | nil => rfl
  | cons e proposals ih =>
    rw [proposalLines, proposalLines, ih, ih]
    rfl

/-- Nor does its report. -/
theorem lines_withInitContainerUser (user : Int) (spec : JavaSpec) (pod : Pod) (index : Nat)
    (view : List EnvVar) :
    lines (c.withInitContainerUser user) spec pod index view = lines c spec pod index view := by
  have hendpoints (names : List String) :
      Policy.endpointsLines (c.withInitContainerUser user) view names =
        Policy.endpointsLines c view names := by
    induction names with
    | nil => rfl
    | cons name names ih =>
      rw [Policy.endpointsLines, Policy.endpointsLines, ih]
      rfl
  rw [lines, lines]
  simp only [Policy.installLines, hendpoints, proposalLines_withInitContainerUser,
    admitted_withInitContainerUser]
  rfl

end Java

/-- Nor does a plan. -/
theorem Plan.of_withInitContainerUser (user : Int) (c : Config) (injectors : Injectors)
    (containers : List Container) (is : List Instrumentation) :
    Plan.of (c.withInitContainerUser user) injectors containers is =
      Plan.of c injectors containers is := by
  have hindexes (i : Nat) : Plan.indexesFrom (c.withInitContainerUser user) i containers =
      Plan.indexesFrom c i containers := by
    induction containers generalizing i with
    | nil => rfl
    | cons container containers ih =>
      rw [Plan.indexesFrom, Plan.indexesFrom, ih]
      rfl
  exact List.flatMap_congr fun i _ ↦ by
    rw [Plan.visits, Plan.visits, Plan.indexes, Plan.indexes, hindexes]

/-! ### Runs -/

namespace Mutator

variable {c : Config} {s : Scope}

theorem visit_withInitContainerUser (user : Int) {v : Visit} (hv : v.IsJava) (pod : Pod)
    (p : Pass) :
    visit (c.withInitContainerUser user) s v pod p = visit c s v pod p := by
  cases v with
  | unknownRuntime runtime => rfl
  | noSuchContainer target => rfl
  | container injector i index =>
    obtain rfl : injector = Java.injector := hv
    rw [visit, visit, visitContainer, visitContainer]
    simp only [Java.injector, Java.inject_withInitContainerUser, Java.lines_withInitContainerUser]

theorem run_withInitContainerUser (user : Int) {vs : List Visit} (hvs : ∀ v ∈ vs, v.IsJava)
    (pod : Pod) (p : Pass) : run (c.withInitContainerUser user) s vs pod p = run c s vs pod p := by
  induction vs generalizing pod p with
  | nil => rfl
  | cons v vs ih =>
    obtain ⟨hv, hvs⟩ := List.forall_mem_cons.1 hvs
    rw [run, run, visit_withInitContainerUser user hv]
    rcases visit c s v pod p with ⟨f | pod', p'⟩
    · rfl
    · exact ih hvs pod' p'

/-- **The user of init containers has no say in a mutation**, whether it yields a pod or not. -/
theorem mutate_withInitContainerUser (user : Int) (store : Store) (c : Config) (pod : Pod)
    (is : List Instrumentation) (ns : Option String) (deadline : Option Int) (w : World) :
    (ofStore store (c.withInitContainerUser user)).mutate pod is ns deadline w =
      (ofStore store c).mutate pod is ns deadline w := by
  have hjava : ∀ v ∈ Plan.of c .standard pod.spec.containers is, v.IsJava :=
    fun _ ↦ Plan.isJava_of_mem
  rw [mutate, mutate]
  simp only [Plan.of_withInitContainerUser, run_withInitContainerUser user hjava]
  rfl

end Mutator

/-! ### Mutations -/

namespace Inspection

variable {c : Config} {pod : Pod} {n : Inspection} {l : List Inspection}

/-- **What passes has no veto.** -/
theorem veto_eq_none_of_passes (h : n.passes c pod = true) :
    Policy.veto pod.spec.securityContext n.container.securityContext = none := by
  rw [passes, Bool.and_eq_true] at h
  exact Policy.veto_eq_none_of_installs h.2

/-- **The init container that grafts add**, if the pod lacks it: one without security settings. -/
theorem exists_initContainers_foldl_graft (hne : l ≠ []) (hpass : ∀ n ∈ l, n.passes c pod = true) :
    ∃ init, init.name = javaInitContainerName ∧ init.securityContext = none ∧
      (l.foldl (graft c) pod).spec.initContainers =
        pod.spec.initContainers ++ if Java.lacksAgent pod then [init] else [] := by
  obtain ⟨n, l, rfl⟩ := List.exists_cons_of_ne_nil hne
  have hsecurity : Java.initSecurity c pod = none :=
    Java.initSecurity_eq_none (veto_eq_none_of_passes (hpass n (List.mem_cons_self ..)))
  refine ⟨Java.initContainer c n.spec pod, rfl, hsecurity, ?_⟩
  by_cases hlacks : Java.lacksAgent pod = true
  · rw [(foldl_graft_of_lacksAgent hlacks n).1, if_pos hlacks]
  · rw [if_neg hlacks, List.append_nil]
    rw [Bool.not_eq_true] at hlacks
    exact (foldl_graft_of_present hlacks).1

end Inspection

section Mutation

variable {c : Config} {store : Store} {pod m : Pod} {is : List Instrumentation} {ns : Option String}
  {deadline : Option Int} {w w' : World}

/-- **Security settings veto the agent whatever else is configured.** A pod that demands a user
other than root and names none is returned as it is, and so is every container that demands one
where neither it nor the pod names one. The init container that a changed pod gets has no security
settings of its own, and the mutation would have gone the same way for any other user that they
could name. -/
theorem vetoed_of_mutate (h : (Mutator.ofStore store c).mutate pod is ns deadline w = (.ok m, w')) :
    ((∃ s ∈ pod.spec.securityContext, s.IsUnmet) → m = pod) ∧
    (∀ (i : Nat) (k : Container), pod.spec.containers[i]? = some k →
      (∃ s ∈ k.securityContext, s.IsUnmet) → (∀ s ∈ pod.spec.securityContext, s.runAsUser = none) →
        m.spec.containers[i]? = some k) ∧
    (m ≠ pod → ∃ init, init.name = javaInitContainerName ∧ init.securityContext = none ∧
      m.spec.initContainers =
        pod.spec.initContainers ++ if Java.lacksAgent pod then [init] else []) ∧
    ∀ user, (Mutator.ofStore store (c.withInitContainerUser user)).mutate pod is ns deadline w =
      (.ok m, w') := by
  have hm := Mutator.eq_foldl_of_mutate_eq_ok h
  have hpass : ∀ n ∈ (Mutator.ofStore store c).grafts pod is ns deadline w, n.passes c pod = true :=
    fun n hn ↦ (Mutator.mem_trace_of_mem_grafts hn).2
  refine ⟨?_, ?_, fun hne ↦ ?_, fun user ↦ ?_⟩
  · rintro ⟨s, hs, hunmet⟩
    have hnil : (Mutator.ofStore store c).grafts pod is ns deadline w = [] := by
      refine List.eq_nil_iff_forall_not_mem.2 fun n hn ↦ ?_
      have hveto := Inspection.veto_eq_none_of_passes (hpass n hn)
      rw [Option.mem_def.1 hs] at hveto
      exact Policy.veto_ne_none_of_pod hunmet hveto
    rw [hm, hnil, List.foldl_nil]
  · rintro i k hk ⟨s, hs, hunmet⟩ hpod
    rcases getElem?_of_mutate_eq_ok h hk with hsame | ⟨n, hn, -, rfl, -⟩
    · exact hsame
    · have hveto := Inspection.veto_eq_none_of_passes (hpass n hn)
      have huser : Policy.userOf pod.spec.securityContext = none := by
        rcases hsc : pod.spec.securityContext with - | t
        · rfl
        · exact hpod t hsc
      rw [Option.mem_def.1 hs] at hveto
      exact absurd hveto (Policy.veto_ne_none_of_container hunmet huser)
  · rw [hm]
    refine Inspection.exists_initContainers_foldl_graft (fun hnil ↦ hne ?_) hpass
    rw [hm, hnil, List.foldl_nil]
  · rw [Mutator.mutate_withInitContainerUser, h]

end Mutation

/-! ### A pod with vetoed containers -/

namespace Sample

/-- The agent is asked for, and the container demands a user other than root; it may name one. -/
def guarded (name : String) (user : Option Int) : Container :=
  { container name with
    env := [.literal "OTEL_AWS_APPLICATION_SIGNALS_ENABLED" "true"]
    securityContext := some ⟨some true, user, []⟩ }

/-- A pod without settings of its own; of its containers one names a user, root at that. -/
def secured : Pod :=
  ⟨.empty, { PodSpec.empty with containers := [guarded "app" none, guarded "db" (some 0)] }, []⟩

/-- The same pod with the demand made by the pod. -/
def locked : Pod :=
  { secured with spec := { secured.spec with securityContext := some ⟨some true, none, []⟩ } }

/-- Settings that are meant for all containers. -/
def everywhere : Instrumentation := ⟨"java", ⟨"agent:1", [], "", none, none⟩⟩

/-- What a mutation of a pod for all containers returns and leaves behind. -/
def everywhereOutcome (pod : Pod) : Except Mutator.Fault Pod × World :=
  (Mutator.ofStore store .standard).mutate pod [everywhere] none none (.start 0)

/-- The pod that it returns. -/
def everywhereMutated (pod : Pod) : Pod := (everywhereOutcome pod).1.toOption.getD pod

end Sample

/-- The container without a user is left alone, the other one is not, and the init container has no
settings; the locked pod is left alone altogether. -/
theorem vetoed_secured_sample :
    (Sample.everywhereMutated Sample.secured).spec.containers[0]? =
        some (Sample.guarded "app" none) ∧
      (∃ init, init.securityContext = none ∧
        (Sample.everywhereMutated Sample.secured).spec.initContainers = [init]) ∧
      Sample.everywhereMutated Sample.locked = Sample.locked := by
  have hsecured : Sample.everywhereOutcome Sample.secured =
      (.ok (Sample.everywhereMutated Sample.secured),
        (Sample.everywhereOutcome Sample.secured).2) :=
    Prod.ext (by decide +kernel) rfl
  have hlocked : Sample.everywhereOutcome Sample.locked =
      (.ok (Sample.everywhereMutated Sample.locked), (Sample.everywhereOutcome Sample.locked).2) :=
    Prod.ext (by decide +kernel) rfl
  have hchanged : Sample.everywhereMutated Sample.secured ≠ Sample.secured := by decide +kernel
  obtain ⟨-, hcontainers, hinit, -⟩ := vetoed_of_mutate hsecured
  obtain ⟨init, -, hsecurity, hadded⟩ := hinit hchanged
  refine ⟨hcontainers 0 _ rfl ⟨_, rfl, rfl, rfl⟩ nofun, ⟨init, hsecurity, hadded⟩, ?_⟩
  exact (vetoed_of_mutate hlocked).1 ⟨_, rfl, rfl, rfl⟩

end AgentGraft
