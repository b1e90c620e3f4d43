import AgentGraft.Proofs.Environment.Snapshots
import AgentGraft.Proofs.Java.Variables
import AgentGraft.Proofs.Mutation.Grafted

/-!
# Variables with one source

A variable has a value of its own or takes it from a source; a cluster refuses one that does both.
An injection writes a value into a variable that exists already in one place only, where it puts the
agent into the options of the virtual machine. It does so with the first variable of that name that
the container has by then, and refuses to do so with a variable of the container that has a source.
But the variable may also be a proposal, added just before, and of that nothing is asked.

`singleSourced_iff_of_mutate` says that this is the one way to a variable with two sources.
-/

namespace AgentGraft

/-- The variable has a value of its own and takes it from a source as well. -/
def EnvVar.isTwofold (e : EnvVar) : Bool := e.value.any (· ≠ "") && e.valueFrom.isSome

/-- No variable does. -/
def Env.SingleSourced (env : List EnvVar) : Prop := ∀ e ∈ env, e.isTwofold = false

instance (env : List EnvVar) : Decidable (Env.SingleSourced env) :=
  inferInstanceAs (Decidable (∀ e ∈ env, e.isTwofold = false))

/-- No variable of a container does, regular or initial. -/
def Pod.SingleSourced (pod : Pod) : Prop := ∀ k ∈ pod.allContainers, Env.SingleSourced k.env

instance (pod : Pod) : Decidable pod.SingleSourced :=
  inferInstanceAs (Decidable (∀ k ∈ pod.allContainers, Env.SingleSourced k.env))

/-- No proposed variable does. -/
abbrev JavaSpec.SingleSourced (spec : JavaSpec) : Prop := Env.SingleSourced spec.env

theorem EnvVar.not_isTwofold_of_valueFrom_eq_none {e : EnvVar} (h : e.valueFrom = none) :
    e.isTwofold = false := by
  rw [isTwofold, h, Option.isSome_none, Bool.and_false]

theorem Env.singleSourced_append_iff {front back : List EnvVar} :
    SingleSourced (front ++ back) ↔ SingleSourced front ∧ SingleSourced back :=
  List.forall_mem_append

theorem Env.singleSourced_singleton_iff {e : EnvVar} :
    SingleSourced [e] ↔ e.isTwofold = false :=
  List.forall_mem_singleton

namespace Java

variable {c : Config} {spec : JavaSpec} {view env : List EnvVar} {e : EnvVar}

/-! ### One container -/

/-- The proposal of the options that is added: the first that the policy admits. -/
def optionsProposal? (c : Config) (spec : JavaSpec) (view : List EnvVar) : Option EnvVar :=
  spec.env.find? fun e ↦ e.name == toolOptions && Policy.admits c view e.name e.value

/-- A value with the agent is not empty, so it must be the only one. -/
theorem isTwofold_withAgent (e : EnvVar) : (withAgent e).isTwofold = e.valueFrom.isSome := by
  have hvalue : e.value.getD "" ++ agentOption ≠ "" := by
    rw [Ne, String.append_eq_empty_iff]
    exact fun h ↦ absurd h.2 (by decide)
  simp [EnvVar.isTwofold, withAgent, hvalue]

/-- **Where the agent is put** decides: the variable must not have a source. -/
theorem singleSourced_withOptions_iff (h : Env.SingleSourced env) :
    Env.SingleSourced (withOptions view env) ↔
      ∀ e, Env.find? toolOptions env = some e → e.valueFrom = none := by
  rw [withOptions]
  split
  · constructor
    · intro hnew e hfind
      have hfound : Env.find? toolOptions (updateFirst toolOptions withAgent env) =
          some (withAgent e) := by
        rw [find?_updateFirst withAgent_name, hfind, Option.map_some]
      have htwofold := hnew _ (Env.mem_of_find?_eq_some hfound).1
      rwa [isTwofold_withAgent, Option.isSome_eq_false_iff, Option.isNone_iff_eq_none] at htwofold
    · intro hfirst e he
      rcases exists_of_mem_updateFirst he with he | ⟨e', hfind, rfl⟩
      · exact h e he
      · rw [isTwofold_withAgent, hfirst e' hfind, Option.isSome_none]
  · next hdecl =>
    -- the options are new and have a value only
    rw [Bool.not_eq_true, ← Env.find?_eq_none_iff] at hdecl
    rw [Env.singleSourced_append_iff, Env.singleSourced_singleton_iff, hdecl]
    refine iff_of_true ⟨h, EnvVar.not_isTwofold_of_valueFrom_eq_none rfl⟩ fun e hfind ↦ ?_
    cases hfind

/-- The marker has a source only. -/
theorem singleSourced_withMarker_iff :
    Env.SingleSourced (withMarker c env) ↔ Env.SingleSourced env := by
  rw [withMarker]
  split
  · rfl
  · rw [Env.singleSourced_append_iff, Env.singleSourced_singleton_iff]
    exact and_iff_left rfl

/-- **The variables of a container with the agent** have one source each if and only if the proposal
of the options, if there is one, has none. -/
theorem singleSourced_injectEnv_iff (henv : Env.SingleSourced env) (hspec : spec.SingleSourced)
    (hview : env <+: view)
    (hext : ∀ e, Env.find? toolOptions env = some e → e.valueFrom = none) :
    Env.SingleSourced (injectEnv c spec view env) ↔
      ∀ e, optionsProposal? c spec view = some e → e.valueFrom = none := by
  have hproposed : Env.SingleSourced (env ++ admitted c view [] spec.env) :=
    Env.singleSourced_append_iff.2 ⟨henv, fun e he ↦ hspec e (mem_of_mem_admitted he)⟩
  have hfound :
      Env.find? toolOptions (admitted c view [] spec.env) = optionsProposal? c spec view :=
    find?_admitted (List.not_mem_nil) spec.env
  rw [injectEnv, singleSourced_withMarker_iff, singleSourced_withOptions_iff hproposed,
    Env.find?_append, hfound]
  rcases hfind : Env.find? toolOptions env with - | e₀
  · rw [Option.none_or]
  · -- what is declared is seen, so no proposal of it is admitted
    obtain ⟨behind, rfl⟩ := hview
    have hdecl : Env.declares toolOptions (env ++ behind) = true := by
      rw [Env.declares_append, Env.declares, hfind, Option.isSome_some, Bool.true_or]
    have hnone : optionsProposal? c spec (env ++ behind) = none := by
      rw [← hfound, Env.find?_eq_none_iff]
      exact not_declares_admitted hdecl [] spec.env
    rw [Option.some_or, hnone]
    refine iff_of_true (fun e he ↦ hext e (hfind.trans he)) fun e hproposal ↦ ?_
    cases hproposal

/-- The options of an extensible container have no source. -/
theorem valueFrom_of_isExtensible {k : Container} (h : isExtensible k = true)
    (hfind : Env.find? toolOptions k.env = some e) : e.valueFrom = none := by
  rw [isExtensible_iff, checkExtensible, hfind] at h
  by_contra hsome
  rw [← Ne, Option.ne_none_iff_isSome] at hsome
  simp [hsome] at h

end Java

/-! ### Mutations -/

section Mutation

variable {c : Config} {pod m : Pod} {is : List Instrumentation} {store : Store}
  {ns : Option String} {deadline : Option Int} {w w' : World}

/-- **Two sources come from a proposal of the options that has one, and from nothing else.** Where
no variable of the pod or of the settings has two sources, none of the mutated pod has, if and only
if no container got the agent into proposed options with a source. -/
theorem singleSourced_iff_of_mutate (hpod : pod.SingleSourced)
    (hspec : ∀ i ∈ is, i.spec.SingleSourced)
    (h : (Mutator.ofStore store c).mutate pod is ns deadline w = (.ok m, w')) :
    m.SingleSourced ↔ ∀ n ∈ (Mutator.ofStore store c).grafts pod is ns deadline w,
      ∀ e, Java.optionsProposal? c n.spec n.view = some e → e.valueFrom = none := by
  -- container by container: what was inspected starts with the variables of the container
  have hcontainer {n : Inspection}
      (hn : n ∈ (Mutator.ofStore store c).grafts pod is ns deadline w) :
      Env.SingleSourced (n.grafted c).env ↔
        ∀ e, Java.optionsProposal? c n.spec n.view = some e → e.valueFrom = none := by
    obtain ⟨htrace, hpass⟩ := Mutator.mem_trace_of_mem_grafts hn
    obtain ⟨i, hi, hi'⟩ := Mutator.exists_of_mem_trace htrace
    obtain ⟨s, p, hview⟩ := Mutator.exists_resolve_of_mem_trace htrace
    have hmem := List.mem_of_getElem? (Mutator.getElem?_of_mem_grafts hn)
    rw [Inspection.passes, Bool.and_eq_true] at hpass
    exact Java.singleSourced_injectEnv_iff (hpod _ (List.mem_append_left _ hmem))
      (hi' ▸ hspec i hi) (Environment.prefix_of_resolve_eq_ok hview)
      fun e ↦ Java.valueFrom_of_isExtensible hpass.1
  constructor
  · intro hsingle n hn
    exact (hcontainer hn).1 (hsingle _ (List.mem_append_left _ (grafted_mem_of_mutate h hn)))
  · intro hproposals k hk
    rcases List.mem_append.1 hk with hk | hk
    · rcases mem_containers_of_mutate h hk with hold | ⟨n, hn, rfl⟩
      · exact hpod k (List.mem_append_left _ hold)
      · exact (hcontainer hn).2 (hproposals n hn)
    · rw [Mutator.eq_foldl_of_mutate_eq_ok h] at hk
      rcases Inspection.mem_initContainers_foldl_graft hk with hold | ⟨spec, rfl⟩
      · exact hpod k (List.mem_append_right _ hold)
      -- the init container of the agent has no variables
      · exact fun e he ↦ absurd he List.not_mem_nil

end Mutation

/-! ### Options that come from a source -/

namespace Sample

/-- Settings that propose the options from a source. -/
def sourcedOptions : Instrumentation :=
  ⟨"java", ⟨"agent:1",
    [⟨Java.toolOptions, none, some [("configMapKeyRef", .obj [("key", .str "opts")])], []⟩],
    "", none, none⟩⟩

/-- A pod with one container, which has these variables. -/
def declaring (env : List EnvVar) : Pod :=
  ⟨.empty, { PodSpec.empty with containers := [{ container "app" with env := env }] }, []⟩

/-- What a mutation for these settings returns and leaves behind. -/
def sourcedOutcome (env : List EnvVar) : Except Mutator.Fault Pod × World :=
  (Mutator.ofStore store .standard).mutate (declaring env) [sourcedOptions] none none (.start 0)

/-- The pod that it returns. -/
def sourced (env : List EnvVar) : Pod := (sourcedOutcome env).1.toOption.getD (declaring env)

end Sample

/-- Where the container declares options of its own, the proposal is not added. -/
theorem singleSourced_declared_sample :
    (Sample.sourced [.literal Java.toolOptions "-Xmx1g"]).SingleSourced := by
  have h : Sample.sourcedOutcome [.literal Java.toolOptions "-Xmx1g"] =
      (.ok (Sample.sourced [.literal Java.toolOptions "-Xmx1g"]),
        (Sample.sourcedOutcome [.literal Java.toolOptions "-Xmx1g"]).2) :=
    Prod.ext (by decide +kernel) rfl
  refine (singleSourced_iff_of_mutate (by decide) (by decide) h).2 fun n hn e hfind ↦ ?_
  have hnone : ∀ n ∈ (Mutator.ofStore Sample.store .standard).grafts
      (Sample.declaring [.literal Java.toolOptions "-Xmx1g"]) [Sample.sourcedOptions] none none
        (.start 0), Java.optionsProposal? .standard n.spec n.view = none := by decide +kernel
  rw [hnone n hn] at hfind
  cases hfind

/-- Where it declares none, the proposal gets a value beside its source. -/
theorem not_singleSourced_proposed_sample : (Sample.declaring []).SingleSourced ∧
    Sample.sourcedOptions.spec.SingleSourced ∧
    Sample.sourcedOutcome [] = (.ok (Sample.sourced []), (Sample.sourcedOutcome []).2) ∧
    ¬(Sample.sourced []).SingleSourced :=
  ⟨by decide, by decide, Prod.ext (by decide +kernel) rfl, by decide +kernel⟩

end AgentGraft
