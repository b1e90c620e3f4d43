import Mathlib.Data.Finset.Empty
import Mathlib.Data.Finset.Dedup
import AgentGraft.Proofs.Mutation.Trace

/-!
# All or nothing

What a mutated pod looks like. Grafting the agent on a list of containers, no two of them the same,
is described list by list: each of the containers is the one that was found with the agent on it,
every other one is as it was, and the volume and the init container are added by the first graft and
by no later one.

`Grafted` puts the parts together, and `eq_or_grafted_of_mutate_eq_ok` says that a mutation returns
its pod either as it came in or grafted on a non-empty set of containers.
-/

namespace AgentGraft

open Java (lacksAgent)

variable {c : Config} {pod : Pod} {l : List Inspection}

namespace Inspection

/-! ### The containers -/

theorem length_foldl_graft (l : List Inspection) (pod : Pod) :
    (l.foldl (graft c) pod).spec.containers.length = pod.spec.containers.length := by
  induction l generalizing pod with
  | nil => rfl
  | cons n l ih => rw [List.foldl_cons, ih]; simp [graft]

/-- **Each container that is grafted on** is the one that was found, with the agent. -/
theorem getElem?_foldl_graft_of_mem (hnd : (l.map (·.index)).Nodup)
    (hfound : ∀ n ∈ l, pod.spec.containers[n.index]? = some n.container) {n : Inspection}
    (hn : n ∈ l) : (l.foldl (graft c) pod).spec.containers[n.index]? = some (n.grafted c) := by
  induction l generalizing pod with
  | nil => simp at hn
  | cons k l ih =>
    rw [List.map_cons, List.nodup_cons] at hnd
    rw [List.foldl_cons]
    rcases List.mem_cons.1 hn with rfl | hn
    · have hlt := (List.getElem?_eq_some_iff.1 (hfound n (List.mem_cons_self ..))).1
      rw [getElem?_foldl_graft_of_not_mem hnd.1, graft, Java.withArtefacts_containers,
        Java.setContainer_containers, List.getElem?_set_self hlt]
    · refine ih hnd.2 (fun n hn ↦ ?_) hn
      -- the first graft is on another container than the later ones
      have hne : k.index ≠ n.index := fun h ↦ hnd.1 (h ▸ List.mem_map_of_mem hn)
      rw [graft, Java.withArtefacts_containers, Java.setContainer_containers,
        List.getElem?_set_ne hne]
      exact hfound n (List.mem_cons_of_mem _ hn)

/-! ### The volume and the init container -/

/-- A graft leaves the agent in the pod. -/
theorem lacksAgent_graft (n : Inspection) (pod : Pod) : lacksAgent (n.graft c pod) = false :=
  Java.lacksAgent_withArtefacts

/-- Where the agent is in the pod, grafting adds no volume and no init container. -/
theorem foldl_graft_of_present (h : lacksAgent pod = false) :
    (l.foldl (graft c) pod).spec.initContainers = pod.spec.initContainers ∧
      (l.foldl (graft c) pod).spec.volumes = pod.spec.volumes := by
  induction l generalizing pod with
  | nil => exact ⟨rfl, rfl⟩
  | cons n l ih =>
    have hset : lacksAgent (Java.setContainer pod n.index (n.grafted c)) = false :=
      (Java.lacksAgent_congr rfl).trans h
    rw [List.foldl_cons, graft, Java.withArtefacts_of_present hset]
    exact ih hset

/-- **The first graft adds both**, from its own settings, and no later one adds them again. -/
theorem foldl_graft_of_lacksAgent (h : lacksAgent pod = true) (n : Inspection) :
    ((n :: l).foldl (graft c) pod).spec.initContainers =
        pod.spec.initContainers ++ [Java.initContainer c n.spec pod] ∧
      ((n :: l).foldl (graft c) pod).spec.volumes =
        pod.spec.volumes ++ [Java.volume c n.spec] := by
  have hset : lacksAgent (Java.setContainer pod n.index (n.grafted c)) = true :=
    (Java.lacksAgent_congr rfl).trans h
  obtain ⟨hinit, hvol⟩ := foldl_graft_of_present (l := l) (lacksAgent_graft (c := c) n pod)
  rw [List.foldl_cons, hinit, hvol, graft, Java.withArtefacts_initContainers hset,
    Java.withArtefacts_volumes hset]
  exact ⟨congrArg (pod.spec.initContainers ++ [·]) (Java.initContainer_congr rfl), rfl⟩

/-- An init container is one of the pod, or that of the agent. -/
theorem mem_initContainers_foldl_graft {k : Container}
    (h : k ∈ (l.foldl (graft c) pod).spec.initContainers) :
    k ∈ pod.spec.initContainers ∨ ∃ spec, k = Java.initContainer c spec pod := by
  rcases l with - | ⟨n, l⟩
  · exact .inl h
  · rcases hlacks : lacksAgent pod with - | -
    · rw [(foldl_graft_of_present hlacks).1] at h
      exact .inl h
    · rw [(foldl_graft_of_lacksAgent hlacks n).1] at h
      exact (List.mem_append.1 h).imp_right fun h ↦ ⟨n.spec, List.mem_singleton.1 h⟩

end Inspection

/-! ### Grafted pods -/

/-- The pod `m` is `pod` with the agent on the containers at `sites`. -/
structure Grafted (sites : Finset Nat) (pod m : Pod) : Prop where
  /-- Only three lists of the specification differ. -/
  withoutLists : m.withoutLists = pod.withoutLists
  length : m.spec.containers.length = pod.spec.containers.length
  /-- All other containers are the same. -/
  outside : ∀ i ∉ sites, m.spec.containers[i]? = pod.spec.containers[i]?
  /-- A container with the agent differs in its variables, and mounts the volume once more. -/
  inside : ∀ i ∈ sites, ∃ old new, pod.spec.containers[i]? = some old ∧
    m.spec.containers[i]? = some new ∧
    new = { old with
      env := new.env
      volumeMounts := old.volumeMounts ++ [⟨Java.volumeName, Java.mountPath, []⟩] }
  /-- One init container is added, which mounts the volume at the same place. -/
  initContainers : ∃ init, m.spec.initContainers = pod.spec.initContainers ++ [init] ∧
    init.name = javaInitContainerName ∧
    init.volumeMounts = [⟨Java.volumeName, Java.mountPath, []⟩]
  /-- One volume is added, an empty directory. -/
  volumes : ∃ volume, m.spec.volumes = pod.spec.volumes ++ [volume] ∧
    volume.name = Java.volumeName ∧ volume.emptyDir.isSome = true

/-- Grafting on found containers of a pod that lacks the agent yields a grafted pod. -/
theorem grafted_foldl_graft (hne : l ≠ []) (hlacks : lacksAgent pod = true)
    (hnd : (l.map (·.index)).Nodup)
    (hfound : ∀ n ∈ l, pod.spec.containers[n.index]? = some n.container) :
    Grafted (l.map (·.index)).toFinset pod (l.foldl (Inspection.graft c) pod) where
  withoutLists := Inspection.foldl_graft_withoutLists c l pod
  length := Inspection.length_foldl_graft l pod
  outside i hi := Inspection.getElem?_foldl_graft_of_not_mem (by simpa using hi) pod
  inside i hi := by
    obtain ⟨n, hn, rfl⟩ := List.mem_map.1 (List.mem_toFinset.1 hi)
    exact ⟨n.container, n.grafted c, hfound n hn,
      Inspection.getElem?_foldl_graft_of_mem hnd hfound hn, rfl⟩
  initContainers := by
    obtain ⟨n, l, rfl⟩ := List.exists_cons_of_ne_nil hne
    exact ⟨_, (Inspection.foldl_graft_of_lacksAgent hlacks n).1, rfl, rfl⟩
  volumes := by
    obtain ⟨n, l, rfl⟩ := List.exists_cons_of_ne_nil hne
    exact ⟨_, (Inspection.foldl_graft_of_lacksAgent hlacks n).2, rfl, rfl⟩

section Mutation

variable {store : Store} {m : Pod} {is : List Instrumentation} {ns : Option String}
  {deadline : Option Int} {w w' : World}

/-- A pod that is not instrumented lacks the agent, if its init container counts. -/
theorem lacksAgent_of_not_isInstrumented (hc : javaInitContainerName ∈ c.runtimeInitContainers)
    (h : Footprint.isInstrumented c pod = false) : lacksAgent pod = true := by
  rw [Footprint.isInstrumented, Bool.or_eq_false_iff, List.any_eq_false] at h
  rw [lacksAgent, Footprint.lacksInitContainer, List.all_eq_true]
  intro init hinit
  rw [bne_iff_ne]
  rintro hname
  exact h.1 init hinit (by simpa [hname] using hc)

/-- A mutation with something to graft yields a grafted pod. -/
theorem grafted_of_grafts_ne_nil (hc : javaInitContainerName ∈ c.runtimeInitContainers)
    (h : (Mutator.ofStore store c).mutate pod is ns deadline w = (.ok m, w'))
    (hne : (Mutator.ofStore store c).grafts pod is ns deadline w ≠ []) :
    Grafted (((Mutator.ofStore store c).grafts pod is ns deadline w).map (·.index)).toFinset
      pod m := by
  obtain ⟨n, hn⟩ := List.exists_mem_of_ne_nil _ hne
  have hfresh := (Mutator.accepted_of_mem_trace (Mutator.mem_trace_of_mem_grafts hn).1).2
  rw [Mutator.eq_foldl_of_mutate_eq_ok h]
  exact grafted_foldl_graft hne (lacksAgent_of_not_isInstrumented hc hfresh)
    Mutator.nodup_map_index_grafts fun k ↦ Mutator.getElem?_of_mem_grafts

/-- **What becomes of a container**: it stays as it is, or it is inspected as it is and gets the
agent. -/
theorem getElem?_of_mutate_eq_ok
    (h : (Mutator.ofStore store c).mutate pod is ns deadline w = (.ok m, w')) {i : Nat}
    {k : Container} (hk : pod.spec.containers[i]? = some k) :
    m.spec.containers[i]? = some k ∨
      ∃ n ∈ (Mutator.ofStore store c).grafts pod is ns deadline w, n.index = i ∧ n.container = k ∧
        m.spec.containers[i]? = some (n.grafted c) := by
  rw [Mutator.eq_foldl_of_mutate_eq_ok h]
  by_cases hi : i ∈ ((Mutator.ofStore store c).grafts pod is ns deadline w).map (·.index)
  · obtain ⟨n, hn, rfl⟩ := List.mem_map.1 hi
    have hfound := Mutator.getElem?_of_mem_grafts hn
    exact .inr ⟨n, hn, rfl, Option.some.inj (hfound.symm.trans hk),
      Inspection.getElem?_foldl_graft_of_mem Mutator.nodup_map_index_grafts
        (fun _ ↦ Mutator.getElem?_of_mem_grafts) hn⟩
  · exact .inl ((Inspection.getElem?_foldl_graft_of_not_mem hi pod).trans hk)

/-- A container of the mutated pod is one of the pod, or one that was inspected, with the agent. -/
theorem mem_containers_of_mutate
    (h : (Mutator.ofStore store c).mutate pod is ns deadline w = (.ok m, w')) {k : Container}
    (hk : k ∈ m.spec.containers) : k ∈ pod.spec.containers ∨
      ∃ n ∈ (Mutator.ofStore store c).grafts pod is ns deadline w, k = n.grafted c := by
  have hlen : m.spec.containers.length = pod.spec.containers.length := by
    rw [Mutator.eq_foldl_of_mutate_eq_ok h, Inspection.length_foldl_graft]
  obtain ⟨i, hi⟩ := List.mem_iff_getElem?.1 hk
  have hlt : i < pod.spec.containers.length := hlen ▸ (List.getElem?_eq_some_iff.1 hi).1
  rcases getElem?_of_mutate_eq_ok h (List.getElem?_eq_getElem hlt) with
    hsame | ⟨n, hn, -, -, hnew⟩
  · rw [Option.some.inj (hi.symm.trans hsame)]
    exact .inl (List.getElem_mem hlt)
  · exact .inr ⟨n, hn, Option.some.inj (hi.symm.trans hnew)⟩

/-- Every container that gets the agent is in the mutated pod with it. -/
theorem grafted_mem_of_mutate
    (h : (Mutator.ofStore store c).mutate pod is ns deadline w = (.ok m, w')) {n : Inspection}
    (hn : n ∈ (Mutator.ofStore store c).grafts pod is ns deadline w) :
    n.grafted c ∈ m.spec.containers := by
  rw [Mutator.eq_foldl_of_mutate_eq_ok h]
  exact List.mem_of_getElem? (Inspection.getElem?_foldl_graft_of_mem
    Mutator.nodup_map_index_grafts (fun _ ↦ Mutator.getElem?_of_mem_grafts) hn)

/-- **All or nothing.** A mutation returns its pod either as it came in, or grafted on a non-empty
set of containers: those that were inspected and passed both gates. -/
theorem eq_or_grafted_of_mutate_eq_ok
    (h : (Mutator.ofStore store .standard).mutate pod is ns deadline w = (.ok m, w')) :
    m = pod ∨ ∃ sites : Finset Nat, sites.Nonempty ∧ Grafted sites pod m ∧
      ∀ i, i ∈ sites ↔ ∃ n ∈ (Mutator.ofStore store .standard).trace pod is ns deadline w,
        n.index = i ∧ n.passes .standard pod = true := by
  set l := (Mutator.ofStore store .standard).grafts pod is ns deadline w with hl
  by_cases hnil : l = []
  · exact .inl (by rw [Mutator.eq_foldl_of_mutate_eq_ok h, ← hl, hnil, List.foldl_nil])
  · have hgrafted := grafted_of_grafts_ne_nil (List.mem_cons_self ..) h hnil
    obtain ⟨n, hn⟩ := List.exists_mem_of_ne_nil l hnil
    refine .inr ⟨(l.map (·.index)).toFinset, ⟨n.index, ?_⟩, hgrafted, fun i ↦ ?_⟩
    · exact List.mem_toFinset.2 (List.mem_map_of_mem hn)
    · rw [List.mem_toFinset, List.mem_map]
      constructor
      · rintro ⟨k, hk, rfl⟩
        obtain ⟨hk, hpass⟩ := Mutator.mem_trace_of_mem_grafts hk
        exact ⟨k, hk, rfl, hpass⟩
      · rintro ⟨k, hk, rfl, hpass⟩
        exact ⟨k, List.mem_filter.2 ⟨hk, hpass⟩, rfl⟩

end Mutation

/-! ### A pod with a container of each kind -/

namespace Sample

/-- A container that says nothing but its name. -/
def container (name : String) : Container := ⟨name, none, none, [], [], [], none, none, []⟩

/-- A pod with a container that can get the agent, one that cannot be extended, and the sidecar. -/
def incoming : Pod :=
  ⟨.empty, { PodSpec.empty with containers :=
    [container "app",
     { container "worker" with env := [⟨Java.toolOptions, none, some [], []⟩] },
     { container "otc-container" with env := [Java.marker .standard] }] }, []⟩

/-- Settings that are meant for two of the containers and for one that is not there. -/
def instrumentation : Instrumentation :=
  ⟨"java", ⟨"agent:1", [.literal "OTEL_METRICS_EXPORTER" "none"], "worker, app ,db", none, none⟩⟩

/-- A store that breaks down at every read. -/
def store : Store := ⟨true, fun _ _ ↦ ⟨.breakdown (.other ⟨.ordinary, "gone"⟩), 1⟩⟩

/-- What a mutation of the pod returns and leaves behind. -/
def outcome (c : Config) : Except Mutator.Fault Pod × World :=
  (Mutator.ofStore store c).mutate incoming [instrumentation] none none (.start 0)

/-- The pod that it returns. -/
def mutated (c : Config) : Pod := (outcome c).1.toOption.getD incoming

end Sample

/-- The container that can get the agent gets it, so the pod is grafted. -/
theorem exists_grafted_sample : ∃ sites : Finset Nat, sites.Nonempty ∧
    Grafted sites Sample.incoming (Sample.mutated .standard) := by
  have h : Sample.outcome .standard =
      (.ok (Sample.mutated .standard), (Sample.outcome .standard).2) :=
    Prod.ext (by decide +kernel) rfl
  have hne : Sample.mutated .standard ≠ Sample.incoming := by decide +kernel
  obtain ⟨sites, hsites, hgrafted, -⟩ := (eq_or_grafted_of_mutate_eq_ok h).resolve_left hne
  exact ⟨sites, hsites, hgrafted⟩

end AgentGraft
