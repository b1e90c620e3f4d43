import Mathlib.Data.List.Nodup
import AgentGraft.Proofs.Mutation.Grafted

/-!
# Names and places that occur once

A cluster runs a pod only if no two volumes share a name, no two containers do, regular or initial,
and no container mounts two volumes at one place: the pod is `Distinct`. A mutation adds one volume,
one init container and one mount to each container that gets the agent, and before that it looks for
the init container alone. So what it makes of a distinct pod is distinct exactly where the pod
leaves room for the rest (`distinct_iff_of_mutate`): no volume has the name of the new one, no
regular container that of the init container, and nothing is mounted yet where the agent goes.
-/

namespace AgentGraft

variable {c : Config} {pod m : Pod} {sites : Finset Nat}

namespace Pod

/-- **What a cluster asks of names and places**: each occurs once. -/
structure Distinct (pod : Pod) : Prop where
  volumes : (pod.spec.volumes.map (·.name)).Nodup
  containers : (pod.allContainers.map (·.name)).Nodup
  mounts : ∀ k ∈ pod.allContainers, (k.volumeMounts.map (·.mountPath)).Nodup

theorem distinct_iff : pod.Distinct ↔ (pod.spec.volumes.map (·.name)).Nodup ∧
    (pod.allContainers.map (·.name)).Nodup ∧
    ∀ k ∈ pod.allContainers, (k.volumeMounts.map (·.mountPath)).Nodup :=
  ⟨fun h ↦ ⟨h.volumes, h.containers, h.mounts⟩, fun h ↦ ⟨h.1, h.2.1, h.2.2⟩⟩

instance (pod : Pod) : Decidable pod.Distinct := decidable_of_iff' _ distinct_iff

/-- The pod leaves room for what a mutation adds on the way to `m`. -/
structure LeavesRoom (pod m : Pod) : Prop where
  /-- The name of the new volume is free. -/
  volume : ∀ v ∈ pod.spec.volumes, v.name ≠ Java.volumeName
  /-- So is that of the new init container among the regular ones. -/
  container : ∀ k ∈ pod.spec.containers, k.name ≠ javaInitContainerName
  /-- A container that changes mounts nothing where the agent goes. -/
  mount : ∀ (i : Nat) (k : Container), pod.spec.containers[i]? = some k →
    m.spec.containers[i]? ≠ some k → ∀ x ∈ k.volumeMounts, x.mountPath ≠ Java.mountPath

end Pod

/-! ### Grafted pods -/

namespace Grafted

/-- The containers at the sites are those that changed. -/
theorem mem_sites_iff (h : Grafted sites pod m) (i : Nat) :
    i ∈ sites ↔ m.spec.containers[i]? ≠ pod.spec.containers[i]? := by
  refine ⟨fun hi heq ↦ ?_, fun hne ↦ by_contra fun hi ↦ hne (h.outside i hi)⟩
  obtain ⟨old, new, hold, hnew, hchange⟩ := h.inside i hi
  rw [hold, hnew, Option.some.injEq] at heq
  -- the container would have as many mounts as before
  have hlen : new.volumeMounts.length = old.volumeMounts.length + 1 := by
    rw [hchange, List.length_append, List.length_singleton]
  rw [heq] at hlen
  omega

/-- The containers keep their names. -/
theorem map_name_containers (h : Grafted sites pod m) :
    m.spec.containers.map (·.name) = pod.spec.containers.map (·.name) := by
  refine List.ext_getElem? fun i ↦ ?_
  rw [List.getElem?_map, List.getElem?_map]
  by_cases hi : i ∈ sites
  · obtain ⟨old, new, hold, hnew, hchange⟩ := h.inside i hi
    have hname : new.name = old.name := by rw [hchange]
    rw [hold, hnew, Option.map_some, Option.map_some, hname]
  · rw [h.outside i hi]

theorem nodup_volumes_iff (h : Grafted sites pod m) :
    (m.spec.volumes.map (·.name)).Nodup ↔
      (∀ v ∈ pod.spec.volumes, v.name ≠ Java.volumeName) ∧
        (pod.spec.volumes.map (·.name)).Nodup := by
  obtain ⟨volume, hvolumes, hname, -⟩ := h.volumes
  rw [hvolumes, List.map_append, List.map_singleton, hname, ← List.concat_eq_append,
    List.nodup_concat]
  simp [List.mem_map]

theorem nodup_containers_iff (h : Grafted sites pod m) :
    (m.allContainers.map (·.name)).Nodup ↔
      (∀ k ∈ pod.allContainers, k.name ≠ javaInitContainerName) ∧
        (pod.allContainers.map (·.name)).Nodup := by
  obtain ⟨init, hinit, hname, -⟩ := h.initContainers
  have hnames : m.allContainers.map (·.name) =
      (pod.allContainers.map (·.name)).concat javaInitContainerName := by
    rw [Pod.allContainers, Pod.allContainers, List.map_append, h.map_name_containers, hinit,
      List.map_append, List.map_singleton, hname, List.concat_eq_append, List.map_append,
      List.append_assoc]
  rw [hnames, List.nodup_concat]
  simp [List.mem_map]

/-- A container that changed mounts one volume more, at the place of the agent. -/
theorem nodup_mounts_iff {old new : Container}
    (hmounts : new.volumeMounts = old.volumeMounts ++ [⟨Java.volumeName, Java.mountPath, []⟩]) :
    (new.volumeMounts.map (·.mountPath)).Nodup ↔
      (∀ x ∈ old.volumeMounts, x.mountPath ≠ Java.mountPath) ∧
        (old.volumeMounts.map (·.mountPath)).Nodup := by
  rw [hmounts, List.map_append, List.map_singleton, ← List.concat_eq_append, List.nodup_concat]
  simp [List.mem_map]

/-- A container is at a site exactly where it changed. -/
theorem mem_sites_iff_of_getElem? (h : Grafted sites pod m) {i : Nat} {k : Container}
    (hk : pod.spec.containers[i]? = some k) : i ∈ sites ↔ m.spec.containers[i]? ≠ some k := by
  rw [h.mem_sites_iff, hk]

/-- Where there is room, every container of the grafted pod has distinct mounts. -/
theorem nodup_mounts (h : Grafted sites pod m) (hpod : pod.Distinct) (hroom : pod.LeavesRoom m) :
    ∀ k ∈ m.allContainers, (k.volumeMounts.map (·.mountPath)).Nodup := by
  intro k hk
  rcases List.mem_append.1 hk with hk | hk
  · obtain ⟨i, hi⟩ := List.mem_iff_getElem?.1 hk
    by_cases hsite : i ∈ sites
    · obtain ⟨old, new, hold, hnew, hchange⟩ := h.inside i hsite
      obtain rfl : k = new := Option.some.inj (hi.symm.trans hnew)
      have hmem : old ∈ pod.allContainers :=
        List.mem_append_left _ (List.mem_of_getElem? hold)
      have hfree := hroom.mount i old hold ((h.mem_sites_iff_of_getElem? hold).1 hsite)
      exact (nodup_mounts_iff (by rw [hchange])).2 ⟨hfree, hpod.mounts old hmem⟩
    · have hold : k ∈ pod.spec.containers :=
        List.mem_of_getElem? ((h.outside i hsite).symm.trans hi)
      exact hpod.mounts k (List.mem_append_left _ hold)
  · obtain ⟨init, hinit, -, hmounts⟩ := h.initContainers
    rw [hinit] at hk
    rcases List.mem_append.1 hk with hk | hk
    · exact hpod.mounts k (List.mem_append_right _ hk)
    -- the new init container mounts one volume
    · rw [List.mem_singleton.1 hk, hmounts]
      exact List.nodup_singleton _

/-- **A grafted pod is distinct** where there was room for what was added. -/
theorem distinct_iff (h : Grafted sites pod m) (hpod : pod.Distinct)
    (hlacks : Java.lacksAgent pod = true) : m.Distinct ↔ pod.LeavesRoom m := by
  have hinits : ∀ k ∈ pod.spec.initContainers, k.name ≠ javaInitContainerName := by
    simpa [Java.lacksAgent, Footprint.lacksInitContainer] using hlacks
  constructor
  · intro hm
    refine ⟨(h.nodup_volumes_iff.1 hm.volumes).1, fun k hk ↦ ?_, fun i k hk hne ↦ ?_⟩
    · exact (h.nodup_containers_iff.1 hm.containers).1 k (List.mem_append_left _ hk)
    · obtain ⟨old, new, hold, hnew, hchange⟩ :=
        h.inside i ((h.mem_sites_iff_of_getElem? hk).2 hne)
      obtain rfl : k = old := Option.some.inj (hk.symm.trans hold)
      have hmem : new ∈ m.allContainers :=
        List.mem_append_left _ (List.mem_of_getElem? hnew)
      exact ((nodup_mounts_iff (by rw [hchange])).1 (hm.mounts new hmem)).1
  · intro hroom
    refine ⟨h.nodup_volumes_iff.2 ⟨hroom.volume, hpod.volumes⟩,
      h.nodup_containers_iff.2 ⟨fun k hk ↦ ?_, hpod.containers⟩, h.nodup_mounts hpod hroom⟩
    exact (List.mem_append.1 hk).elim (hroom.container k) (hinits k)

end Grafted

/-! ### Mutations -/

section Mutation

variable {store : Store} {is : List Instrumentation} {ns : Option String} {deadline : Option Int}
  {w w' : World}

/-- **Distinct names and places are kept exactly where there is room.** What a mutation makes of a
distinct pod is distinct if and only if nothing was changed, or the names of the new volume and of
the new init container were free and every container that got the agent had nothing mounted where
the agent goes. -/
theorem distinct_iff_of_mutate (hpod : pod.Distinct)
    (h : (Mutator.ofStore store .standard).mutate pod is ns deadline w = (.ok m, w')) :
    m.Distinct ↔ m = pod ∨ pod.LeavesRoom m := by
  by_cases hnil : (Mutator.ofStore store .standard).grafts pod is ns deadline w = []
  · have hm : m = pod := by rw [Mutator.eq_foldl_of_mutate_eq_ok h, hnil, List.foldl_nil]
    exact ⟨fun _ ↦ .inl hm, fun _ ↦ hm ▸ hpod⟩
  · obtain ⟨n, hn⟩ := List.exists_mem_of_ne_nil _ hnil
    have hfresh := (Mutator.accepted_of_mem_trace (Mutator.mem_trace_of_mem_grafts hn).1).2
    have hgrafted := grafted_of_grafts_ne_nil (List.mem_cons_self ..) h hnil
    have hlacks := lacksAgent_of_not_isInstrumented (List.mem_cons_self ..) hfresh
    have hne : m ≠ pod := by
      rintro rfl
      obtain ⟨init, hinit, -⟩ := hgrafted.initContainers
      simpa using congrArg List.length hinit
    rw [or_iff_right hne]
    exact hgrafted.distinct_iff hpod hlacks

end Mutation

/-! ### A pod with room and one without -/

namespace Sample

/-- A pod with a volume of this name, mounted in its first container. -/
def mounting (name : String) : Pod :=
  ⟨.empty, { PodSpec.empty with
    containers := [{ container "app" with volumeMounts := [⟨name, "/data", []⟩] },
      container "worker"]
    volumes := [⟨name, some [], []⟩] }, []⟩

/-- What a mutation of such a pod returns and leaves behind. -/
def mountingOutcome (name : String) : Except Mutator.Fault Pod × World :=
  (Mutator.ofStore store .standard).mutate (mounting name) [instrumentation] none none (.start 0)

/-- The pod that it returns. -/
def mounted (name : String) : Pod := (mountingOutcome name).1.toOption.getD (mounting name)

end Sample

/-- Beside a volume of another name there is room for all that is added. -/
theorem distinct_mounted_sample :
    (Sample.mounted "data").Distinct ∧ Sample.mounted "data" ≠ Sample.mounting "data" := by
  have h : Sample.mountingOutcome "data" =
      (.ok (Sample.mounted "data"), (Sample.mountingOutcome "data").2) :=
    Prod.ext (by decide +kernel) rfl
  have hroom : (Sample.mounting "data").LeavesRoom (Sample.mounted "data") := by
    refine ⟨by decide, by decide, fun i k hk _ ↦ ?_⟩
    have hall : ∀ k ∈ (Sample.mounting "data").spec.containers, ∀ x ∈ k.volumeMounts,
        x.mountPath ≠ Java.mountPath := by decide
    exact hall k (List.mem_of_getElem? hk)
  exact ⟨(distinct_iff_of_mutate (by decide) h).2 (.inr hroom), by decide +kernel⟩

/-- A volume that has the name of the new one is no obstacle to adding it. -/
theorem not_distinct_mounted_sample : (Sample.mounting Java.volumeName).Distinct ∧
    Sample.mountingOutcome Java.volumeName =
      (.ok (Sample.mounted Java.volumeName), (Sample.mountingOutcome Java.volumeName).2) ∧
    ¬(Sample.mounted Java.volumeName).Distinct :=
  ⟨by decide, Prod.ext (by decide +kernel) rfl, by decide +kernel⟩

end AgentGraft
