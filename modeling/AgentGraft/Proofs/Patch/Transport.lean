import AgentGraft.Admission
import AgentGraft.Proofs.Java.Soundness
import AgentGraft.Proofs.Mutation.Grafted
import AgentGraft.Proofs.Patch.Application

/-!
# Patches transport mutations

The patch between a pod and what a mutation made of it, applied to the document that the pod was
read from, yields a document that is read as the mutated pod. Three things have to agree for this:

* an injection changes nothing but the three lists that patches set (`foldl_graft_withoutLists`);
* a patch leaves a list out only where nothing changed: lists of a mutated pod that are alike those
  of the pod are equal to them (`take_foldl_graft_of_alike`), as every graft adds to a list;
* what is written is read back (`Container.Sound.readsBack`), which takes documents without other
  spellings of fields.
-/

namespace AgentGraft

open Java (lacksAgent)

variable {c : Config} {pod m : Pod} {l : List Inspection}

/-! ### Grafts are written -/

namespace Inspection

/-- Grafting keeps a pod sound. -/
theorem sound_foldl_graft (hl : ∀ n ∈ l, n.spec.Sound ∧ n.container.Sound) (h : pod.spec.Sound) :
    (l.foldl (graft c) pod).spec.Sound := by
  induction l generalizing pod with
  | nil => exact h
  | cons n l ih =>
    obtain ⟨hspec, hcontainer⟩ := hl n (List.mem_cons_self ..)
    refine ih (fun k hk ↦ hl k (List.mem_cons_of_mem _ hk)) (Java.sound_withArtefacts ?_)
    exact Java.sound_setContainer h (Java.sound_injectContainer hspec hcontainer) n.index

end Inspection

/-! ### Grafts are seen -/

/-- Containers that are written alike have as many mounts. -/
theorem Container.length_volumeMounts_of_alike {a b : Container}
    (h : a.dump.alike b.dump = true) : a.volumeMounts.length = b.volumeMounts.length := by
  have hfind : ∀ x : Container, (x.row.members ++ x.extra).find? volumeMountsField.name =
      some (.arr (x.volumeMounts.map VolumeMount.dump)) := by
    intro x
    have hrow : x.row.fields.Pairwise Field.Apart := (by decide : fields.Pairwise Field.Apart)
    have hmem : (volumeMountsField, some (.arr (x.volumeMounts.map VolumeMount.dump))) ∈ x.row := by
      simp [row]
    rw [Members.find?_append, Row.find?_members hrow hmem, Option.some_or]
  rw [dump_eq, dump_eq] at h
  simpa using Value.length_eq_of_alike (Value.alike_of_find? h (hfind a) (hfind b))

namespace Inspection

/-- **A graft shows in the containers**: they are alike only when nothing was grafted. -/
theorem eq_nil_of_alike (hnd : (l.map (·.index)).Nodup)
    (hfound : ∀ n ∈ l, pod.spec.containers[n.index]? = some n.container)
    (h : (SpecList.value pod.spec .containers).alike
      (SpecList.value (l.foldl (graft c) pod).spec .containers) = true) : l = [] := by
  by_contra hne
  obtain ⟨n, hn⟩ := List.exists_mem_of_ne_nil l hne
  have halike : n.container.dump.alike (n.grafted c).dump = true := by
    refine Value.alike_of_getElem? (i := n.index) h ?_ ?_
    · rw [List.getElem?_map, hfound n hn, Option.map_some]
    · rw [List.getElem?_map, getElem?_foldl_graft_of_mem hnd hfound hn, Option.map_some]
  have hlen := Container.length_volumeMounts_of_alike halike
  rw [grafted, Java.injectContainer_volumeMounts, List.length_append] at hlen
  simp at hlen

/-- **Lists that are alike are equal**: each of the three grows, or it is as it was. -/
theorem take_foldl_graft_of_alike (hnd : (l.map (·.index)).Nodup)
    (hfound : ∀ n ∈ l, pod.spec.containers[n.index]? = some n.container) {list : SpecList}
    (h : (list.value pod.spec).alike (list.value (l.foldl (graft c) pod).spec) = true) :
    list.take (l.foldl (graft c) pod).spec pod.spec = pod.spec := by
  rcases l with - | ⟨n, l⟩
  · cases list <;> rfl
  · rcases hlacks : lacksAgent pod with - | -
    · obtain ⟨hinit, hvolumes⟩ := foldl_graft_of_present (c := c) (l := n :: l) hlacks
      cases list with
      | containers => cases eq_nil_of_alike hnd hfound h
      | initContainers => rw [SpecList.take, hinit]
      | volumes => rw [SpecList.take, hvolumes]
    -- both lists are longer by one, so they are not alike either
    · obtain ⟨hinit, hvolumes⟩ := foldl_graft_of_lacksAgent (c := c) (l := l) hlacks n
      cases list with
      | containers => cases eq_nil_of_alike hnd hfound h
      | initContainers =>
        rw [SpecList.value, SpecList.value, hinit] at h
        simpa using Value.length_eq_of_alike h
      | volumes =>
        rw [SpecList.value, SpecList.value, hvolumes] at h
        simpa using Value.length_eq_of_alike h

end Inspection

/-! ### Patches that leave out what is equal -/

namespace Patch

/-- A patch has an operation for each list that is not alike. -/
theorem between_eq (before after : Pod) : between before after =
    (SpecList.all.filter fun l ↦ !(l.value before.spec).alike (l.value after.spec)).map
      (·.operation after.spec) := by
  rw [between]
  induction SpecList.all with
  | nil => rfl
  | cons l ls ih =>
    rcases h : (l.value before.spec).alike (l.value after.spec) with - | -
    · simp [h, operation?, SpecList.operation, ih]
    · simp [h, operation?, ih]

/-- A pod is not different from itself. -/
theorem between_self (pod : Pod) : between pod pod = [] := by
  simp [between_eq]

/-- The lists that a patch sets, taken from the pod that it leads to, make up that pod, if none that
it leaves out is another one. -/
theorem foldl_take_between (hsame : m.withoutLists = pod.withoutLists)
    (halike : ∀ l : SpecList, (l.value pod.spec).alike (l.value m.spec) = true →
      l.take m.spec pod.spec = pod.spec) :
    { pod with spec := (SpecList.all.filter fun l ↦
        !(l.value pod.spec).alike (l.value m.spec)).foldl (fun s l ↦ l.take m.spec s) pod.spec } =
      m := by
  have hout : ∀ l : SpecList, l ∉ (SpecList.all.filter fun l ↦
      !(l.value pod.spec).alike (l.value m.spec)) → l.take m.spec pod.spec = pod.spec := by
    intro l hl
    have hall : l ∈ SpecList.all := by cases l <;> decide
    refine halike l ?_
    simpa [List.mem_filter, hall] using hl
  rw [SpecList.foldl_take]
  refine Pod.eq_of_withoutLists hsame.symm ?_ ?_ ?_
  · dsimp only
    split
    · rfl
    · next hl => exact (congrArg PodSpec.containers (hout _ hl)).symm
  · dsimp only
    split
    · rfl
    · next hl => exact (congrArg PodSpec.initContainers (hout _ hl)).symm
  · dsimp only
    split
    · rfl
    · next hl => exact (congrArg PodSpec.volumes (hout _ hl)).symm

/-- Such a patch is empty only between equal pods. -/
theorem between_eq_nil_iff (hsame : m.withoutLists = pod.withoutLists)
    (halike : ∀ l : SpecList, (l.value pod.spec).alike (l.value m.spec) = true →
      l.take m.spec pod.spec = pod.spec) : between pod m = [] ↔ m = pod := by
  constructor
  · intro hnil
    rw [between_eq, List.map_eq_nil_iff] at hnil
    have hlists := foldl_take_between hsame halike
    rw [hnil] at hlists
    exact hlists.symm
  · rintro rfl
    exact between_self m

variable {o : Members}

/-- The patch takes the document to one that is read as the pod. -/
structure Transports (patch : Patch) (o : Members) (m : Pod) : Prop where
  /-- All of it can be applied, and what is outside the lists stays as it is and where it is. -/
  result : ∃ o' : Members, patch.applied (.obj o) = some (.obj o') ∧
    Pod.read (.obj o') = .ok m ∧ o'.withoutLists = o.withoutLists
  /-- Each operation can be applied on its own. -/
  applicable : ∀ op ∈ patch, (op.applied (.obj o)).isSome = true

/-- **A patch transports a pod** that has other lists than the one a document is read as, if no list
that it leaves out is another one. -/
theorem transports_between (hread : Pod.read (.obj o) = .ok pod)
    (hcanonical : Pod.isCanonical (.obj o) = true) (hsound : m.spec.Sound)
    (hsame : m.withoutLists = pod.withoutLists)
    (halike : ∀ l : SpecList, (l.value pod.spec).alike (l.value m.spec) = true →
      l.take m.spec pod.spec = pod.spec)
    (hspec : m ≠ pod → pod.spec ≠ .empty) : (between pod m).Transports o m := by
  by_cases hm : m = pod
  · subst hm
    rw [between_self]
    exact ⟨⟨o, rfl, hread, rfl⟩, nofun⟩
  · have hdescribes : Describes o pod := by
      refine ⟨hread, ?_⟩
      rcases Pod.spec_of_ofMembers hread with ⟨-, hempty⟩ | ⟨s, hs, -⟩
      · exact absurd hempty (hspec hm)
      · exact ⟨s, hs, Value.members_of_isCanonical (Pod.isCanonical_spec hcanonical hs)⟩
    rw [between_eq]
    refine ⟨?_, ?_⟩
    · obtain ⟨o', happlied, hdone, hrest⟩ := hdescribes.applied_map hsound _
      rw [foldl_take_between hsame halike] at hdone
      exact ⟨o', happlied, hdone.read, hrest⟩
    · intro op hop
      obtain ⟨l, -, rfl⟩ := List.mem_map.1 hop
      obtain ⟨o', happlied, -, -⟩ := hdescribes.applied hsound l
      rw [happlied, Option.isSome_some]

end Patch

/-! ### Patches of mutations -/

section Mutation

variable {store : Store} {is : List Instrumentation} {ns : Option String} {deadline : Option Int}
  {w w' : World} {o : Members} {spec : JavaSpec}

namespace Mutator

theorem withoutLists_of_mutate (h : (ofStore store c).mutate pod is ns deadline w = (.ok m, w')) :
    m.withoutLists = pod.withoutLists := by
  rw [eq_foldl_of_mutate_eq_ok h, Inspection.foldl_graft_withoutLists]

/-- Lists of a mutated pod that are alike those of the pod are equal to them. -/
theorem take_of_alike (h : (ofStore store c).mutate pod is ns deadline w = (.ok m, w'))
    (list : SpecList) (halike : (list.value pod.spec).alike (list.value m.spec) = true) :
    list.take m.spec pod.spec = pod.spec := by
  rw [eq_foldl_of_mutate_eq_ok h] at halike ⊢
  exact Inspection.take_foldl_graft_of_alike nodup_map_index_grafts
    (fun _ ↦ getElem?_of_mem_grafts) halike

/-- A mutation is followed by an empty patch only where it changed nothing. -/
theorem between_eq_nil_iff (h : (ofStore store c).mutate pod is ns deadline w = (.ok m, w')) :
    Patch.between pod m = [] ↔ m = pod :=
  Patch.between_eq_nil_iff (withoutLists_of_mutate h) (take_of_alike h)

/-- Only a pod with containers is changed. -/
theorem spec_ne_empty (h : (ofStore store c).mutate pod is ns deadline w = (.ok m, w'))
    (hne : m ≠ pod) : pod.spec ≠ .empty := by
  intro hempty
  have hgrafts : (ofStore store c).grafts pod is ns deadline w ≠ [] := fun hnil ↦
    hne (by rw [eq_foldl_of_mutate_eq_ok h, hnil, List.foldl_nil])
  obtain ⟨n, hn⟩ := List.exists_mem_of_ne_nil _ hgrafts
  have hcontainer := getElem?_of_mem_grafts hn
  rw [hempty] at hcontainer
  simp [PodSpec.empty] at hcontainer

/-- A mutation by sound settings keeps a pod sound. -/
theorem sound_of_mutate (h : (ofStore store c).mutate pod is ns deadline w = (.ok m, w'))
    (his : ∀ i ∈ is, i.spec.Sound) (hsound : pod.spec.Sound) : m.spec.Sound := by
  rw [eq_foldl_of_mutate_eq_ok h]
  refine Inspection.sound_foldl_graft (fun n hn ↦ ?_) hsound
  obtain ⟨i, hi, hspec⟩ := exists_of_mem_trace (mem_trace_of_mem_grafts hn).1
  have hcontainer := List.mem_of_getElem? (getElem?_of_mem_grafts hn)
  exact ⟨hspec ▸ his i hi, hsound.containers _ hcontainer⟩

end Mutator

/-- **The patch of a mutation transports it exactly.** Of a document and settings in which no field
is spelled the other way, the patch takes the document to one that is read as the mutated pod,
leaves everything outside the three lists in its place, and is empty only when the mutation changed
nothing. -/
theorem transports_between_of_mutate (hread : Pod.read (.obj o) = .ok pod)
    (hpod : Pod.isCanonical (.obj o) = true) (hspec : spec.IsCanonical)
    (h : (Mutator.ofStore store c).mutate pod (Admission.select spec pod) ns deadline w =
      (.ok m, w')) :
    (Patch.between pod m).Transports o m ∧ (Patch.between pod m = [] ↔ m = pod) := by
  have his : ∀ i ∈ Admission.select spec pod, i.spec.Sound := by
    intro i hi
    rw [Admission.select] at hi
    split at hi
    · rw [List.mem_singleton.1 hi]
      exact hspec.sound
    · simp at hi
  have hsound := Mutator.sound_of_mutate h his (Pod.sound_of_ofMembers hpod hread)
  exact ⟨Patch.transports_between hread hpod hsound (Mutator.withoutLists_of_mutate h)
    (Mutator.take_of_alike h) (Mutator.spec_ne_empty h), Mutator.between_eq_nil_iff h⟩

end Mutation

namespace Sample

/-- A pod that asks for the agent, with members that are not interpreted and members that are
null. -/
def document : Members :=
  [("apiVersion", .str "v1"),
   ("metadata", .obj [("annotations", .obj [(Admission.injectJava, .str " True")]),
     ("labels", .null)]),
   ("spec", .obj [("hostNetwork", .bool true),
     ("containers", .arr [.obj [("name", .str "app"), ("ports", .arr []),
       ("securityContext", .null)]])])]

/-- The pod that it is read as. -/
def asked : Pod := (Pod.read (.obj document)).toOption.getD .empty

/-- What a mutation makes of it with the built-in settings. -/
def answered : Except Mutator.Fault Pod × World :=
  (Mutator.ofStore store .standard).mutate asked (Admission.select (.builtin .standard) asked) none
    none (.start 0)

end Sample

/-- The pod is changed, and the patch transports the change. -/
theorem exists_transports_sample : ∃ m, m ≠ Sample.asked ∧
    (Patch.between Sample.asked m).Transports Sample.document m ∧
    Patch.between Sample.asked m ≠ [] := by
  have hread : Pod.read (.obj Sample.document) = .ok Sample.asked := by decide +kernel
  have h : Sample.answered =
      (.ok (Sample.answered.1.toOption.getD Sample.asked), Sample.answered.2) :=
    Prod.ext (by decide +kernel) rfl
  have hne : Sample.answered.1.toOption.getD Sample.asked ≠ Sample.asked := by decide +kernel
  obtain ⟨htransports, hnil⟩ := transports_between_of_mutate hread (by decide +kernel)
    (JavaSpec.isCanonical_builtin .standard) h
  exact ⟨_, hne, htransports, mt hnil.1 hne⟩

end AgentGraft
