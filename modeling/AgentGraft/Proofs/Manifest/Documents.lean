import AgentGraft.Proofs.Manifest.Pods
import AgentGraft.Proofs.Manifest.Survival

/-!
# Pods that survive

What becomes of a pod's document when it is read and written again, level by level. Each kind of
typed object has its `slots`: texts, lists of texts and free-form maps stay what they are, flags and
integers are written as they were read, parts survive by their own slots, and where a list, the
annotations, the metadata or the specification are absent the empty ones are written.

`Pod.survives_dump_of_read` puts the levels together: a pod read from a canonical document reads
back from what is written for it, and of the document everything survives.
-/

namespace AgentGraft

variable {v : Value}

/-! ### Variables -/

namespace EnvVar

/-- What becomes of its fields. -/
def slots : List Slot := [nameField.slot Eq, valueField.slot Eq, valueFromField.slot Eq]

theorem survives_of_read {e : EnvVar} (hc : isCanonical v = true) (h : read v = .ok e) :
    v.Survives slots e.dump := by
  obtain ⟨o, rfl, ho⟩ := Reader.object_eq_ok_iff.1 h
  obtain ⟨hname, hvalue, hfrom, hrest⟩ := ofMembers_eq_ok_iff.1 ho
  rw [dump_eq]
  refine Row.survives (by decide : fields.Pairwise Field.Apart) (Value.members_of_isCanonical hc)
    hrest (.cons ⟨rfl, ?_⟩ (.cons ⟨rfl, ?_⟩ (.cons ⟨rfl, ?_⟩ .nil)))
  · exact Field.required_holds hname nofun fun _ _ ↦ Reader.str_of_text
  · exact Field.optional_holds hvalue fun _ _ _ ↦ Reader.str_of_text
  · exact Field.optional_holds hfrom fun _ _ _ ↦ Reader.obj_of_freeMap

end EnvVar

/-! ### Imported bundles -/

namespace BundleRef

/-- What becomes of its fields. -/
def slots : List Slot := [nameField.slot Eq, optionalField.slot (Value.AsRead .flag .bool)]

theorem survives_of_read {r : BundleRef} (hc : isCanonical v = true) (h : read v = .ok r) :
    v.Survives slots r.dump := by
  obtain ⟨o, rfl, ho⟩ := Reader.object_eq_ok_iff.1 h
  obtain ⟨hname, hoptional, hrest⟩ := ofMembers_eq_ok_iff.1 ho
  rw [dump_eq]
  refine Row.survives (by decide : fields.Pairwise Field.Apart) (Value.members_of_isCanonical hc)
    hrest (.cons ⟨rfl, ?_⟩ (.cons ⟨rfl, ?_⟩ .nil))
  · exact Field.required_holds hname nofun fun _ _ ↦ Reader.str_of_text
  · exact Field.optional_holds hoptional fun _ b _ hread ↦ ⟨b, hread, rfl⟩

end BundleRef

namespace EnvFromSource

/-- What becomes of its fields. -/
def slots : List Slot :=
  [prefixField.slot Eq, configMapField.slot (Value.Survives BundleRef.slots),
   secretField.slot (Value.Survives BundleRef.slots)]

theorem survives_of_read {s : EnvFromSource} (hc : isCanonical v = true) (h : read v = .ok s) :
    v.Survives slots s.dump := by
  obtain ⟨o, rfl, ho⟩ := Reader.object_eq_ok_iff.1 h
  obtain ⟨hstart, hmap, hsecret, hrest⟩ := ofMembers_eq_ok_iff.1 ho
  rw [dump_eq]
  refine Row.survives (by decide : fields.Pairwise Field.Apart) (Value.members_of_isCanonical hc)
    hrest (.cons ⟨rfl, ?_⟩ (.cons ⟨rfl, ?_⟩ (.cons ⟨rfl, ?_⟩ .nil)))
  · exact Field.optional_holds hstart fun _ _ _ ↦ Reader.str_of_text
  · exact Field.optional_holds hmap fun _ _ hv ↦
      BundleRef.survives_of_read (Value.part_of_isCanonical hc (by simp) hv)
  · exact Field.optional_holds hsecret fun _ _ hv ↦
      BundleRef.survives_of_read (Value.part_of_isCanonical hc (by simp) hv)

end EnvFromSource

/-! ### Security settings -/

namespace SecurityContext

/-- What becomes of its fields. -/
def slots : List Slot :=
  [nonRootField.slot (Value.AsRead .flag .bool), userField.slot (Value.AsRead .integer .int)]

theorem survives_of_read {s : SecurityContext} (hc : isCanonical v = true) (h : read v = .ok s) :
    v.Survives slots s.dump := by
  obtain ⟨o, rfl, ho⟩ := Reader.object_eq_ok_iff.1 h
  obtain ⟨hroot, huser, hrest⟩ := ofMembers_eq_ok_iff.1 ho
  rw [dump_eq]
  refine Row.survives (by decide : fields.Pairwise Field.Apart) (Value.members_of_isCanonical hc)
    hrest (.cons ⟨rfl, ?_⟩ (.cons ⟨rfl, ?_⟩ .nil))
  · exact Field.optional_holds hroot fun _ b _ hread ↦ ⟨b, hread, rfl⟩
  · exact Field.optional_holds huser fun _ i _ hread ↦ ⟨i, hread, rfl⟩

end SecurityContext

/-! ### Volumes -/

namespace VolumeMount

/-- What becomes of its fields. -/
def slots : List Slot := [nameField.slot Eq, mountPathField.slot Eq]

theorem survives_of_read {m : VolumeMount} (hc : isCanonical v = true) (h : read v = .ok m) :
    v.Survives slots m.dump := by
  obtain ⟨o, rfl, ho⟩ := Reader.object_eq_ok_iff.1 h
  obtain ⟨hname, hpath, hrest⟩ := ofMembers_eq_ok_iff.1 ho
  rw [dump_eq]
  refine Row.survives (by decide : fields.Pairwise Field.Apart) (Value.members_of_isCanonical hc)
    hrest (.cons ⟨rfl, ?_⟩ (.cons ⟨rfl, ?_⟩ .nil))
  · exact Field.required_holds hname nofun fun _ _ ↦ Reader.str_of_text
  · exact Field.required_holds hpath nofun fun _ _ ↦ Reader.str_of_text

end VolumeMount

namespace Volume

/-- What becomes of its fields. -/
def slots : List Slot := [nameField.slot Eq, emptyDirField.slot Eq]

theorem survives_of_read {w : Volume} (hc : isCanonical v = true) (h : read v = .ok w) :
    v.Survives slots w.dump := by
  obtain ⟨o, rfl, ho⟩ := Reader.object_eq_ok_iff.1 h
  obtain ⟨hname, hdir, hrest⟩ := ofMembers_eq_ok_iff.1 ho
  rw [dump_eq]
  refine Row.survives (by decide : fields.Pairwise Field.Apart) (Value.members_of_isCanonical hc)
    hrest (.cons ⟨rfl, ?_⟩ (.cons ⟨rfl, ?_⟩ .nil))
  · exact Field.required_holds hname nofun fun _ _ ↦ Reader.str_of_text
  · exact Field.optional_holds hdir fun _ _ _ ↦ Reader.obj_of_freeMap

end Volume

/-! ### Containers -/

namespace Container

/-- What becomes of its fields. -/
def slots : List Slot :=
  [nameField.slot Eq, imageField.slot Eq, commandField.slot Eq,
   envField.slotOr (.arr []) (Value.ItemsSurvive (Value.Survives EnvVar.slots)),
   envFromField.slotOr (.arr []) (Value.ItemsSurvive (Value.Survives EnvFromSource.slots)),
   volumeMountsField.slotOr (.arr []) (Value.ItemsSurvive (Value.Survives VolumeMount.slots)),
   resourcesField.slot Eq, securityContextField.slot (Value.Survives SecurityContext.slots)]

theorem survives_of_read {c : Container} (hc : isCanonical v = true) (h : read v = .ok c) :
    v.Survives slots c.dump := by
  obtain ⟨o, rfl, ho⟩ := Reader.object_eq_ok_iff.1 h
  obtain ⟨hname, himage, hcommand, henv, hfrom, hmounts, hresources, hsecurity, hrest⟩ :=
    ofMembers_eq_ok_iff.1 ho
  rw [dump_eq]
  refine Row.survives (by decide : fields.Pairwise Field.Apart) (Value.members_of_isCanonical hc)
    hrest (.cons ⟨rfl, ?_⟩ (.cons ⟨rfl, ?_⟩ (.cons ⟨rfl, ?_⟩ (.cons ⟨rfl, ?_⟩ (.cons ⟨rfl, ?_⟩
      (.cons ⟨rfl, ?_⟩ (.cons ⟨rfl, ?_⟩ (.cons ⟨rfl, ?_⟩ .nil))))))))
  · exact Field.required_holds hname nofun fun _ _ ↦ Reader.str_of_text
  · exact Field.optional_holds himage fun _ _ _ ↦ Reader.str_of_text
  · exact Field.optional_holds hcommand fun _ _ _ ↦ Reader.ofTexts_of_list
  · exact Field.list_holds henv (fun _ ↦ Value.part_of_isCanonical hc (by simp))
      EnvVar.survives_of_read
  · exact Field.list_holds hfrom (fun _ ↦ Value.part_of_isCanonical hc (by simp))
      EnvFromSource.survives_of_read
  · exact Field.list_holds hmounts (fun _ ↦ Value.part_of_isCanonical hc (by simp))
      VolumeMount.survives_of_read
  · exact Field.optional_holds hresources fun _ _ _ ↦ Reader.obj_of_freeMap
  · exact Field.optional_holds hsecurity fun _ _ hv ↦
      SecurityContext.survives_of_read (Value.part_of_isCanonical hc (by simp) hv)

end Container

/-! ### Pods -/

namespace PodSpec

/-- What becomes of its fields. -/
def slots : List Slot :=
  [containersField.slotOr (.arr []) (Value.ItemsSurvive (Value.Survives Container.slots)),
   initContainersField.slotOr (.arr []) (Value.ItemsSurvive (Value.Survives Container.slots)),
   volumesField.slotOr (.arr []) (Value.ItemsSurvive (Value.Survives Volume.slots)),
   securityContextField.slot (Value.Survives SecurityContext.slots), nodeSelectorField.slot Eq]

theorem survives_of_read {s : PodSpec} (hc : isCanonical v = true) (h : read v = .ok s) :
    v.Survives slots s.dump := by
  obtain ⟨o, rfl, ho⟩ := Reader.object_eq_ok_iff.1 h
  obtain ⟨hcontainers, hinit, hvolumes, hsecurity, hnode, hrest⟩ := ofMembers_eq_ok_iff.1 ho
  rw [dump_eq]
  refine Row.survives (by decide : fields.Pairwise Field.Apart) (Value.members_of_isCanonical hc)
    hrest (.cons ⟨rfl, ?_⟩ (.cons ⟨rfl, ?_⟩ (.cons ⟨rfl, ?_⟩ (.cons ⟨rfl, ?_⟩ (.cons ⟨rfl, ?_⟩
      .nil)))))
  · exact Field.list_holds hcontainers (fun _ ↦ Value.part_of_isCanonical hc (by simp))
      Container.survives_of_read
  · exact Field.list_holds hinit (fun _ ↦ Value.part_of_isCanonical hc (by simp))
      Container.survives_of_read
  · exact Field.list_holds hvolumes (fun _ ↦ Value.part_of_isCanonical hc (by simp))
      Volume.survives_of_read
  · exact Field.optional_holds hsecurity fun _ _ hv ↦
      SecurityContext.survives_of_read (Value.part_of_isCanonical hc (by simp) hv)
  · exact Field.optional_holds hnode fun _ _ _ ↦ Reader.ofTextMap_of_mapOf

end PodSpec

namespace ObjectMeta

/-- What becomes of its fields. -/
def slots : List Slot :=
  [nameField.slot Eq, generateNameField.slot Eq, namespaceField.slot Eq,
   annotationsField.slotOr (.obj []) Eq]

theorem survives_of_read {m : ObjectMeta} (hc : isCanonical v = true) (h : read v = .ok m) :
    v.Survives slots m.dump := by
  obtain ⟨o, rfl, ho⟩ := Reader.object_eq_ok_iff.1 h
  obtain ⟨hname, hgenerate, hns, hannotations, hrest⟩ := ofMembers_eq_ok_iff.1 ho
  rw [dump_eq]
  refine Row.survives (by decide : fields.Pairwise Field.Apart) (Value.members_of_isCanonical hc)
    hrest (.cons ⟨rfl, ?_⟩ (.cons ⟨rfl, ?_⟩ (.cons ⟨rfl, ?_⟩ (.cons ⟨rfl, ?_⟩ .nil))))
  · exact Field.optional_holds hname fun _ _ _ ↦ Reader.str_of_text
  · exact Field.optional_holds hgenerate fun _ _ _ ↦ Reader.str_of_text
  · exact Field.optional_holds hns fun _ _ _ ↦ Reader.str_of_text
  · exact Field.orElse_holds Value.ofTextMap hannotations nofun fun _ _ ↦ Reader.ofTextMap_of_mapOf

end ObjectMeta

namespace Pod

/-- What becomes of its fields. -/
def slots : List Slot :=
  [metadataField.slotOr (.obj [("annotations", .obj [])]) (Value.Survives ObjectMeta.slots),
   specField.slotOr
     (.obj [("containers", .arr []), ("initContainers", .arr []), ("volumes", .arr [])])
     (Value.Survives PodSpec.slots)]

/-- **A pod survives.** Read from a canonical document, it reads back from what is written for it,
and of the document every member that is not null is there, as it was or as it was read; all that is
added are empty lists, annotations, metadata and specifications for absent ones. -/
theorem survives_dump_of_read {o : Members} {pod : Pod} (hc : isCanonical (.obj o) = true)
    (h : read (.obj o) = .ok pod) :
    read pod.dump = .ok pod ∧ (Value.obj o).Survives slots pod.dump := by
  refine ⟨(readsBack_of_read hc h).eq_ok, ?_⟩
  obtain ⟨hmetadata, hspec, hrest⟩ := ofMembers_eq_ok_iff.1 h
  rw [dump_eq]
  refine Row.survives (by decide : fields.Pairwise Field.Apart) (Value.members_of_isCanonical hc)
    hrest (.cons ⟨rfl, ?_⟩ (.cons ⟨rfl, ?_⟩ .nil))
  · exact Field.orElse_holds ObjectMeta.dump hmetadata nofun fun _ hv ↦
      ObjectMeta.survives_of_read (Value.part_of_isCanonical hc (by simp) hv)
  · exact Field.orElse_holds PodSpec.dump hspec nofun fun _ hv ↦
      PodSpec.survives_of_read (Value.part_of_isCanonical hc (by simp) hv)

end Pod

/-! ### A document with a bit of everything -/

namespace Sample

/-- A pod with unknown members, nulls, a flag and an integer given as texts, and no lists of
volumes. -/
def mixedDocument : Members :=
  [("kind", .str "Pod"), ("status", .null),
   ("metadata", .obj [("name", .str "web-0"),
     ("labels", .obj [("app", .str "web"), ("tier", .null)])]),
   ("spec", .obj [("containers", .arr [.obj
     [("name", .str "app"), ("image", .null), ("ports", .arr [.int 80]),
      ("env", .arr [.obj [("name", .str "MODE"), ("value", .str "on")]]),
      ("securityContext", .obj [("runAsNonRoot", .str "yes"), ("runAsUser", .str "1_000")])]])])]

end Sample

/-- It survives, though what is written for it is something else. -/
theorem survives_document_sample : ∃ pod, Pod.read (.obj Sample.mixedDocument) = .ok pod ∧
    pod.dump ≠ .obj Sample.mixedDocument ∧ Pod.read pod.dump = .ok pod ∧
      (Value.obj Sample.mixedDocument).Survives Pod.slots pod.dump := by
  have hwritten : (Pod.read (.obj Sample.mixedDocument)).toOption.any
      (·.dump ≠ .obj Sample.mixedDocument) = true := by
    decide +kernel
  rcases h : Pod.read (.obj Sample.mixedDocument) with pod | issues
  · rw [h] at hwritten
    obtain ⟨hread, hsurvives⟩ := Pod.survives_dump_of_read (by decide +kernel) h
    exact ⟨pod, rfl, by simpa [Checked.toOption] using hwritten, hread, hsurvives⟩
  · rw [h] at hwritten
    cases hwritten

end AgentGraft
