import AgentGraft.Proofs.Manifest.RoundTrip

/-!
# Pods read from documents

What a pod and its two parts are read from, and when a document is canonical: no field at any level
is spelled the other way. A pod that was read from a canonical document is read back from what is
written for it (`Pod.readsBack_of_read`); of any pod whose specification is `Sound` this holds for
everything in the three lists.
-/

namespace AgentGraft

open Checked (seq_eq_ok_iff map_eq_ok_iff pure_eq)

variable {o : Members} {v : Value}

/-! ### Specifications -/

namespace PodSpec

variable {s : PodSpec}

/-- A specification as a row. -/
def row (s : PodSpec) : Row :=
  [(containersField, some (.arr (s.containers.map Container.dump))),
   (initContainersField, some (.arr (s.initContainers.map Container.dump))),
   (volumesField, some (.arr (s.volumes.map Volume.dump))),
   (securityContextField, s.securityContext.map SecurityContext.dump),
   (nodeSelectorField, s.nodeSelector.map .ofTextMap)]

theorem dump_eq (s : PodSpec) : s.dump = .obj (s.row.members ++ s.extra) := by
  simp [dump, members, row, Row.members, Field.write?]

theorem ofMembers_eq_ok_iff : ofMembers o = .ok s ↔
    containersField.orElse [] (.list Container.read) o = .ok s.containers ∧
      initContainersField.orElse [] (.list Container.read) o = .ok s.initContainers ∧
      volumesField.orElse [] (.list Volume.read) o = .ok s.volumes ∧
      securityContextField.optional SecurityContext.read o = .ok s.securityContext ∧
      nodeSelectorField.optional (.mapOf .text) o = .ok s.nodeSelector ∧
      o.rest fields = s.extra := by
  constructor
  · intro h
    simp only [ofMembers, seq_eq_ok_iff, map_eq_ok_iff, pure_eq, Checked.ok.injEq] at h
    obtain ⟨_, _, ⟨_, _, ⟨_, _, ⟨_, _, ⟨_, _, ⟨_, hcontainers, rfl⟩, hinit, rfl⟩, hvolumes, rfl⟩,
      hsecurity, rfl⟩, hnode, rfl⟩, hrest, rfl⟩ := h
    exact ⟨hcontainers, hinit, hvolumes, hsecurity, hnode, hrest⟩
  · rintro ⟨hcontainers, hinit, hvolumes, hsecurity, hnode, hrest⟩
    rw [ofMembers, hcontainers, hinit, hvolumes, hsecurity, hnode, hrest]
    rfl

/-- The items of its three lists are sound. -/
structure Sound (s : PodSpec) : Prop where
  containers : ∀ c ∈ s.containers, c.Sound
  initContainers : ∀ c ∈ s.initContainers, c.Sound
  volumes : ∀ w ∈ s.volumes, w.Sound

theorem sound_empty : empty.Sound := ⟨nofun, nofun, nofun⟩

/-- No field is spelled the other way, in the parts neither. -/
def isCanonical : Value → Bool :=
  Value.isCanonical fields
    [(containersField, Value.each Container.isCanonical),
     (initContainersField, Value.each Container.isCanonical),
     (volumesField, Value.each Volume.isCanonical),
     (securityContextField, SecurityContext.isCanonical)]

theorem sound_of_ofMembers (hc : isCanonical (.obj o) = true) (h : ofMembers o = .ok s) :
    s.Sound := by
  obtain ⟨hcontainers, hinit, hvolumes, -, -, -⟩ := ofMembers_eq_ok_iff.1 h
  refine ⟨?_, ?_, ?_⟩
  · exact Value.forall_of_list hc (by simp) Container.sound_of_read hcontainers
  · exact Value.forall_of_list hc (by simp) Container.sound_of_read hinit
  · exact Value.forall_of_list hc (by simp) Volume.sound_of_read hvolumes

/-- **A specification read from a canonical value reads back.** -/
theorem readsBack_of_read (hc : isCanonical v = true) (h : read v = .ok s) :
    ReadsBack read dump s := by
  obtain ⟨o, rfl, ho⟩ := Reader.object_eq_ok_iff.1 h
  have hsound := sound_of_ofMembers hc ho
  obtain ⟨-, -, -, hsecurity, -, hrest⟩ := ofMembers_eq_ok_iff.1 ho
  have hsettings : ∀ t ∈ s.securityContext, t.Sound :=
    Value.forall_of_optional hc (by simp) SecurityContext.sound_of_read hsecurity
  have hw : s.row.Wf s.extra := ⟨(by decide : fields.Pairwise Field.Apart),
    hrest ▸ Members.foreign_rest (Value.members_of_isCanonical hc)⟩
  refine ⟨rfl, ?_⟩
  rw [dump_eq]
  refine ofMembers_eq_ok_iff.2 ⟨?_, ?_, ?_, ?_, ?_, hw.rest⟩
  · exact hw.orElse (by simp [row]) (.list fun c hc ↦ (hsound.containers c hc).readsBack)
  · exact hw.orElse (by simp [row]) (.list fun c hc ↦ (hsound.initContainers c hc).readsBack)
  · exact hw.orElse (by simp [row]) (.list fun w hw ↦ (hsound.volumes w hw).readsBack)
  · exact hw.optional (by simp [row]) fun t ht ↦ (hsettings t ht).readsBack
  · exact hw.optional (by simp [row]) fun ms _ ↦ .textMap ms

end PodSpec

/-! ### Metadata -/

namespace ObjectMeta

variable {m : ObjectMeta}

/-- Metadata as a row. -/
def row (m : ObjectMeta) : Row :=
  [(nameField, m.name.map .str), (generateNameField, m.generateName.map .str),
   (namespaceField, m.ns.map .str), (annotationsField, some (.ofTextMap m.annotations))]

theorem dump_eq (m : ObjectMeta) : m.dump = .obj (m.row.members ++ m.extra) := by
  simp [dump, row, Row.members, Field.write?]

theorem ofMembers_eq_ok_iff : ofMembers o = .ok m ↔
    nameField.optional .text o = .ok m.name ∧
      generateNameField.optional .text o = .ok m.generateName ∧
      namespaceField.optional .text o = .ok m.ns ∧
      annotationsField.orElse [] (.mapOf .text) o = .ok m.annotations ∧
      o.rest fields = m.extra := by
  constructor
  · intro h
    simp only [ofMembers, seq_eq_ok_iff, map_eq_ok_iff, pure_eq, Checked.ok.injEq] at h
    obtain ⟨_, _, ⟨_, _, ⟨_, _, ⟨_, _, ⟨_, hname, rfl⟩, hgenerate, rfl⟩, hns, rfl⟩, hannotations,
      rfl⟩, hrest, rfl⟩ := h
    exact ⟨hname, hgenerate, hns, hannotations, hrest⟩
  · rintro ⟨hname, hgenerate, hns, hannotations, hrest⟩
    rw [ofMembers, hname, hgenerate, hns, hannotations, hrest]
    rfl

/-- No field is spelled the other way. -/
def isCanonical : Value → Bool := Value.isCanonical fields []

/-- **Metadata read from a canonical value read back.** -/
theorem readsBack_of_read (hc : isCanonical v = true) (h : read v = .ok m) :
    ReadsBack read dump m := by
  obtain ⟨o, rfl, ho⟩ := Reader.object_eq_ok_iff.1 h
  obtain ⟨-, -, -, -, hrest⟩ := ofMembers_eq_ok_iff.1 ho
  have hw : m.row.Wf m.extra := ⟨(by decide : fields.Pairwise Field.Apart),
    hrest ▸ Members.foreign_rest (Value.members_of_isCanonical hc)⟩
  refine ⟨rfl, ?_⟩
  rw [dump_eq]
  refine ofMembers_eq_ok_iff.2 ⟨?_, ?_, ?_, ?_, hw.rest⟩
  · exact hw.optional (by simp [row]) fun s _ ↦ .text s
  · exact hw.optional (by simp [row]) fun s _ ↦ .text s
  · exact hw.optional (by simp [row]) fun s _ ↦ .text s
  · exact hw.orElse (by simp [row]) (.textMap m.annotations)

end ObjectMeta

/-! ### Pods -/

namespace Pod

variable {pod : Pod}

/-- A pod as a row. -/
def row (pod : Pod) : Row :=
  [(metadataField, some pod.metadata.dump), (specField, some pod.spec.dump)]

theorem dump_eq (pod : Pod) : pod.dump = .obj (pod.row.members ++ pod.extra) := by
  simp [dump, row, Row.members, Field.write?]

theorem ofMembers_eq_ok_iff : ofMembers o = .ok pod ↔
    metadataField.orElse .empty ObjectMeta.read o = .ok pod.metadata ∧
      specField.orElse .empty PodSpec.read o = .ok pod.spec ∧ o.rest fields = pod.extra := by
  constructor
  · intro h
    simp only [ofMembers, seq_eq_ok_iff, map_eq_ok_iff, pure_eq, Checked.ok.injEq] at h
    obtain ⟨_, _, ⟨_, _, ⟨_, hmeta, rfl⟩, hspec, rfl⟩, hrest, rfl⟩ := h
    exact ⟨hmeta, hspec, hrest⟩
  · rintro ⟨hmeta, hspec, hrest⟩
    rw [ofMembers, hmeta, hspec, hrest]
    rfl

/-- A specification is read from an object, or it is the empty one. -/
theorem spec_of_ofMembers (h : ofMembers o = .ok pod) :
    (o.find? specField.name = none ∧ pod.spec = .empty) ∨
      ∃ s, o.find? specField.name = some (.obj s) ∧ PodSpec.ofMembers s = .ok pod.spec := by
  have hfind : specField.find? o = o.find? specField.name := Option.or_self
  rcases Field.eq_of_orElse (ofMembers_eq_ok_iff.1 h).2.1 with ⟨hnone, hspec⟩ | ⟨v, hv, hread⟩
  · exact .inl ⟨hfind ▸ hnone, hspec.symm⟩
  · obtain ⟨s, rfl, hs⟩ := Reader.object_eq_ok_iff.1 hread
    exact .inr ⟨s, hfind ▸ hv, hs⟩

/-- **No key at any level is another spelling of a field.** -/
def isCanonical : Value → Bool :=
  Value.isCanonical fields
    [(metadataField, ObjectMeta.isCanonical), (specField, PodSpec.isCanonical)]

theorem isCanonical_spec (hc : isCanonical (.obj o) = true) {s : Members}
    (hs : o.find? specField.name = some (.obj s)) : PodSpec.isCanonical (.obj s) = true := by
  have hfind : specField.find? o = some (.obj s) := Option.or_self.trans hs
  exact Value.part_of_isCanonical hc (by simp) hfind

/-- What is read from a canonical document is sound. -/
theorem sound_of_ofMembers (hc : isCanonical (.obj o) = true) (h : ofMembers o = .ok pod) :
    pod.spec.Sound := by
  rcases spec_of_ofMembers h with ⟨-, hspec⟩ | ⟨s, hs, hspec⟩
  · exact hspec ▸ PodSpec.sound_empty
  · exact PodSpec.sound_of_ofMembers (isCanonical_spec hc hs) hspec

/-- **A pod read from a canonical document reads back.** -/
theorem readsBack_of_read (hc : isCanonical v = true) (h : read v = .ok pod) :
    ReadsBack read dump pod := by
  obtain ⟨o, rfl, ho⟩ := Reader.object_eq_ok_iff.1 h
  obtain ⟨hmetadata, hspec, hrest⟩ := ofMembers_eq_ok_iff.1 ho
  have hw : pod.row.Wf pod.extra := ⟨(by decide : fields.Pairwise Field.Apart),
    hrest ▸ Members.foreign_rest (Value.members_of_isCanonical hc)⟩
  have hmetadata' : ReadsBack ObjectMeta.read ObjectMeta.dump pod.metadata := by
    rcases Field.eq_of_orElse hmetadata with ⟨-, hempty⟩ | ⟨v, hv, hread⟩
    · exact hempty ▸ ⟨rfl, rfl⟩
    · exact ObjectMeta.readsBack_of_read (Value.part_of_isCanonical hc (by simp) hv) hread
  have hspec' : ReadsBack PodSpec.read PodSpec.dump pod.spec := by
    rcases Field.eq_of_orElse hspec with ⟨-, hempty⟩ | ⟨v, hv, hread⟩
    · exact hempty ▸ ⟨rfl, rfl⟩
    · exact PodSpec.readsBack_of_read (Value.part_of_isCanonical hc (by simp) hv) hread
  refine ⟨rfl, ?_⟩
  rw [dump_eq]
  refine ofMembers_eq_ok_iff.2 ⟨?_, ?_, hw.rest⟩
  · exact hw.orElse (by simp [row]) hmetadata'
  · exact hw.orElse (by simp [row]) hspec'

end Pod

end AgentGraft
