import AgentGraft.Manifest.Pod
import AgentGraft.Proofs.Manifest.Readers

/-!
# Containers and volumes written and read back

Every typed object of a manifest is a row of fields and its uninterpreted members. For each kind
there are, in this order: what it is when it is written, what its parts are read from, when it is
`Sound`, that it then reads back, and that it is sound when it was read from a canonical value.

A sound object is one whose uninterpreted members are foreign to its fields, and whose parts are
sound. One that is not can change when it is written: members that a reading left aside can be taken
for its fields by the next one.
-/

namespace AgentGraft

open Checked (seq_eq_ok_iff map_eq_ok_iff pure_eq)

variable {o : Members} {v : Value}

/-! ### Variables -/

namespace EnvVar

variable {e : EnvVar}

/-- A variable as a row. -/
def row (e : EnvVar) : Row :=
  [(nameField, some (.str e.name)), (valueField, e.value.map .str),
   (valueFromField, e.valueFrom.map .obj)]

theorem dump_eq (e : EnvVar) : e.dump = .obj (e.row.members ++ e.extra) := by
  simp [dump, row, Row.members, Field.write?]

theorem ofMembers_eq_ok_iff : ofMembers o = .ok e ↔
    nameField.required .text o = .ok e.name ∧ valueField.optional .text o = .ok e.value ∧
      valueFromField.optional .freeMap o = .ok e.valueFrom ∧ o.rest fields = e.extra := by
  constructor
  · intro h
    simp only [ofMembers, seq_eq_ok_iff, map_eq_ok_iff, pure_eq, Checked.ok.injEq] at h
    obtain ⟨_, _, ⟨_, _, ⟨_, _, ⟨_, hname, rfl⟩, hvalue, rfl⟩, hfrom, rfl⟩, hrest, rfl⟩ := h
    exact ⟨hname, hvalue, hfrom, hrest⟩
  · rintro ⟨hname, hvalue, hfrom, hrest⟩
    rw [ofMembers, hname, hvalue, hfrom, hrest]
    rfl

/-- Its uninterpreted members belong to no field. -/
def Sound (e : EnvVar) : Prop := Members.Foreign fields e.extra

/-- A sound variable reads back. -/
theorem Sound.readsBack (h : e.Sound) : ReadsBack read dump e := by
  have hw : e.row.Wf e.extra := ⟨(by decide : fields.Pairwise Field.Apart), h⟩
  refine ⟨rfl, ?_⟩
  rw [dump_eq]
  refine ofMembers_eq_ok_iff.2 ⟨?_, ?_, ?_, hw.rest⟩
  · exact hw.required (by simp [row]) (.text e.name)
  · exact hw.optional (by simp [row]) fun s _ ↦ .text s
  · exact hw.optional (by simp [row]) fun ms _ ↦ .freeMap ms

/-- No field is spelled the other way. -/
def isCanonical : Value → Bool := Value.isCanonical fields []

theorem sound_of_read (hc : isCanonical v = true) (h : read v = .ok e) : e.Sound := by
  obtain ⟨o, rfl, ho⟩ := Reader.object_eq_ok_iff.1 h
  obtain ⟨-, -, -, hrest⟩ := ofMembers_eq_ok_iff.1 ho
  rw [Sound, ← hrest]
  exact Members.foreign_rest (Value.members_of_isCanonical hc)

end EnvVar

/-! ### Imported bundles -/

namespace BundleRef

variable {r : BundleRef}

/-- A reference as a row. -/
def row (r : BundleRef) : Row :=
  [(nameField, some (.str r.name)), (optionalField, r.optional.map .bool)]

theorem dump_eq (r : BundleRef) : r.dump = .obj (r.row.members ++ r.extra) := by
  simp [dump, row, Row.members, Field.write?]

theorem ofMembers_eq_ok_iff : ofMembers o = .ok r ↔
    nameField.required .text o = .ok r.name ∧ optionalField.optional .flag o = .ok r.optional ∧
      o.rest fields = r.extra := by
  constructor
  · intro h
    simp only [ofMembers, seq_eq_ok_iff, map_eq_ok_iff, pure_eq, Checked.ok.injEq] at h
    obtain ⟨_, _, ⟨_, _, ⟨_, hname, rfl⟩, hoptional, rfl⟩, hrest, rfl⟩ := h
    exact ⟨hname, hoptional, hrest⟩
  · rintro ⟨hname, hoptional, hrest⟩
    rw [ofMembers, hname, hoptional, hrest]
    rfl

/-- Its uninterpreted members belong to no field. -/
def Sound (r : BundleRef) : Prop := Members.Foreign fields r.extra

/-- A sound reference reads back. -/
theorem Sound.readsBack (h : r.Sound) : ReadsBack read dump r := by
  have hw : r.row.Wf r.extra := ⟨(by decide : fields.Pairwise Field.Apart), h⟩
  refine ⟨rfl, ?_⟩
  rw [dump_eq]
  refine ofMembers_eq_ok_iff.2 ⟨?_, ?_, hw.rest⟩
  · exact hw.required (by simp [row]) (.text r.name)
  · exact hw.optional (by simp [row]) fun b _ ↦ .flag b

/-- No field is spelled the other way: there is none that could be. -/
def isCanonical : Value → Bool := Value.isCanonical fields []

theorem sound_of_read (hc : isCanonical v = true) (h : read v = .ok r) : r.Sound := by
  obtain ⟨o, rfl, ho⟩ := Reader.object_eq_ok_iff.1 h
  obtain ⟨-, -, hrest⟩ := ofMembers_eq_ok_iff.1 ho
  rw [Sound, ← hrest]
  exact Members.foreign_rest (Value.members_of_isCanonical hc)

end BundleRef

namespace EnvFromSource

variable {s : EnvFromSource}

/-- A source as a row. -/
def row (s : EnvFromSource) : Row :=
  [(prefixField, s.keyPrefix.map .str), (configMapField, s.configMapRef.map BundleRef.dump),
   (secretField, s.secretRef.map BundleRef.dump)]

theorem dump_eq (s : EnvFromSource) : s.dump = .obj (s.row.members ++ s.extra) := by
  simp [dump, row, Row.members]

theorem ofMembers_eq_ok_iff : ofMembers o = .ok s ↔
    prefixField.optional .text o = .ok s.keyPrefix ∧
      configMapField.optional BundleRef.read o = .ok s.configMapRef ∧
      secretField.optional BundleRef.read o = .ok s.secretRef ∧ o.rest fields = s.extra := by
  constructor
  · intro h
    simp only [ofMembers, seq_eq_ok_iff, map_eq_ok_iff, pure_eq, Checked.ok.injEq] at h
    obtain ⟨_, _, ⟨_, _, ⟨_, _, ⟨_, hstart, rfl⟩, hmap, rfl⟩, hsecret, rfl⟩, hrest, rfl⟩ := h
    exact ⟨hstart, hmap, hsecret, hrest⟩
  · rintro ⟨hstart, hmap, hsecret, hrest⟩
    rw [ofMembers, hstart, hmap, hsecret, hrest]
    rfl

/-- Its uninterpreted members belong to no field, and its references are sound. -/
structure Sound (s : EnvFromSource) : Prop where
  configMapRef : ∀ r ∈ s.configMapRef, r.Sound
  secretRef : ∀ r ∈ s.secretRef, r.Sound
  extra : Members.Foreign fields s.extra

/-- A sound source reads back. -/
theorem Sound.readsBack (h : s.Sound) : ReadsBack read dump s := by
  have hw : s.row.Wf s.extra := ⟨(by decide : fields.Pairwise Field.Apart), h.extra⟩
  refine ⟨rfl, ?_⟩
  rw [dump_eq]
  refine ofMembers_eq_ok_iff.2 ⟨?_, ?_, ?_, hw.rest⟩
  · exact hw.optional (by simp [row]) fun s _ ↦ .text s
  · exact hw.optional (by simp [row]) fun r hr ↦ (h.configMapRef r hr).readsBack
  · exact hw.optional (by simp [row]) fun r hr ↦ (h.secretRef r hr).readsBack

/-- No field is spelled the other way, in the references neither. -/
def isCanonical : Value → Bool :=
  Value.isCanonical fields
    [(configMapField, BundleRef.isCanonical), (secretField, BundleRef.isCanonical)]

theorem sound_of_read (hc : isCanonical v = true) (h : read v = .ok s) : s.Sound := by
  obtain ⟨o, rfl, ho⟩ := Reader.object_eq_ok_iff.1 h
  obtain ⟨-, hmap, hsecret, hrest⟩ := ofMembers_eq_ok_iff.1 ho
  refine ⟨?_, ?_, ?_⟩
  · exact Value.forall_of_optional hc (by simp) BundleRef.sound_of_read hmap
  · exact Value.forall_of_optional hc (by simp) BundleRef.sound_of_read hsecret
  · rw [← hrest]
    exact Members.foreign_rest (Value.members_of_isCanonical hc)

end EnvFromSource

/-! ### Security settings -/

namespace SecurityContext

variable {s : SecurityContext}

/-- Security settings as a row. -/
def row (s : SecurityContext) : Row :=
  [(nonRootField, s.runAsNonRoot.map .bool), (userField, s.runAsUser.map .int)]

theorem dump_eq (s : SecurityContext) : s.dump = .obj (s.row.members ++ s.extra) := by
  simp [dump, row, Row.members]

theorem ofMembers_eq_ok_iff : ofMembers o = .ok s ↔
    nonRootField.optional .flag o = .ok s.runAsNonRoot ∧
      userField.optional .integer o = .ok s.runAsUser ∧ o.rest fields = s.extra := by
  constructor
  · intro h
    simp only [ofMembers, seq_eq_ok_iff, map_eq_ok_iff, pure_eq, Checked.ok.injEq] at h
    obtain ⟨_, _, ⟨_, _, ⟨_, hroot, rfl⟩, huser, rfl⟩, hrest, rfl⟩ := h
    exact ⟨hroot, huser, hrest⟩
  · rintro ⟨hroot, huser, hrest⟩
    rw [ofMembers, hroot, huser, hrest]
    rfl

/-- Its uninterpreted members belong to no field. -/
def Sound (s : SecurityContext) : Prop := Members.Foreign fields s.extra

/-- Sound security settings read back. -/
theorem Sound.readsBack (h : s.Sound) : ReadsBack read dump s := by
  have hw : s.row.Wf s.extra := ⟨(by decide : fields.Pairwise Field.Apart), h⟩
  refine ⟨rfl, ?_⟩
  rw [dump_eq]
  refine ofMembers_eq_ok_iff.2 ⟨?_, ?_, hw.rest⟩
  · exact hw.optional (by simp [row]) fun b _ ↦ .flag b
  · exact hw.optional (by simp [row]) fun i _ ↦ .integer i

/-- No field is spelled the other way. -/
def isCanonical : Value → Bool := Value.isCanonical fields []

theorem sound_of_read (hc : isCanonical v = true) (h : read v = .ok s) : s.Sound := by
  obtain ⟨o, rfl, ho⟩ := Reader.object_eq_ok_iff.1 h
  obtain ⟨-, -, hrest⟩ := ofMembers_eq_ok_iff.1 ho
  rw [Sound, ← hrest]
  exact Members.foreign_rest (Value.members_of_isCanonical hc)

end SecurityContext

/-! ### Volumes -/

namespace VolumeMount

variable {m : VolumeMount}

/-- A mount as a row. -/
def row (m : VolumeMount) : Row :=
  [(nameField, some (.str m.name)), (mountPathField, some (.str m.mountPath))]

theorem dump_eq (m : VolumeMount) : m.dump = .obj (m.row.members ++ m.extra) := by
  simp [dump, row, Row.members, Field.write?]

theorem ofMembers_eq_ok_iff : ofMembers o = .ok m ↔
    nameField.required .text o = .ok m.name ∧ mountPathField.required .text o = .ok m.mountPath ∧
      o.rest fields = m.extra := by
  constructor
  · intro h
    simp only [ofMembers, seq_eq_ok_iff, map_eq_ok_iff, pure_eq, Checked.ok.injEq] at h
    obtain ⟨_, _, ⟨_, _, ⟨_, hname, rfl⟩, hpath, rfl⟩, hrest, rfl⟩ := h
    exact ⟨hname, hpath, hrest⟩
  · rintro ⟨hname, hpath, hrest⟩
    rw [ofMembers, hname, hpath, hrest]
    rfl

/-- Its uninterpreted members belong to no field. -/
def Sound (m : VolumeMount) : Prop := Members.Foreign fields m.extra

/-- A sound mount reads back. -/
theorem Sound.readsBack (h : m.Sound) : ReadsBack read dump m := by
  have hw : m.row.Wf m.extra := ⟨(by decide : fields.Pairwise Field.Apart), h⟩
  refine ⟨rfl, ?_⟩
  rw [dump_eq]
  refine ofMembers_eq_ok_iff.2 ⟨?_, ?_, hw.rest⟩
  · exact hw.required (by simp [row]) (.text m.name)
  · exact hw.required (by simp [row]) (.text m.mountPath)

/-- No field is spelled the other way. -/
def isCanonical : Value → Bool := Value.isCanonical fields []

theorem sound_of_read (hc : isCanonical v = true) (h : read v = .ok m) : m.Sound := by
  obtain ⟨o, rfl, ho⟩ := Reader.object_eq_ok_iff.1 h
  obtain ⟨-, -, hrest⟩ := ofMembers_eq_ok_iff.1 ho
  rw [Sound, ← hrest]
  exact Members.foreign_rest (Value.members_of_isCanonical hc)

end VolumeMount

namespace Volume

variable {w : Volume}

/-- A volume as a row. -/
def row (w : Volume) : Row :=
  [(nameField, some (.str w.name)), (emptyDirField, w.emptyDir.map .obj)]

theorem dump_eq (w : Volume) : w.dump = .obj (w.row.members ++ w.extra) := by
  simp [dump, row, Row.members, Field.write?]

theorem ofMembers_eq_ok_iff : ofMembers o = .ok w ↔
    nameField.required .text o = .ok w.name ∧
      emptyDirField.optional .freeMap o = .ok w.emptyDir ∧ o.rest fields = w.extra := by
  constructor
  · intro h
    simp only [ofMembers, seq_eq_ok_iff, map_eq_ok_iff, pure_eq, Checked.ok.injEq] at h
    obtain ⟨_, _, ⟨_, _, ⟨_, hname, rfl⟩, hdir, rfl⟩, hrest, rfl⟩ := h
    exact ⟨hname, hdir, hrest⟩
  · rintro ⟨hname, hdir, hrest⟩
    rw [ofMembers, hname, hdir, hrest]
    rfl

/-- Its uninterpreted members belong to no field. -/
def Sound (w : Volume) : Prop := Members.Foreign fields w.extra

/-- A sound volume reads back. -/
theorem Sound.readsBack (h : w.Sound) : ReadsBack read dump w := by
  have hw : w.row.Wf w.extra := ⟨(by decide : fields.Pairwise Field.Apart), h⟩
  refine ⟨rfl, ?_⟩
  rw [dump_eq]
  refine ofMembers_eq_ok_iff.2 ⟨?_, ?_, hw.rest⟩
  · exact hw.required (by simp [row]) (.text w.name)
  · exact hw.optional (by simp [row]) fun ms _ ↦ .freeMap ms

/-- No field is spelled the other way. -/
def isCanonical : Value → Bool := Value.isCanonical fields []

theorem sound_of_read (hc : isCanonical v = true) (h : read v = .ok w) : w.Sound := by
  obtain ⟨o, rfl, ho⟩ := Reader.object_eq_ok_iff.1 h
  obtain ⟨-, -, hrest⟩ := ofMembers_eq_ok_iff.1 ho
  rw [Sound, ← hrest]
  exact Members.foreign_rest (Value.members_of_isCanonical hc)

end Volume

/-! ### Containers -/

namespace Container

variable {c : Container}

/-- A container as a row. -/
def row (c : Container) : Row :=
  [(nameField, some (.str c.name)), (imageField, c.image.map .str),
   (commandField, c.command.map .ofTexts), (envField, some (.arr (c.env.map EnvVar.dump))),
   (envFromField, some (.arr (c.envFrom.map EnvFromSource.dump))),
   (volumeMountsField, some (.arr (c.volumeMounts.map VolumeMount.dump))),
   (resourcesField, c.resources.map .obj),
   (securityContextField, c.securityContext.map SecurityContext.dump)]

theorem dump_eq (c : Container) : c.dump = .obj (c.row.members ++ c.extra) := by
  simp [dump, row, Row.members, Field.write?]

theorem ofMembers_eq_ok_iff : ofMembers o = .ok c ↔
    nameField.required .text o = .ok c.name ∧ imageField.optional .text o = .ok c.image ∧
      commandField.optional (.list .text) o = .ok c.command ∧
      envField.orElse [] (.list EnvVar.read) o = .ok c.env ∧
      envFromField.orElse [] (.list EnvFromSource.read) o = .ok c.envFrom ∧
      volumeMountsField.orElse [] (.list VolumeMount.read) o = .ok c.volumeMounts ∧
      resourcesField.optional .freeMap o = .ok c.resources ∧
      securityContextField.optional SecurityContext.read o = .ok c.securityContext ∧
      o.rest fields = c.extra := by
  constructor
  · intro h
    simp only [ofMembers, seq_eq_ok_iff, map_eq_ok_iff, pure_eq, Checked.ok.injEq] at h
    obtain ⟨_, _, ⟨_, _, ⟨_, _, ⟨_, _, ⟨_, _, ⟨_, _, ⟨_, _, ⟨_, _, ⟨_, hname, rfl⟩, himage, rfl⟩,
      hcommand, rfl⟩, henv, rfl⟩, hfrom, rfl⟩, hmounts, rfl⟩, hresources, rfl⟩, hsecurity, rfl⟩,
      hrest, rfl⟩ := h
    exact ⟨hname, himage, hcommand, henv, hfrom, hmounts, hresources, hsecurity, hrest⟩
  · rintro ⟨hname, himage, hcommand, henv, hfrom, hmounts, hresources, hsecurity, hrest⟩
    rw [ofMembers, hname, himage, hcommand, henv, hfrom, hmounts, hresources, hsecurity, hrest]
    rfl

/-- Its uninterpreted members belong to no field, and its parts are sound. -/
structure Sound (c : Container) : Prop where
  env : ∀ e ∈ c.env, e.Sound
  envFrom : ∀ s ∈ c.envFrom, s.Sound
  volumeMounts : ∀ m ∈ c.volumeMounts, m.Sound
  securityContext : ∀ s ∈ c.securityContext, s.Sound
  extra : Members.Foreign fields c.extra

/-- **A sound container reads back.** -/
theorem Sound.readsBack (h : c.Sound) : ReadsBack read dump c := by
  have hw : c.row.Wf c.extra := ⟨(by decide : fields.Pairwise Field.Apart), h.extra⟩
  refine ⟨rfl, ?_⟩
  rw [dump_eq]
  refine ofMembers_eq_ok_iff.2 ⟨?_, ?_, ?_, ?_, ?_, ?_, ?_, ?_, hw.rest⟩
  · exact hw.required (by simp [row]) (.text c.name)
  · exact hw.optional (by simp [row]) fun s _ ↦ .text s
  · exact hw.optional (by simp [row]) fun ss _ ↦ .texts ss
  · exact hw.orElse (by simp [row]) (.list fun e he ↦ (h.env e he).readsBack)
  · exact hw.orElse (by simp [row]) (.list fun s hs ↦ (h.envFrom s hs).readsBack)
  · exact hw.orElse (by simp [row]) (.list fun m hm ↦ (h.volumeMounts m hm).readsBack)
  · exact hw.optional (by simp [row]) fun ms _ ↦ .freeMap ms
  · exact hw.optional (by simp [row]) fun s hs ↦ (h.securityContext s hs).readsBack

/-- No field is spelled the other way, in the parts neither. -/
def isCanonical : Value → Bool :=
  Value.isCanonical fields
    [(envField, Value.each EnvVar.isCanonical),
     (envFromField, Value.each EnvFromSource.isCanonical),
     (volumeMountsField, Value.each VolumeMount.isCanonical),
     (securityContextField, SecurityContext.isCanonical)]

theorem sound_of_read (hc : isCanonical v = true) (h : read v = .ok c) : c.Sound := by
  obtain ⟨o, rfl, ho⟩ := Reader.object_eq_ok_iff.1 h
  obtain ⟨-, -, -, henv, hfrom, hmounts, -, hsecurity, hrest⟩ := ofMembers_eq_ok_iff.1 ho
  refine ⟨?_, ?_, ?_, ?_, ?_⟩
  · exact Value.forall_of_list hc (by simp) EnvVar.sound_of_read henv
  · exact Value.forall_of_list hc (by simp) EnvFromSource.sound_of_read hfrom
  · exact Value.forall_of_list hc (by simp) VolumeMount.sound_of_read hmounts
  · exact Value.forall_of_optional hc (by simp) SecurityContext.sound_of_read hsecurity
  · rw [← hrest]
    exact Members.foreign_rest (Value.members_of_isCanonical hc)

end Container

end AgentGraft
