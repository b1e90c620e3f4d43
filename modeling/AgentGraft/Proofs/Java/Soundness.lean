import AgentGraft.Proofs.Java.Variables
import AgentGraft.Proofs.Manifest.Pods

/-!
# What an injection adds can be written

Nothing that an injection adds has uninterpreted members of its own, save the proposed variables,
which come from the settings. So where these are sound an injection keeps a pod sound.
-/

namespace AgentGraft

/-! ### Settings -/

namespace JavaSpec

variable {v : Value} {spec : JavaSpec}

/-- The proposed variables are sound. -/
def Sound (spec : JavaSpec) : Prop := ∀ e ∈ spec.env, e.Sound

/-- **No field is spelled the other way** in what the proposed variables were read from. Of the
parts of settings only these are objects of manifests. -/
def IsCanonical (spec : JavaSpec) : Prop :=
  ∀ e ∈ spec.env, ∃ v, EnvVar.isCanonical v = true ∧ EnvVar.read v = .ok e

theorem IsCanonical.sound (h : spec.IsCanonical) : spec.Sound := by
  intro e he
  obtain ⟨v, hc, hread⟩ := h e he
  exact EnvVar.sound_of_read hc hread

/-- Settings are canonical when the value that they are read from is. -/
theorem isCanonical_of_read
    (hc : Value.isCanonical [] [(envField, Value.each EnvVar.isCanonical)] v = true)
    (h : read v = .ok spec) : spec.IsCanonical := by
  obtain ⟨o, rfl, ho⟩ := Reader.object_eq_ok_iff.1 h
  simp only [ofMembers, Checked.seq_eq_ok_iff, Checked.map_eq_ok_iff] at ho
  obtain ⟨_, _, ⟨_, _, ⟨_, _, ⟨_, _, ⟨_, -, rfl⟩, henv, rfl⟩, -, rfl⟩, -, rfl⟩, -, rfl⟩ := ho
  exact Value.forall_of_list hc (List.mem_cons_self ..) (fun hc hread ↦ ⟨_, hc, hread⟩) henv

/-- The built-in settings are canonical. -/
theorem isCanonical_builtin (d : Deployment) : (builtin d).IsCanonical := by
  intro e he
  obtain ⟨⟨name, value⟩, -, rfl⟩ := List.mem_map.1 he
  have hsound : (EnvVar.literal name value).Sound := Members.foreign_nil _
  exact ⟨(EnvVar.literal name value).dump, rfl, hsound.readsBack.eq_ok⟩

end JavaSpec

namespace Java

variable {c : Config} {spec : JavaSpec} {pod : Pod} {view env : List EnvVar}

/-! ### Variables -/

/-- Options with the agent keep the uninterpreted members that they had. -/
theorem sound_withOptions (h : ∀ e ∈ env, e.Sound) : ∀ e ∈ withOptions view env, e.Sound := by
  intro e he
  rw [withOptions] at he
  split at he
  · rcases exists_of_mem_updateFirst he with he | ⟨e', hfind, rfl⟩
    · exact h e he
    · exact h e' (Env.mem_of_find?_eq_some hfind).1
  · rcases List.mem_append.1 he with he | he
    · exact h e he
    · rw [List.mem_singleton.1 he]
      exact Members.foreign_nil _

theorem sound_withMarker (h : ∀ e ∈ env, e.Sound) : ∀ e ∈ withMarker c env, e.Sound := by
  intro e he
  rw [withMarker] at he
  split at he
  · exact h e he
  · rcases List.mem_append.1 he with he | he
    · exact h e he
    · rw [List.mem_singleton.1 he]
      exact Members.foreign_nil _

theorem sound_injectEnv (hspec : spec.Sound) (h : ∀ e ∈ env, e.Sound) :
    ∀ e ∈ injectEnv c spec view env, e.Sound := by
  refine sound_withMarker (sound_withOptions fun e he ↦ ?_)
  rcases List.mem_append.1 he with he | he
  · exact h e he
  · exact hspec e (mem_of_mem_admitted he)

/-! ### Containers and volumes -/

theorem sound_mount : mount.Sound := Members.foreign_nil _

theorem sound_injectContainer {container : Container} (hspec : spec.Sound)
    (h : container.Sound) : (injectContainer c spec view container).Sound where
  env := sound_injectEnv hspec h.env
  envFrom := h.envFrom
  volumeMounts m hm := by
    rcases List.mem_append.1 hm with hm | hm
    · exact h.volumeMounts m hm
    · exact List.mem_singleton.1 hm ▸ sound_mount
  securityContext := h.securityContext
  extra := h.extra

/-- The security settings of the init container are two fields and no more. -/
theorem sound_initSecurity : ∀ s ∈ initSecurity c pod, s.Sound := by
  intro s hs
  rw [initSecurity] at hs
  split at hs
  · cases hs
  · split at hs
    · cases hs
    · split at hs
      · cases hs
        exact Members.foreign_nil _
      · cases hs

theorem sound_initContainer : (initContainer c spec pod).Sound where
  env := nofun
  envFrom := nofun
  volumeMounts _ hm := List.mem_singleton.1 hm ▸ sound_mount
  securityContext := sound_initSecurity
  extra := Members.foreign_nil _

/-! ### Pods -/

theorem sound_setContainer {container : Container} (h : pod.spec.Sound) (hc : container.Sound)
    (i : Nat) : (setContainer pod i container).spec.Sound where
  containers c hmem := by
    rcases List.mem_or_eq_of_mem_set hmem with hmem | rfl
    · exact h.containers c hmem
    · exact hc
  initContainers := h.initContainers
  volumes := h.volumes

/-- **The artefacts are sound.** -/
theorem sound_withArtefacts (h : pod.spec.Sound) : (withArtefacts c spec pod).spec.Sound := by
  rw [withArtefacts]
  split
  · refine ⟨h.containers, fun c hc ↦ ?_, fun v hv ↦ ?_⟩
    · rcases List.mem_append.1 hc with hc | hc
      · exact h.initContainers c hc
      · exact List.mem_singleton.1 hc ▸ sound_initContainer
    · rcases List.mem_append.1 hv with hv | hv
      · exact h.volumes v hv
      · exact List.mem_singleton.1 hv ▸ Members.foreign_nil _
  · exact h

end Java

end AgentGraft
