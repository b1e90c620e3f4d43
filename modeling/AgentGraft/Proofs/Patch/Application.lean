import AgentGraft.Patch
import AgentGraft.Proofs.Manifest.Pods
import AgentGraft.Proofs.Value.Likeness

/-!
# Patches applied to documents

An operation of a patch sets one list in the specification of a document. Where the document is read
as a pod, the document afterwards is read as that pod with that one list taken from the pod that the
patch leads to, and everything outside the list stays in its place. `Describes` is what one
operation needs and preserves, so the same holds of operations one after the other, by induction.
-/

namespace AgentGraft

variable {fields : List Field} {o : Members} {v : Value} {f g : Field}

/-! ### Fields after a member was put in -/

namespace Members

theorem isCanonical_put (hfields : fields.Pairwise Field.Apart) (hf : f ∈ fields)
    (h : isCanonical fields o = true) : isCanonical fields (o.put f.name v) = true := by
  refine List.all_eq_true.2 fun m hm ↦ ?_
  rcases mem_put hm with rfl | hm
  · refine List.all_eq_true.2 fun g hg ↦ ?_
    rw [Bool.or_eq_true, beq_iff_eq, bne_iff_ne]
    -- of another field the name is no spelling, of its own it is not the other one
    by_cases hfg : f = g
    · exact or_iff_not_imp_left.2 fun hone ↦ hfg ▸ fun heq ↦ hone (hfg ▸ heq.symm)
    · exact .inr (hfields.forall hf hg hfg).2.1
  · exact List.all_eq_true.1 h m hm

/-- In a canonical object what is left over does not depend on the rest of it. -/
theorem rest_eq_filter (h : isCanonical fields o = true) :
    o.rest fields = o.filter fun m ↦ !m.2.isNull && !fields.any (·.spells m.1) := by
  refine List.filter_congr fun m hm ↦ ?_
  have hany : fields.any (·.reads o m.1) = fields.any (·.spells m.1) := by
    rw [Bool.eq_iff_iff, List.any_eq_true, List.any_eq_true]
    exact exists_congr fun f ↦ and_congr_right fun hf ↦ by rw [reads_eq_spells h hm hf]
  rw [hany]

/-- Putting a field in leaves the same members over. -/
theorem rest_put (hfields : fields.Pairwise Field.Apart) (hf : f ∈ fields)
    (h : isCanonical fields o = true) : (o.put f.name v).rest fields = o.rest fields := by
  rw [rest_eq_filter h, rest_eq_filter (isCanonical_put hfields hf h)]
  refine filter_put fun w ↦ ?_
  have hspells : fields.any (·.spells f.name) = true :=
    List.any_eq_true.2 ⟨f, hf, by simp [Field.spells]⟩
  simp [hspells]

end Members

namespace Field

variable {α : Type} {read : Reader α} {d a : α}

theorem find?_put_self (f : Field) : f.find? (o.put f.name v) = some v := by
  rw [find?, Members.find?_put_self, Option.some_or]

theorem find?_put_of_apart (h : f.Apart g) : f.find? (o.put g.name v) = f.find? o := by
  rw [find?, find?, Members.find?_put_of_ne h.1, Members.find?_put_of_ne h.2.2.1]

theorem orElse_put_self {dump : α → Value} (h : ReadsBack read dump a) :
    f.orElse d read (o.put f.name (dump a)) = .ok a := by
  simp [orElse, find?_put_self, h.eq_ok]

theorem orElse_put_of_apart (h : f.Apart g) :
    f.orElse d read (o.put g.name v) = f.orElse d read o := by
  rw [orElse, orElse, find?_put_of_apart h]

theorem optional_put_of_apart (h : f.Apart g) :
    f.optional read (o.put g.name v) = f.optional read o := by
  rw [optional, optional, find?_put_of_apart h]

end Field

/-! ### One list of a specification -/

namespace SpecList

/-- The specification with a list taken from another one. -/
def take (after : PodSpec) : SpecList → PodSpec → PodSpec
  | .containers, s => { s with containers := after.containers }
  | .initContainers, s => { s with initContainers := after.initContainers }
  | .volumes, s => { s with volumes := after.volumes }

variable {after s : PodSpec}

/-- **A specification with a list put in** is read as the one that has this list. -/
theorem ofMembers_put (l : SpecList) (hc : Members.isCanonical PodSpec.fields o = true)
    (h : PodSpec.ofMembers o = .ok s) (hafter : after.Sound) :
    PodSpec.ofMembers (o.put l.key (l.value after)) = .ok (l.take after s) := by
  have hrest : (o.put l.key (l.value after)).rest PodSpec.fields = o.rest PodSpec.fields := by
    cases l <;> exact Members.rest_put (by decide) (by decide) hc
  obtain ⟨hcontainers, hinit, hvolumes, hsecurity, hnode, hextra⟩ :=
    PodSpec.ofMembers_eq_ok_iff.1 h
  cases l with
  | containers =>
    refine PodSpec.ofMembers_eq_ok_iff.2 ⟨?_, ?_, ?_, ?_, ?_, hrest.trans hextra⟩
    · exact Field.orElse_put_self (.list fun c hc ↦ (hafter.containers c hc).readsBack)
    · exact (Field.orElse_put_of_apart (by decide)).trans hinit
    · exact (Field.orElse_put_of_apart (by decide)).trans hvolumes
    · exact (Field.optional_put_of_apart (by decide)).trans hsecurity
    · exact (Field.optional_put_of_apart (by decide)).trans hnode
  | initContainers =>
    refine PodSpec.ofMembers_eq_ok_iff.2 ⟨?_, ?_, ?_, ?_, ?_, hrest.trans hextra⟩
    · exact (Field.orElse_put_of_apart (by decide)).trans hcontainers
    · exact Field.orElse_put_self (.list fun c hc ↦ (hafter.initContainers c hc).readsBack)
    · exact (Field.orElse_put_of_apart (by decide)).trans hvolumes
    · exact (Field.optional_put_of_apart (by decide)).trans hsecurity
    · exact (Field.optional_put_of_apart (by decide)).trans hnode
  | volumes =>
    refine PodSpec.ofMembers_eq_ok_iff.2 ⟨?_, ?_, ?_, ?_, ?_, hrest.trans hextra⟩
    · exact (Field.orElse_put_of_apart (by decide)).trans hcontainers
    · exact (Field.orElse_put_of_apart (by decide)).trans hinit
    · exact Field.orElse_put_self (.list fun w hw ↦ (hafter.volumes w hw).readsBack)
    · exact (Field.optional_put_of_apart (by decide)).trans hsecurity
    · exact (Field.optional_put_of_apart (by decide)).trans hnode

/-- The operation that sets a list to that of a specification. -/
def operation (after : PodSpec) (l : SpecList) : Operation :=
  ⟨[Pod.specField.name], l.key, l.value after⟩

theorem key_inj {l l' : SpecList} : l.key = l'.key ↔ l = l' := by
  cases l <;> cases l' <;> decide

/-- An operation can be applied wherever there is a specification. -/
theorem applied_operation {t : Members} (ht : o.find? Pod.specField.name = some (.obj t))
    (after : PodSpec) (l : SpecList) : (l.operation after).applied (.obj o) =
      some (.obj (o.put Pod.specField.name (.obj (t.put l.key (l.value after))))) := by
  simp [Operation.applied, operation, Operation.set?, ht]

/-- **Operations in any document**: outside the specification every member is found as before, and
in the specification the lists that are set are found, and the other ones as before. -/
theorem exists_applied_map {t : Members} (ht : o.find? Pod.specField.name = some (.obj t))
    (after : PodSpec) (ls : List SpecList) : ∃ o' t' : Members,
      Patch.applied (ls.map (·.operation after)) (.obj o) = some (.obj o') ∧
      (∀ key, key ≠ Pod.specField.name → o'.find? key = o.find? key) ∧
      o'.find? Pod.specField.name = some (.obj t') ∧
      ∀ l : SpecList, t'.find? l.key = if l ∈ ls then some (l.value after) else t.find? l.key := by
  induction ls generalizing o t with
  | nil => exact ⟨o, t, rfl, fun _ _ ↦ rfl, ht, fun l ↦ (if_neg List.not_mem_nil).symm⟩
  | cons l ls ih =>
    obtain ⟨o', t', happlied, houtside, ht', hlists⟩ :=
      ih (Members.find?_put_self Pod.specField.name (.obj (t.put l.key (l.value after))) o)
    refine ⟨o', t', ?_, fun key hkey ↦ ?_, ht', fun l' ↦ ?_⟩
    · rw [List.map_cons, Patch.applied, applied_operation ht, Option.bind_some, happlied]
    · rw [houtside key hkey, Members.find?_put_of_ne hkey]
    · rw [hlists]
      by_cases hl : l' = l
      · rw [hl, if_pos (List.mem_cons_self ..), Members.find?_put_self, ite_self]
      · rw [Members.find?_put_of_ne (mt key_inj.1 hl)]
        simp only [List.mem_cons, hl, false_or]

/-- Taking several lists, one after the other. -/
theorem foldl_take (ls : List SpecList) (s : PodSpec) :
    ls.foldl (fun s l ↦ l.take after s) s =
      { s with
        containers := if .containers ∈ ls then after.containers else s.containers
        initContainers := if .initContainers ∈ ls then after.initContainers else s.initContainers
        volumes := if .volumes ∈ ls then after.volumes else s.volumes } := by
  induction ls generalizing s with
  | nil => rfl
  | cons l ls ih =>
    rw [List.foldl_cons, ih]
    cases l <;> simp [take]

end SpecList

/-! ### Documents -/

/-- A value without the lists that patches set. -/
def Value.withoutLists : Value → Value
  | .obj s => .obj (s.filter fun m ↦ !SpecList.all.any (·.key == m.1))
  | v => v

/-- A document without the lists that patches set in its specification. -/
def Members.withoutLists (o : Members) : Members :=
  o.map fun m ↦ if m.1 = Pod.specField.name then (m.1, m.2.withoutLists) else m

theorem Members.withoutLists_put {w : Value} (hv : o.find? Pod.specField.name = some v)
    (h : w.withoutLists = v.withoutLists) :
    (o.put Pod.specField.name w).withoutLists = o.withoutLists := by
  induction o with
  | nil => cases hv
  | cons m o ih =>
    obtain ⟨k, u⟩ := m
    rw [Members.find?_cons] at hv
    rw [put]
    split
    · next hk =>
      rw [if_pos hk.symm] at hv
      cases hv
      simp [withoutLists, hk, h]
    · next hk =>
      rw [if_neg fun heq ↦ hk heq.symm] at hv
      rw [withoutLists, withoutLists, List.map_cons, List.map_cons]
      exact congrArg _ (ih hv)

/-- The document has a specification in which no field is spelled the other way, and it is read as
the pod. -/
structure Describes (o : Members) (pod : Pod) : Prop where
  read : Pod.ofMembers o = .ok pod
  spec : ∃ s : Members, o.find? Pod.specField.name = some (.obj s) ∧
    Members.isCanonical PodSpec.fields s = true

namespace Describes

variable {pod : Pod} {after : PodSpec}

/-- The members of a pod have one spelling each. -/
theorem isCanonical_fields (o : Members) : Members.isCanonical Pod.fields o = true := by
  simp [Members.isCanonical, Pod.fields, Pod.metadataField, Pod.specField, Field.plain]

/-- **One operation** can be applied, and sets its list and nothing else. -/
theorem applied (h : Describes o pod) (hafter : after.Sound) (l : SpecList) :
    ∃ o' : Members, (l.operation after).applied (.obj o) = some (.obj o') ∧
      Describes o' { pod with spec := l.take after pod.spec } ∧
      o'.withoutLists = o.withoutLists := by
  obtain ⟨s, hs, hcanonical⟩ := h.spec
  have hread : PodSpec.ofMembers s = .ok pod.spec := by
    rcases Pod.spec_of_ofMembers h.read with ⟨hnone, -⟩ | ⟨s', hs', hread⟩
    · rw [hs] at hnone
      cases hnone
    · rw [hs] at hs'
      cases hs'
      exact hread
  obtain ⟨hmeta, -, hextra⟩ := Pod.ofMembers_eq_ok_iff.1 h.read
  refine ⟨o.put Pod.specField.name (.obj (s.put l.key (l.value after))), ?_, ⟨?_, ?_⟩, ?_⟩
  · exact SpecList.applied_operation hs after l
  · refine Pod.ofMembers_eq_ok_iff.2 ⟨?_, ?_, ?_⟩
    · exact (Field.orElse_put_of_apart (by decide)).trans hmeta
    · have hput : PodSpec.read (.obj (s.put l.key (l.value after))) = .ok (l.take after pod.spec) :=
        l.ofMembers_put hcanonical hread hafter
      simp [Field.orElse, Field.find?_put_self, hput]
    · exact (Members.rest_put (by decide) (by decide) (isCanonical_fields o)).trans hextra
  · refine ⟨_, Members.find?_put_self .., ?_⟩
    cases l <;> exact Members.isCanonical_put (by decide) (by decide) hcanonical
  · have hkey : SpecList.all.any (·.key == l.key) = true := by cases l <;> decide
    exact Members.withoutLists_put hs (congrArg Value.obj (Members.filter_put (by simp [hkey])))

/-- **Several operations**, one after the other, set their lists and nothing else. -/
theorem applied_map (h : Describes o pod) (hafter : after.Sound) (ls : List SpecList) :
    ∃ o' : Members, Patch.applied (ls.map (·.operation after)) (.obj o) = some (.obj o') ∧
      Describes o' { pod with spec := ls.foldl (fun s l ↦ l.take after s) pod.spec } ∧
      o'.withoutLists = o.withoutLists := by
  induction ls generalizing o pod with
  | nil => exact ⟨o, rfl, h, rfl⟩
  | cons l ls ih =>
    obtain ⟨o₁, happ, h₁, hsame₁⟩ := h.applied hafter l
    obtain ⟨o₂, happs, h₂, hsame₂⟩ := ih h₁
    refine ⟨o₂, ?_, h₂, hsame₂.trans hsame₁⟩
    rw [List.map_cons, Patch.applied, happ, Option.bind_some, happs]

end Describes

end AgentGraft
