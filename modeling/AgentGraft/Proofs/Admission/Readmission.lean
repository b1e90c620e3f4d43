import AgentGraft.Proofs.Admission.Verdict
import AgentGraft.Proofs.Mutation.Readmission

/-!
# Admitting a patched pod again

A cluster may ask about a pod again after it was patched. What it asks about then is the document
that the patch was applied to, and nothing is known of how that is spelled: it may have a field
under both spellings, members that are null, or parts that can be read once and not a second time.
Two things are enough to see that nothing more is done. The metadata are outside of what a patch
sets, so the same containers are asked for; and a patch sets the list of init containers, so the
init container of the agent is read wherever the document can be read at all.
-/

namespace AgentGraft

section Patched

variable {c : Config} {store : Store} {pod q : Pod} {is : List Instrumentation}
  {ns : Option String} {deadline : Option Int} {w w' : World}

/-! ### The document after the patch -/

/-- **A mutation that changes a pod** puts the init container of the agent behind the others. -/
theorem Mutator.exists_initContainer_of_mutate
    (hc : javaInitContainerName ∈ c.runtimeInitContainers)
    (h : (ofStore store c).mutate pod is ns deadline w = (.ok q, w')) (hne : q ≠ pod) :
    ∃ spec, q.spec.initContainers = pod.spec.initContainers ++ [Java.initContainer c spec pod] := by
  have hq := eq_foldl_of_mutate_eq_ok h
  obtain ⟨n, l, hl⟩ :=
    List.exists_cons_of_ne_nil (l := (ofStore store c).grafts pod is ns deadline w)
    fun hnil ↦ hne (by rw [hq, hnil, List.foldl_nil])
  have hn : n ∈ (ofStore store c).grafts pod is ns deadline w := hl ▸ List.mem_cons_self ..
  have hlacks := lacksAgent_of_not_isInstrumented hc
    (accepted_of_mem_trace (mem_trace_of_mem_grafts hn).1).2
  exact ⟨n.spec, by rw [hq, hl, (Inspection.foldl_graft_of_lacksAgent hlacks n).1]⟩

/-- So the patch sets the list of init containers. -/
theorem Mutator.not_alike_initContainers_of_mutate
    (hc : javaInitContainerName ∈ c.runtimeInitContainers)
    (h : (ofStore store c).mutate pod is ns deadline w = (.ok q, w')) (hne : q ≠ pod) :
    (SpecList.initContainers.value pod.spec).alike (SpecList.initContainers.value q.spec) =
      false := by
  obtain ⟨spec, hinit⟩ := exists_initContainer_of_mutate hc h hne
  refine Bool.eq_false_iff.2 fun halike ↦ ?_
  have hsame := congrArg PodSpec.initContainers (take_of_alike h .initContainers halike)
  rw [SpecList.take, hinit] at hsame
  simpa using congrArg List.length hsame

/-- Documents with the same metadata are read with the same metadata. -/
theorem Pod.metadata_eq_of_find? {o o' : Members} {pod' : Pod} (hread : Pod.read (.obj o) = .ok pod)
    (hread' : Pod.read (.obj o') = .ok pod')
    (h : o'.find? metadataField.name = o.find? metadataField.name) :
    pod'.metadata = pod.metadata := by
  have hfield : metadataField.find? o' = metadataField.find? o := congrArg₂ Option.or h h
  have hold := (ofMembers_eq_ok_iff.1 hread).1
  have hnew := (ofMembers_eq_ok_iff.1 hread').1
  rw [Field.orElse, hfield] at hnew
  exact Checked.ok.inj (hnew.symm.trans hold)

/-- An init container that is written under the name of the field is read, if it reads back. -/
theorem PodSpec.mem_initContainers_of_find? {t : Members} {s : PodSpec} {k : Container}
    {ks : List Container} (hread : PodSpec.ofMembers t = .ok s)
    (hfind : t.find? initContainersField.name = some (.arr (ks.map Container.dump))) (hk : k ∈ ks)
    (hback : ReadsBack Container.read Container.dump k) : k ∈ s.initContainers := by
  have hfield : initContainersField.find? t = some (.arr (ks.map Container.dump)) := by
    rw [Field.find?, hfind, Option.some_or]
  have hitems := (ofMembers_eq_ok_iff.1 hread).2.1
  rw [Field.orElse, hfield] at hitems
  obtain ⟨k', hk', hread'⟩ := Reader.exists_mem_of_itemsFrom (Checked.under_eq_ok_iff.1 hitems)
    (List.mem_map_of_mem hk)
  have hsame : k' = k := Checked.ok.inj (hread'.symm.trans hback.eq_ok)
  exact hsame ▸ hk'

/-- **The patch of a mutation** can be applied to the document of the pod; and where the document
can still be read afterwards, it has the metadata that it had, and carries the agent. -/
theorem Mutator.exists_applied_between (hc : javaInitContainerName ∈ c.runtimeInitContainers)
    {o : Members} (hread : Pod.read (.obj o) = .ok pod)
    (h : (ofStore store c).mutate pod is ns deadline w = (.ok q, w')) (hne : q ≠ pod) :
    ∃ o' : Members, (Patch.between pod q).applied (.obj o) = some (.obj o') ∧
      ∀ pod', Pod.read (.obj o') = .ok pod' →
        pod'.metadata = pod.metadata ∧ Footprint.isInstrumented c pod' = true := by
  obtain ⟨t, ht⟩ : ∃ t, o.find? Pod.specField.name = some (.obj t) := by
    rcases Pod.spec_of_ofMembers hread with ⟨-, hempty⟩ | ⟨t, ht, -⟩
    · exact absurd hempty (spec_ne_empty h hne)
    · exact ⟨t, ht⟩
  obtain ⟨spec, hinit⟩ := exists_initContainer_of_mutate hc h hne
  rw [Patch.between_eq]
  obtain ⟨o', t', happlied, houtside, ht', hlists⟩ :=
    SpecList.exists_applied_map ht q.spec (SpecList.all.filter fun l ↦
      !(l.value pod.spec).alike (l.value q.spec))
  refine ⟨o', happlied, fun pod' hpod' ↦ ⟨?_, ?_⟩⟩
  · exact Pod.metadata_eq_of_find? hread hpod' (houtside _ (by decide))
  · have hset : SpecList.initContainers ∈ SpecList.all.filter fun l ↦
        !(l.value pod.spec).alike (l.value q.spec) :=
      List.mem_filter.2 ⟨by decide, by rw [not_alike_initContainers_of_mutate hc h hne]; rfl⟩
    have hfind := hlists .initContainers
    rw [if_pos hset] at hfind
    have hspec : PodSpec.ofMembers t' = .ok pod'.spec := by
      rcases Pod.spec_of_ofMembers hpod' with ⟨hnone, -⟩ | ⟨t'', ht'', hspec⟩
      · cases ht'.symm.trans hnone
      · cases ht'.symm.trans ht''
        exact hspec
    have hagent : Java.initContainer c spec pod ∈ q.spec.initContainers := by
      rw [hinit]
      exact List.mem_append_right _ (List.mem_singleton_self _)
    refine isInstrumented_of_present hc
      (List.all_eq_false.2 ⟨Java.initContainer c spec pod, ?_, ?_⟩)
    · exact PodSpec.mem_initContainers_of_find? hspec hfind hagent
        Java.sound_initContainer.readsBack
    · simp [Java.initContainer]

/-! ### The second answer -/

namespace Admission

variable {m : Mutator} {timeout : Int} {spec : JavaSpec} {request : AdmissionRequest}

/-- What cannot be read as a pod is admitted as it is. -/
theorem exists_answer_of_bad {issues : List Issue} (hpod : podOf request = .bad issues)
    (engine : Engine) :
    ∃ lines, answer engine timeout spec request w = (.ok (.admitted []), w.note lines) := by
  rw [podOf] at hpod
  rw [answer, hpod]
  exact ⟨_, rfl⟩

/-- So is a pod that is instrumented already, if its targets can be assigned. -/
theorem exists_answer_of_isInstrumented (hpod : podOf request = .ok pod)
    (hcheck : Targets.check (Targets.listsOf (select spec pod)) = .ok ())
    (hdone : Footprint.isInstrumented m.config pod = true) :
    ∃ lines, answer (engineOf m) timeout spec request w = (.ok (.admitted []), w.note lines) := by
  rw [podOf] at hpod
  rw [answer, hpod]
  dsimp only
  split
  · exact ⟨[], by simp [World.note]⟩
  · obtain ⟨lines, hmutate⟩ := m.mutate_of_isInstrumented (namespaceOf request pod)
      (some (w.clock + timeout)) w hcheck hdone
    rw [mutate, engineOf]
    simp only [hmutate, Except.mapError, Patch.between_self, accept_nil]
    exact ⟨lines ++ _, by simp [World.note]; rfl⟩

/-- Settings have no say in the targets that a pod asks for. -/
theorem listsOf_select {pod' : Pod} (h : pod'.metadata = pod.metadata) (spec spec' : JavaSpec) :
    Targets.listsOf (select spec' pod') = Targets.listsOf (select spec pod) := by
  rw [select, select, wantsJava, wantsJava, h]
  split <;> rfl

/-- **Asked again about what a patch made of its object**, a mutator admits it without a patch, and
does nothing but write to the log. -/
theorem exists_answer_of_patched (hc : javaInitContainerName ∈ c.runtimeInitContainers)
    {o : Members} {patch : Patch} (hobject : request.object = some o)
    (h : (answer (engineOf (.ofStore store c)) timeout spec request w).1 = .ok (.admitted patch))
    (hne : patch ≠ []) :
    ∃ o' : Members, patch.applied (.obj o) = some (.obj o') ∧
      ∀ (store' : Store) (timeout' : Int) (spec' : JavaSpec) (w' : World)
        (request' : AdmissionRequest), request'.object = some o' →
        ∃ lines, answer (engineOf (.ofStore store' c)) timeout' spec' request' w' =
          (.ok (.admitted []), w'.note lines) := by
  rcases hpod : podOf request with pod | issues
  · rw [answer_fst_of_ok hpod] at h
    obtain ⟨q, hpass, rfl⟩ := exists_of_verdictOf_eq h hne
    rw [pass] at hpass
    rcases hmutate : (Mutator.ofStore store c).mutate pod (select spec pod)
      (namespaceOf request pod) (some (w.clock + timeout)) w with ⟨result, w'⟩
    obtain rfl : result = .ok q := (congrArg Prod.fst hmutate).symm.trans hpass
    have hq : q ≠ pod := by
      rintro rfl
      exact hne (Patch.between_self q)
    rw [podOf, hobject, Option.getD_some] at hpod
    obtain ⟨o', happlied, hagain⟩ := Mutator.exists_applied_between hc hpod hmutate hq
    refine ⟨o', happlied, fun store' timeout' spec' w' request' hobject' ↦ ?_⟩
    rcases hpod' : podOf request' with pod' | issues
    · have hread' := hpod'
      rw [podOf, hobject', Option.getD_some] at hread'
      obtain ⟨hmeta, hdone⟩ := hagain pod' hread'
      -- the targets are those that the first pass accepted
      have hcheck : Targets.check (Targets.listsOf (select spec' pod')) = .ok () := by
        rw [listsOf_select hmeta spec spec']
        exact Mutator.check_of_mutate_eq_ok hmutate
      exact exists_answer_of_isInstrumented hpod' hcheck hdone
    · exact exists_answer_of_bad hpod' _
  · rw [answer_fst_of_bad hpod] at h
    cases h
    exact absurd rfl hne

/-- The patch that the members of an answer carry. -/
theorem Verdict.find?_patch (uid : String) (v : Verdict) : (v.response uid).find? "patch" =
    match v with
    | .admitted patch => if patch = [] then none else some (.str (encodePatch patch))
    | .refused _ => none := by
  cases v with
  | admitted patch =>
    rcases patch with - | ⟨op, patch⟩
    · rfl
    · rfl
  | refused message =>
    rw [response, detailMembers, statusMembers]
    split <;> rfl

end Admission

namespace Service

variable {timeout : Int} {spec : JavaSpec} {body : Body} {review : AdmissionReview}
  {request : AdmissionRequest} {o response : Members}

/-- **A pod that was patched is not patched again.** Where the answer to a review carries a patch,
the patch can be applied to the object of the review; and a review of what comes out is answered
with an admission without a patch, in whatever namespace, over whatever store and at whatever time
it is asked, and no bundle is read for it. -/
theorem untouched_of_patched (hreview : body.review = .ok review)
    (hrequest : review.request = some request) (hobject : request.object = some o)
    (hbody :
      (answerBody (Admission.engineOf (.ofStore store .standard)) timeout spec body w).1.body =
      .obj [("apiVersion", .str "admission.k8s.io/v1"), ("kind", .str "AdmissionReview"),
        ("response", .obj response)])
    (hpatch : response.find? "patch" ≠ none) :
    ∃ (patch : Patch) (o' : Members),
      response.find? "patch" = some (.str (Admission.Verdict.encodePatch patch)) ∧
      (answerBody (Admission.engineOf (.ofStore store .standard)) timeout spec body w).1 =
        .verdict request.uid (.admitted patch) ∧
      patch.applied (.obj o) = some (.obj o') ∧
      ∀ (store' : Store) (timeout' : Int) (spec' : JavaSpec) (w' : World) (body' : Body)
        (review' : AdmissionReview) (request' : AdmissionRequest),
        body'.review = .ok review' → review'.request = some request' → request'.object = some o' →
        ∃ response' : Members,
          (answerBody (Admission.engineOf (.ofStore store' .standard)) timeout' spec' body'
            w').1.body =
            .obj [("apiVersion", .str "admission.k8s.io/v1"), ("kind", .str "AdmissionReview"),
              ("response", .obj response')] ∧
          response'.find? "allowed" = some (.bool true) ∧ response'.find? "patch" = none ∧
          (answerBody (Admission.engineOf (.ofStore store' .standard)) timeout' spec' body'
            w').2.reads = w'.reads := by
  rw [answerBody_eq _ timeout spec hreview hrequest] at hbody ⊢
  rcases hverdict : (Admission.answer (Admission.engineOf (.ofStore store .standard)) timeout spec
      request w).1 with lapse | verdict
  · rw [hverdict] at hbody
    cases hbody
  · rw [hverdict] at hbody
    simp only [respondWith, Response.body, Admission.Verdict.review, Value.obj.injEq,
      List.cons.injEq, Prod.mk.injEq, and_true, true_and] at hbody
    obtain ⟨-, -, rfl⟩ := hbody
    rcases verdict with patch | message
    · rw [Admission.Verdict.find?_patch] at hpatch
      have hne : patch ≠ [] := fun hnil ↦ hpatch (if_pos hnil)
      obtain ⟨o', happlied, hagain⟩ :=
        Admission.exists_answer_of_patched (List.mem_cons_self ..) hobject hverdict hne
      refine ⟨patch, o', ?_, rfl, happlied, fun store' timeout' spec' w' body' review' request'
        hreview' hrequest' hobject' ↦ ?_⟩
      · exact (Admission.Verdict.find?_patch ..).trans (if_neg hne)
      · obtain ⟨lines, hanswer⟩ := hagain store' timeout' spec' w' request' hobject'
        rw [answerBody_eq _ timeout' spec' hreview' hrequest', hanswer]
        exact ⟨_, rfl, rfl, rfl, rfl⟩
    · rw [Admission.Verdict.find?_patch] at hpatch
      exact absurd rfl hpatch

end Service

end Patched

/-! ### A document that is read once -/

namespace Sample

/-- A pod that asks for the agent. The variable of its container has a null source and, under the
other spelling, something that is no source. The null is not written again, so that the patched
document cannot be read. -/
def respelled : Members :=
  [("metadata", .obj [("annotations", .obj [(Admission.injectJava, .str "true")])]),
   ("spec", .obj [("containers", .arr [.obj [("name", .str "app"), ("env", .arr
       [.obj [("name", .str "LEVEL"), ("valueFrom", .null), ("value_from", .int 5)]])]]),
     ("init_containers", .arr [.obj [("name", .str "setup")]])])]

/-- The review of a document. -/
def reviewOf (o : Members) : AdmissionReview :=
  ⟨AdmissionReview.version, AdmissionReview.standardKind,
    some ⟨"u-1", some "shop", none, some o, []⟩, none, []⟩

/-- What it is answered with, and what the answer leaves behind. -/
def answerTo (o : Members) : Service.Response × World :=
  Service.answerBody (Admission.engineOf (.ofStore store .standard)) 5 (.builtin .standard)
    (.json (reviewOf o).dump) (.start 0)

/-- The members of the answer. -/
def membersOf : Service.Response → Members
  | .verdict uid v => v.response uid
  | _ => []

/-- The patch that the answer carries. -/
def patchOf : Service.Response → Patch
  | .verdict _ (.admitted patch) => patch
  | _ => []

/-- The document after that patch. -/
def patched : Members :=
  match (patchOf (answerTo respelled).1).applied (.obj respelled) with
  | some (.obj o) => o
  | _ => []

end Sample

/-- It is patched, and asked about again it is admitted without a patch and without a read. -/
theorem untouched_respelled_sample :
    (Sample.patchOf (Sample.answerTo Sample.respelled).1).applied (.obj Sample.respelled) =
      some (.obj Sample.patched) ∧
    (Pod.read (.obj Sample.patched)).toOption = none ∧
    ∃ response : Members, (Sample.answerTo Sample.patched).1.body =
        .obj [("apiVersion", .str "admission.k8s.io/v1"), ("kind", .str "AdmissionReview"),
          ("response", .obj response)] ∧
      response.find? "allowed" = some (.bool true) ∧ response.find? "patch" = none ∧
      (Sample.answerTo Sample.patched).2.reads = [] := by
  have hreview : (Service.Body.json (Sample.reviewOf Sample.respelled).dump).review =
      .ok (Sample.reviewOf Sample.respelled) := by decide +kernel
  have hreview' : (Service.Body.json (Sample.reviewOf Sample.patched).dump).review =
      .ok (Sample.reviewOf Sample.patched) := by decide +kernel
  have hverdict : (Admission.answer (Admission.engineOf (.ofStore Sample.store .standard)) 5
      (.builtin .standard) ⟨"u-1", some "shop", none, some Sample.respelled, []⟩ (.start 0)).1 =
      .ok (.admitted (Sample.patchOf (Sample.answerTo Sample.respelled).1)) := by decide +kernel
  have hanswered : (Sample.answerTo Sample.respelled).1 =
      .verdict "u-1" (.admitted (Sample.patchOf (Sample.answerTo Sample.respelled).1)) := by
    conv_lhs => rw [Sample.answerTo, Service.answerBody_eq _ _ _ hreview rfl, hverdict]
    rfl
  have hbody : (Sample.answerTo Sample.respelled).1.body =
      .obj [("apiVersion", .str "admission.k8s.io/v1"), ("kind", .str "AdmissionReview"),
        ("response", .obj (Sample.membersOf (Sample.answerTo Sample.respelled).1))] := by
    rw [hanswered]
    rfl
  obtain ⟨patch, o', -, hanswer, happlied, hagain⟩ :=
    Service.untouched_of_patched hreview rfl rfl hbody (by decide +kernel)
  have hpatch : Sample.patchOf (Sample.answerTo Sample.respelled).1 = patch :=
    congrArg Sample.patchOf hanswer
  obtain rfl : Sample.patched = o' := by rw [Sample.patched, hpatch, happlied]
  exact ⟨hpatch ▸ happlied, by decide +kernel,
    hagain Sample.store 5 (.builtin .standard) (.start 0) _ _ _ hreview' rfl rfl⟩

end AgentGraft
