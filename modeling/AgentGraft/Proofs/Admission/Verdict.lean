import AgentGraft.Proofs.Mutation.Interruption
import AgentGraft.Proofs.Patch.Transport
import AgentGraft.Proofs.Text.Base64
import AgentGraft.Proofs.Value.Rendering
import AgentGraft.Service

/-!
# Verdicts

What an answer says is decided by three things: whether the object of the request is a pod whose
targets cannot be assigned, `Misassigned`; what the store broke down with, if a read of the pass
did; and how the pass ended otherwise.

The targets are looked at before anything else, so neither the store nor what the pod carries
already has a say in whether they are refused; and as the annotations select one instrumentation at
most, targets that cannot be assigned are targets that are named twice. A breakdown is looked at by
its sort alone. So a pod is refused for its targets, or because the store raised an error that says
so (`Refused`), and there is no verdict on it after a fatal error.

A patch travels as the base64 of its JSON text. Where this text holds all of it, the patch is read
back from the answer (`read_encodePatch`).
-/

namespace AgentGraft

namespace Admission

variable {m : Mutator} {timeout : Int} {spec : JavaSpec} {request : AdmissionRequest} {w : World}
  {pod q : Pod}

/-! ### Two questions about a request -/

/-- The object of a request, read as a pod. -/
def podOf (request : AdmissionRequest) : Checked Pod := Pod.read (.obj (request.object.getD []))

/-- **The pod is misconfigured**: it asks for the agent, and names a container more than once. -/
def Misassigned (request : AdmissionRequest) : Prop :=
  ∃ pod, podOf request = .ok pod ∧
    Text.lower (Text.strip (pod.metadata.annotation injectJava)) = "true" ∧
    ∃ name, 1 < (Targets.names (pod.metadata.annotation javaContainerNames)).count name

/-- How the pass over the pod of a request ends. -/
def pass (m : Mutator) (timeout : Int) (spec : JavaSpec) (request : AdmissionRequest) (w : World)
    (pod : Pod) : Except Mutator.Fault Pod :=
  (m.mutate pod (select spec pod) (namespaceOf request pod) (some (w.clock + timeout)) w).1

/-- The specifications of the pods differ in one of the lists. -/
def ListsDiffer (pod q : Pod) : Prop :=
  q.spec.containers ≠ pod.spec.containers ∨ q.spec.initContainers ≠ pod.spec.initContainers ∨
    q.spec.volumes ≠ pod.spec.volumes

/-- What a failure of a pass means. -/
def verdictOfFailure (f : Failure) : Except Lapse Verdict :=
  match f.sort with
  | .misconfiguration => .ok (.refused (failureMessage f))
  | .ordinary => .ok (.admitted [])
  | .fatal => .error (.fatal (failureMessage f))

/-- What a pass means for its pod. -/
def verdictOf (pod : Pod) : Except Mutator.Fault Pod → Except Lapse Verdict
  | .ok q => accept (Patch.between pod q)
  | .error (.targets f) => .ok (.refused f.message)
  | .error (.pass f) => verdictOfFailure f

/-- Only a pass that ends well leads to a patch, and it is the difference that the pass made. -/
theorem exists_of_verdictOf_eq {result : Except Mutator.Fault Pod} {patch : Patch}
    (h : verdictOf pod result = .ok (.admitted patch)) (hne : patch ≠ []) :
    ∃ q, result = .ok q ∧ patch = Patch.between pod q := by
  rcases result with (f | f) | q
  · cases h
  · rw [verdictOf, verdictOfFailure] at h
    split at h
    · cases h
    · cases h
      exact absurd rfl hne
    · cases h
  · rw [verdictOf, accept] at h
    split at h
    · cases h
      exact ⟨q, rfl, rfl⟩
    · cases h

theorem answer_fst_of_bad {issues : List Issue} (hpod : podOf request = .bad issues)
    (engine : Engine) : (answer engine timeout spec request w).1 = .ok (.admitted []) := by
  rw [podOf] at hpod
  rw [answer, hpod]

/-- A pod that does not change is admitted without a patch. -/
theorem accept_nil : accept [] = .ok (.admitted []) := rfl

/-- **A request about a pod is answered by its pass**: with the verdict on how this ends, and after
the reads that it makes. One that is not asked for makes none, and changes nothing. -/
theorem exists_answer_eq_of_ok (m : Mutator) (timeout : Int) (spec : JavaSpec) (w : World)
    (hpod : podOf request = .ok pod) : ∃ lines, answer (engineOf m) timeout spec request w =
      (verdictOf pod (pass m timeout spec request w pod),
        (m.mutate pod (select spec pod) (namespaceOf request pod) (some (w.clock + timeout))
          w).2.note lines) := by
  rw [podOf] at hpod
  rw [answer, hpod, pass]
  dsimp only
  split
  · next hnone =>
    -- no pass is made here; one would return the pod
    rw [hnone, Mutator.mutate]
    exact ⟨[], by simp [verdictOf, Patch.between_self, accept_nil, World.note]⟩
  · rw [mutate, engineOf]
    rcases m.mutate pod (select spec pod) (namespaceOf request pod) (some (w.clock + timeout)) w
      with ⟨(f | f) | q, w'⟩
    · exact ⟨_, rfl⟩
    · simp only [Except.mapError, engineFault, EngineFault.ofSort, verdictOf, verdictOfFailure]
      rcases f.sort
      · exact ⟨_, rfl⟩
      · exact ⟨_, rfl⟩
      · exact ⟨[], by simp [World.note]⟩
    · exact ⟨_, rfl⟩

theorem answer_fst_of_ok (hpod : podOf request = .ok pod) :
    (answer (engineOf m) timeout spec request w).1 =
      verdictOf pod (pass m timeout spec request w pod) := by
  obtain ⟨lines, hanswer⟩ := exists_answer_eq_of_ok m timeout spec w hpod
  rw [hanswer]

/-- **A patch that cannot be written leaves no verdict**, although the pass ended well. -/
theorem answer_fst_of_oversized (hpod : podOf request = .ok pod)
    (hpass : pass m timeout spec request w pod = .ok q)
    (hsize : Json.isWritable (Patch.between pod q).dump = false) :
    (answer (engineOf m) timeout spec request w).1 = .error .oversizedPatch := by
  rw [answer_fst_of_ok hpod, hpass, verdictOf, accept, hsize]
  rfl

/-! ### The patch of an answer -/

/-- A text holds all of a patch if it holds all of the values that are set. -/
theorem exact_dump {p : Patch} (h : ∀ o ∈ p, Json.Exact o.value) : Json.Exact p.dump := by
  refine .arr _ fun v hv ↦ ?_
  obtain ⟨o, ho, rfl⟩ := List.mem_map.1 hv
  have hkeys : ["op", "path", "value"].Nodup := by decide
  refine .obj _ hkeys fun m hm ↦ ?_
  simp only [List.mem_cons, List.not_mem_nil, or_false] at hm
  rcases hm with rfl | rfl | rfl
  · exact .str _
  · exact .str _
  · exact h o ho

/-- The patch of an answer is the base64 of its text. -/
theorem decode_encodePatch (p : Patch) :
    ∃ octets, Text.Base64.decode (Verdict.encodePatch p).toList = .ok octets ∧
      Text.Utf8.decode octets = .ok (Json.render p.dump).toList := by
  refine ⟨Text.Utf8.encode (Json.render p.dump).toList, ?_, Text.Utf8.decode_eq_ok_iff.2 rfl⟩
  rw [Verdict.encodePatch, String.toList_ofList]
  exact Text.Base64.decode_eq_ok_iff.2 (Text.Base64.writes_encode _)

/-- **The patch of an answer is read back from it**, if a text holds all of the values that it sets;
and such a patch is accepted. -/
theorem read_encodePatch {p : Patch} (h : ∀ o ∈ p, Json.Exact o.value) :
    accept p = .ok (.admitted p) ∧
      ∃ octets cs, Text.Base64.decode (Verdict.encodePatch p).toList = .ok octets ∧
        Text.Utf8.decode octets = .ok cs ∧ Json.read (String.ofList cs) = .ok p.dump := by
  have hexact := exact_dump h
  obtain ⟨octets, hoctets, hcs⟩ := decode_encodePatch p
  refine ⟨by rw [accept, Json.isWritable_of_exact hexact, if_pos rfl], octets, _, hoctets, hcs, ?_⟩
  rw [String.ofList_toList]
  exact Json.read_render hexact

/-! ### What was read -/

/-- **The pod is refused**: it is misconfigured, or a read raised an error that says so. -/
def Refused (request : AdmissionRequest) (raised : Option Breakdown) : Prop :=
  Misassigned request ∨ ∃ b ∈ raised, b.sort = .misconfiguration

/-- The status of a refusal with a message. -/
def statusOf (message : String) : Value := .obj [("code", .int 403), ("message", .str message)]

/-- What the members of an answer say, given the mutator, what it is asked, and what the store broke
down with while it was at work. -/
structure Answers (m : Mutator) (timeout : Int) (spec : JavaSpec) (request : AdmissionRequest)
    (w : World) (raised : Option Breakdown) (response : Members) : Prop where
  /-- The uid is echoed. -/
  uid : response.find? "uid" = some (.str request.uid)
  refused_iff : response.find? "allowed" = some (.bool false) ↔ Refused request raised
  admitted_iff : response.find? "allowed" = some (.bool true) ↔ ¬ Refused request raised
  /-- A refusal for the targets has a status. -/
  status_targets : Misassigned request →
    ∃ message, message ≠ "" ∧ response.find? "status" = some (statusOf message)
  /-- A refusal for an error has one if the error has a wording. -/
  status_raised : ∀ b ∈ raised, b.sort = .misconfiguration →
    response.find? "status" = if b.message = "" then none else some (statusOf b.message)
  refused : Refused request raised →
    response.find? "patch" = none ∧ response.find? "patchType" = none
  admitted : ¬ Refused request raised → response.find? "status" = none
  /-- There is a patch exactly where the pass ended well and changed something. -/
  patch_iff : response.find? "patch" ≠ none ↔ ∃ pod q, podOf request = .ok pod ∧
    pass m timeout spec request w pod = .ok q ∧ ListsDiffer pod q
  patch : ∀ pod q, podOf request = .ok pod → pass m timeout spec request w pod = .ok q →
    ListsDiffer pod q →
    response.find? "patch" = some (.str (Verdict.encodePatch (Patch.between pod q))) ∧
    response.find? "patchType" = some (.str "JSONPatch")
  patchType_iff : response.find? "patchType" ≠ none ↔ response.find? "patch" ≠ none
  /-- What is no pod, does not ask or fails with an ordinary error is admitted as it is. -/
  untouched : (∀ pod, podOf request = .ok pod →
      Text.lower (Text.strip (pod.metadata.annotation injectJava)) ≠ "true" ∨
      ∃ f, pass m timeout spec request w pod = .error (.pass f) ∧ f.sort = .ordinary) →
    response.find? "allowed" = some (.bool true) ∧ response.find? "patch" = none

variable {raised : Option Breakdown}

/-- The patch of the pass can be written, if the pass ends with one. -/
def Writes (m : Mutator) (timeout : Int) (spec : JavaSpec) (request : AdmissionRequest)
    (w : World) : Prop :=
  ∀ pod q, podOf request = .ok pod → pass m timeout spec request w pod = .ok q →
    Json.isWritable (Patch.between pod q).dump = true

end Admission

namespace Service

variable {body : Body} {review : AdmissionReview} {request : AdmissionRequest} {w : World}

/-- The answer that a verdict makes, or the lack of one. -/
def respondWith (uid : String) : Except Admission.Lapse Admission.Verdict → Response
  | .ok v => .verdict uid v
  | .error l => .lapsed l

/-- A review with a request is answered with the verdict on it, and leaves the world that the
verdict leaves. -/
theorem answerBody_eq (engine : Admission.Engine) (timeout : Int) (spec : JavaSpec)
    (hreview : body.review = .ok review) (hrequest : review.request = some request) :
    answerBody engine timeout spec body w =
      (respondWith request.uid (Admission.answer engine timeout spec request w).1,
        (Admission.answer engine timeout spec request w).2) := by
  rw [answerBody, hreview]
  dsimp only
  rw [hrequest]
  dsimp only
  rcases Admission.answer engine timeout spec request w with ⟨l | v, w'⟩ <;> rfl

end Service

/-! ### A store that says what is not its business -/

namespace Sample

/-- A pod that asks for the agent, names no container, and imports a config map. -/
def tenant : Members :=
  [("metadata", .obj [("annotations", .obj [(Admission.injectJava, .str " True ")])]),
   ("spec", .obj [("containers", .arr [.obj [("name", .str "app"), ("envFrom", .arr
      [.obj [("configMapRef", .obj [("name", .str "app-env")])]])]])])]

/-- The request about it. -/
def request : AdmissionRequest := ⟨"u-1", none, none, some tenant, []⟩

/-- The review with this request. -/
def review : AdmissionReview :=
  ⟨AdmissionReview.version, AdmissionReview.standardKind, some request, none, []⟩

/-- A store that raises an error which means that a pod is misconfigured. -/
def strict : Store :=
  ⟨true, fun _ _ ↦ ⟨.breakdown (.other ⟨.misconfiguration, "unknown tenant"⟩), 1⟩⟩

end Sample

end AgentGraft
