import AgentGraft.Mutation.Run
import AgentGraft.Patch
import AgentGraft.Text.Base64
import AgentGraft.Text.Utf8
import AgentGraft.Value.Render

/-!
# Admission of pods

A cluster asks about a pod before it runs it; the answer lets the pod in, with a patch or without
one, or refuses it. Which runtimes are injected is said by annotations of the pod.

What the answer makes of an error is said by the sort of the error and not by where it was raised.
Targets that cannot be assigned are a misconfiguration, and the answer is a refusal; so is the
answer to an error of that sort that a store raises. What goes wrong otherwise is reported, and the
pod is admitted as it is. There are two ways to have no answer, a `Lapse`: a fatal error, and a
patch that cannot be written.
-/

namespace AgentGraft

/-! ### Requests -/

/-- What a cluster asks. -/
structure AdmissionRequest where
  uid : String
  ns : Option String
  operation : Option String
  /-- The object that the request is about. -/
  object : Option Members
  extra : Members
  deriving DecidableEq

namespace AdmissionRequest

def uidField : Field := .plain "uid"
def namespaceField : Field := .plain "namespace"
def operationField : Field := .plain "operation"
def objectField : Field := .plain "object"

/-- The members that are interpreted, in the order in which they are written. -/
def fields : List Field := [uidField, namespaceField, operationField, objectField]

/-- A request from its members. -/
def ofMembers (o : Members) : Checked AdmissionRequest :=
  AdmissionRequest.mk <$> uidField.required .text o <*> namespaceField.optional .text o <*>
    operationField.optional .text o <*> objectField.optional .freeMap o <*> pure (o.rest fields)

/-- A request from a value; `refusal` is the issue of what is no object. -/
def read (refusal : IssueKind) : Reader AdmissionRequest := .object ofMembers refusal

/-- A request as a value. -/
def dump (r : AdmissionRequest) : Value :=
  .obj (uidField.write (.str r.uid) ++ namespaceField.write? (r.ns.map .str) ++
    operationField.write? (r.operation.map .str) ++ objectField.write? (r.object.map .obj) ++
    r.extra)

end AdmissionRequest

/-- The envelope of a request and of the answer to it. -/
structure AdmissionReview where
  apiVersion : String
  kind : String
  request : Option AdmissionRequest
  response : Option Members
  extra : Members
  deriving DecidableEq

namespace AdmissionReview

def apiVersionField : Field := ⟨"apiVersion", "api_version"⟩
def kindField : Field := .plain "kind"
def requestField : Field := .plain "request"
def responseField : Field := .plain "response"

/-- The members that are interpreted, in the order in which they are written. -/
def fields : List Field := [apiVersionField, kindField, requestField, responseField]

/-- The version of the format of envelopes. -/
def version : String := "admission.k8s.io/v1"

/-- The kind of envelopes. -/
def standardKind : String := "AdmissionReview"

/-- An envelope from its members. -/
def ofMembers (refusal : IssueKind) (o : Members) : Checked AdmissionReview :=
  AdmissionReview.mk <$> apiVersionField.orElse version .text o <*>
    kindField.orElse standardKind .text o <*>
    requestField.optional (AdmissionRequest.read refusal) o <*>
    responseField.optional .freeMap o <*> pure (o.rest fields)

/-- An envelope from a value; `refusal` is the issue of what is no object. -/
def read (refusal : IssueKind) : Reader AdmissionReview := .object (ofMembers refusal) refusal

/-- An envelope as a value. -/
def dump (r : AdmissionReview) : Value :=
  .obj (apiVersionField.write (.str r.apiVersion) ++ kindField.write (.str r.kind) ++
    requestField.write? (r.request.map AdmissionRequest.dump) ++
    responseField.write? (r.response.map .obj) ++ r.extra)

end AdmissionReview

namespace Admission

/-! ### Selection -/

/-- What the annotations of this library start with. -/
def annotationStart : String := "instrumentation.opentelemetry.io/"

/-- The annotation that asks for the Java agent. -/
def injectJava : String := annotationStart ++ "inject-java"

/-- The annotation that names the containers that get the Java agent. -/
def javaContainerNames : String := annotationStart ++ "java-container-names"

/-- The pod asks for the Java agent. -/
def wantsJava (pod : Pod) : Bool :=
  Text.lower (Text.strip (pod.metadata.annotation injectJava)) = "true"

/-- The instrumentations that a pod asks for; its targets take the place of those of the
settings. -/
def select (spec : JavaSpec) (pod : Pod) : List Instrumentation :=
  if wantsJava pod then
    [⟨"java", { spec with containers := pod.metadata.annotation javaContainerNames }⟩]
  else []

/-! ### Verdicts -/

/-- The answer to a request. -/
inductive Verdict where
  /-- The pod may run, once it is patched. -/
  | admitted (patch : Patch)
  /-- The pod may not run. -/
  | refused (message : String)
  deriving DecidableEq

namespace Verdict

/-- The pod may run. -/
def allowed : Verdict → Bool
  | .admitted _ => true
  | .refused _ => false

/-- A patch as it is sent: base64 of its JSON text. -/
def encodePatch (p : Patch) : String :=
  String.ofList (Text.Base64.encode (Text.Utf8.encode (Json.render p.dump).toList))

/-- The members of an answer that carry a patch, if there is anything in it. -/
def patchMembers (p : Patch) : Members :=
  if p.isEmpty then [] else [("patchType", .str "JSONPatch"), ("patch", .str (encodePatch p))]

/-- The members of an answer that say why it is a refusal. -/
def statusMembers (message : String) : Members :=
  if message = "" then []
  else [("status", .obj [("code", .int 403), ("message", .str message)])]

/-- The members of an answer besides uid and verdict. -/
def detailMembers : Verdict → Members
  | .admitted p => patchMembers p
  | .refused message => statusMembers message

/-- The members of the answer to the request with this uid. -/
def response (uid : String) (v : Verdict) : Members :=
  [("uid", .str uid), ("allowed", .bool v.allowed)] ++ v.detailMembers

/-- The envelope of the answer. -/
def review (uid : String) (v : Verdict) : Value :=
  .obj [("apiVersion", .str AdmissionReview.version), ("kind", .str AdmissionReview.standardKind),
    ("response", .obj (v.response uid))]

end Verdict

/-! ### Engines -/

/-- Why an engine yields no pod. -/
inductive EngineFault where
  /-- The pod is misconfigured. -/
  | refused (message : String)
  /-- Something went wrong. -/
  | broken (message : String)
  /-- An error that is not handled. -/
  | fatal (message : String)
  deriving DecidableEq

/-- What mutates pods: given the namespace that is asked for and a deadline. -/
abbrev Engine :=
  Pod → List Instrumentation → Option String → Option Int → World →
    Except EngineFault Pod × World

/-- The wording of a failure. -/
def failureMessage : Failure → String
  | .breakdown b => b.message
  | .invalid issues => toString issues.length ++ " invalid values for variables"

/-- What an error of a sort is to an engine. -/
def EngineFault.ofSort (message : String) : ErrorSort → EngineFault
  | .misconfiguration => .refused message
  | .ordinary => .broken message
  | .fatal => .fatal message

/-- The fault of an engine that a mutation ends with. -/
def engineFault : Mutator.Fault → EngineFault
  | .targets f => .refused f.message
  | .pass f => .ofSort (failureMessage f) f.sort

/-- A mutator as an engine. -/
def engineOf (m : Mutator) : Engine := fun pod instrumentations ns deadline w =>
  let (result, w) := m.mutate pod instrumentations ns deadline w
  (result.mapError engineFault, w)

/-! ### Answering -/

/-- A line of the admission of a request. -/
def line (level : Level) (uid text : String) : Line :=
  ⟨level, .admission, "Admission " ++ uid ++ ": " ++ text⟩

/-- The namespace that the bundles of a pod are read from. -/
def namespaceOf (request : AdmissionRequest) (pod : Pod) : Option String :=
  (request.ns.filter (· ≠ "")).or pod.metadata.ns

/-- Why a request is left without a verdict. -/
inductive Lapse where
  /-- An error that is not handled. -/
  | fatal (message : String)
  /-- The patch holds an integer with too many digits. -/
  | oversizedPatch
  deriving DecidableEq

/-- Admits a pod with a patch, if the patch can be written. -/
def accept (patch : Patch) : Except Lapse Verdict :=
  if Json.isWritable patch.dump then .ok (.admitted patch) else .error .oversizedPatch

/-- Mutates a pod and answers with the difference. -/
def mutate (engine : Engine) (timeout : Int) (request : AdmissionRequest) (pod : Pod)
    (instrumentations : List Instrumentation) (w : World) : Except Lapse Verdict × World :=
  let deadline := w.clock + timeout
  match engine pod instrumentations (namespaceOf request pod) (some deadline) w with
  | (.error (.refused message), w) =>
    (.ok (.refused message), w.note [line .warning request.uid
      ("rejecting pod " ++ pod.displayName ++ ": " ++ message)])
  | (.error (.broken message), w) =>
    (.ok (.admitted []), w.note [line .error request.uid
      ("mutation failed for pod " ++ pod.displayName ++ ": " ++ message)])
  | (.error (.fatal message), w) => (.error (.fatal message), w)
  | (.ok mutated, w) =>
    let patch := Patch.between pod mutated
    (accept patch, w.note [line .info request.uid
      ("pod " ++ pod.displayName ++ " patched with " ++ toString patch.length ++ " operations")])

/-- Answers a request. -/
def answer (engine : Engine) (timeout : Int) (spec : JavaSpec) (request : AdmissionRequest)
    (w : World) : Except Lapse Verdict × World :=
  match Pod.read (.obj (request.object.getD [])) with
  | .bad issues =>
    (.ok (.admitted []), w.note [line .error request.uid
      ("cannot decode pod: " ++ toString issues.length ++ " issues")])
  | .ok pod =>
    match select spec pod with
    | [] => (.ok (.admitted []), w)
    | instrumentations => mutate engine timeout request pod instrumentations w

end Admission

end AgentGraft
