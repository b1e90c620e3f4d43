import AgentGraft.Admission
import AgentGraft.Bundle.Cluster
import AgentGraft.Health
import AgentGraft.Settings
import AgentGraft.Value.Json

/-!
# The service

Requests over HTTP and the answers to them. There are two routes: one answers that the service is
up, the other one takes reviews. A body that is no JSON text is refused first; then the service has
to be started; then the body has to be a review, and the review has to have a request.

What the service works with is set up when it starts. A request that needs what is not there ends
without an answer. Where a verdict was under way and lapsed, the answer says no more than that there
was an error.
-/

namespace AgentGraft

/-- What a service works with. -/
structure Service where
  engine : Option Admission.Engine
  spec : Option JavaSpec
  /-- The seconds that the reads of one request may take. -/
  timeout : Int

namespace Service

open Text

/-- A request over HTTP. -/
structure Request where
  method : String
  /-- The path, with a query if there is one. -/
  target : String
  contentType : Option String
  body : String

/-- An answer over HTTP. -/
inductive Response where
  | health (h : Health)
  | verdict (uid : String) (v : Admission.Verdict)
  | notFound
  | methodNotAllowed
  /-- The review has no request. -/
  | nothingAsked
  /-- The body is not read, although it is JSON text. -/
  | unreadable
  /-- The body is no review. -/
  | invalid (issues : List Issue)
  /-- There is no verdict on the request. -/
  | lapsed (l : Admission.Lapse)

/-- Why a request ends without an answer. -/
inductive Fault where
  /-- There is nothing that mutates pods. -/
  | noEngine
  /-- There are no settings. -/
  | noSpec
  deriving DecidableEq, Repr

/-- The wording of a fault. -/
def Fault.message : Fault → String
  | .noEngine => "PodMutator not initialized. Check startup sequence."
  | .noSpec => "Java spec not initialized. Check startup sequence."

/-! ### Answers -/

namespace Response

/-- The status of an answer. -/
def status : Response → Nat
  | .health _ => 200
  | .verdict .. => 200
  | .notFound => 404
  | .methodNotAllowed => 405
  | .nothingAsked => 400
  | .unreadable => 400
  | .invalid _ => 422
  | .lapsed _ => 500

/-- A body that says what is wrong. -/
def detail (v : Value) : Value := .obj [("detail", v)]

/-- A step as a value. -/
def stepValue : Step → Value
  | .key name => .str name
  | .index i => .int i

/-- An issue as a value. -/
def issueValue (i : Issue) : Value :=
  .obj [("type", .str i.kind.code), ("loc", .arr (i.path.map stepValue))]

/-- The body of an answer. -/
def body : Response → Value
  | .health h => h.dump
  | .verdict uid v => v.review uid
  | .notFound => detail (.str "Not Found")
  | .methodNotAllowed => detail (.str "Method Not Allowed")
  | .nothingAsked => detail (.str "AdmissionReview has no request")
  | .unreadable => detail (.str "There was an error parsing the body")
  | .invalid issues => detail (.arr (issues.map issueValue))
  | .lapsed _ => .str "Internal Server Error"

end Response

/-! ### Routes -/

/-- The routes. -/
inductive Route where
  | health
  | mutate
  deriving DecidableEq, Repr

namespace Route

/-- The path of a route. -/
def path : Route → String
  | .health => "/health"
  | .mutate => "/mutate"

/-- The method of a route. -/
def method : Route → String
  | .health => "GET"
  | .mutate => "POST"

/-- The path of a target: without an authority in front, a query and a fragment, with one slash at
its start. -/
def pathChars (target : List Char) : List Char :=
  let cs := target.takeWhile fun c => c ≠ '?' ∧ c ≠ '#'
  let cs := match cs with
    | '/' :: '/' :: rest => rest.dropWhile (· ≠ '/')
    | cs => cs
  '/' :: cs.dropWhile (· = '/')

/-- The characters with escapes of ASCII characters replaced by what they stand for. -/
def unescape : List Char → List Char
  | '%' :: a :: b :: cs =>
    if isHexDigit a ∧ isHexDigit b ∧ ofDigits 16 [a, b] < 128 then
      Char.ofNat (ofDigits 16 [a, b]) :: unescape cs
    else '%' :: unescape (a :: b :: cs)
  | c :: cs => c :: unescape cs
  | [] => []
termination_by cs => cs.length

/-- The route of a target; slashes at the end of its path do not count. -/
def of? (target : String) : Option Route :=
  let path := dropTrailing (· = '/') (unescape (pathChars target.toList))
  [Route.health, .mutate].find? fun r => r.path.toList == path

/-- The method, in any case, is that of the route. -/
def allows (r : Route) (method : String) : Bool :=
  method.toList.map lowerAscii == r.method.toList.map lowerAscii

end Route

/-! ### Bodies -/

/-- What the body of a request is. -/
inductive Body where
  | empty
  /-- It is not declared as JSON. -/
  | foreign
  | json (v : Value)

/-- A type of contents says JSON: an application with the subtype of it, or with its ending. -/
def declaresJson (contentType : String) : Bool :=
  let kind := lowerChars (stripChars (before ';' contentType.toList))
  match split '/' kind with
  | [main, sub] =>
    main == "application".toList && (sub == "json".toList || "+json".toList.isSuffixOf sub)
  | _ => false

/-- Reads the body of a request, or answers at once. -/
def Body.read (r : Request) : Except Response Body :=
  if r.body = "" then .ok .empty
  else if !r.contentType.any declaresJson then .ok .foreign
  else match Json.read r.body with
    | .ok v => .ok (.json v)
    | .error (.malformed position) =>
      .error (.invalid [⟨[.key "body", .index position], .malformedJson⟩])
    | .error .tooLong => .error .unreadable

/-- The review in a body. -/
def Body.review : Body → Checked AdmissionReview
  | .empty => (Checked.fail .missing).under (.key "body")
  | .foreign => (Checked.fail .notBody).under (.key "body")
  | .json v => (AdmissionReview.read .notBody v).under (.key "body")

/-! ### Answering -/

/-- Answers to a body, once everything that is needed is there. -/
def answerBody (engine : Admission.Engine) (timeout : Int) (spec : JavaSpec) (body : Body)
    (w : World) : Response × World :=
  match body.review with
  | .bad issues => (.invalid issues, w)
  | .ok review =>
    match review.request with
    | none => (.nothingAsked, w)
    | some request =>
      match Admission.answer engine timeout spec request w with
      | (.ok verdict, w) => (.verdict request.uid verdict, w)
      | (.error lapse, w) => (.lapsed lapse, w)

/-- Answers to a review. -/
def mutate (s : Service) (r : Request) (w : World) : Except Fault Response × World :=
  match Body.read r with
  | .error response => (.ok response, w)
  | .ok body =>
    match s.engine, s.spec with
    | none, _ => (.error .noEngine, w)
    | some _, none => (.error .noSpec, w)
    | some engine, some spec =>
      let (response, w) := answerBody engine s.timeout spec body w
      (.ok response, w)

/-- Answers to a request. -/
def respond (s : Service) (r : Request) (w : World) : Except Fault Response × World :=
  match Route.of? r.target with
  | none => (.ok .notFound, w)
  | some route =>
    if !route.allows r.method then (.ok .methodNotAllowed, w)
    else match route with
      | .health => (.ok (.health .up), w)
      | .mutate => s.mutate r w

/-! ### Starting and stopping -/

/-- A line of the service. -/
def line (level : Level) (text : String) : Line := ⟨level, .service, text⟩

/-- What a service is started with. -/
structure Startup where
  /-- The lines of the attempt to reach a cluster. -/
  connecting : List Line
  store : Store
  deployment : Deployment
  settingsPath : String
  settingsFile : Settings.FileState
  timeout : Int

/-- The lines before the settings are loaded. -/
def startingLines (s : Startup) : List Line :=
  [line .info "Instrumentation injector starting up..."] ++ s.connecting ++
    if s.store.available then []
    else [line .warning "Kubernetes client unavailable: envFrom bundles will not be resolved"]

/-- Starts a service; settings that cannot be loaded at all keep it from starting. -/
def start (s : Startup) (w : World) : Except Settings.Fault Service × World :=
  let w := w.note (startingLines s)
  match Settings.load s.deployment s.settingsPath s.settingsFile with
  | .error f => (.error f, w)
  | .ok (spec, lines) =>
    let mutator : Mutator := ⟨s.store, .standard, .standard⟩
    (.ok ⟨some (Admission.engineOf mutator), some spec, s.timeout⟩,
      w.note (lines ++ [line .info "Pod mutator initialized"]))

/-- The lines of a service that stops. -/
def stoppingLines : List Line := [line .info "Instrumentation injector shutting down"]

end Service

end AgentGraft
