import AgentGraft.Footprint
import AgentGraft.Java.Spec
import AgentGraft.Policy.Report

/-!
# Injection of the Java agent

What it takes to run a container with the agent: the proposed variables that the policy admits, the
agent in the options of the virtual machine, the marker, and a mount of the volume that holds the
agent. The volume and the init container that copies the agent into it are added once per pod, with
the first container that gets the agent.

Every decision about variables is taken from the view of the owner, never from what this injection
adds. The pod goes in as a value and comes out as a new one.
-/

namespace AgentGraft.Java

/-! ### Names -/

/-- The variable with the options of the virtual machine. -/
def toolOptions : String := "JAVA_TOOL_OPTIONS"

/-- The directory that the volume is mounted at. -/
def mountPath : String := "/otel-auto-instrumentation-java"

/-- The same directory on Windows. -/
def windowsMountPath : String := "\\otel-auto-instrumentation-java"

/-- What is put at the end of the options. -/
def agentOption : String := " -javaagent:" ++ mountPath ++ "/javaagent.jar"

/-- The volume with the agent. -/
def volumeName : String := artefactName ++ "-java"

/-- The node selector for the operating system. -/
def osSelector : String := "kubernetes.io/os"

/-! ### The parts that are added -/

/-- The pod runs on Windows. -/
def isWindows (pod : Pod) : Bool :=
  (pod.spec.nodeSelector.bind (·.lookup osSelector)) = some "windows"

/-- The size of the volume: the one that is asked for, else the default. -/
def volumeSize (c : Config) (quantity : Option String) : String :=
  match quantity with
  | some q => if q = "" then c.defaultVolumeSize else q
  | none => c.defaultVolumeSize

/-- The security settings of the init container: only where the pod demands a user other than root
and names none does it need its own. -/
def initSecurity (c : Config) (pod : Pod) : Option SecurityContext :=
  match pod.spec.securityContext with
  | none => none
  | some s =>
    if s.runAsUser.isSome then none
    else if s.demandsNonRoot then some ⟨some true, some c.initContainerUser, []⟩
    else none

/-- The command that copies the agent. -/
def copyCommand (pod : Pod) : List String :=
  if isWindows pod then ["CMD", "/c", "copy", "javaagent.jar", windowsMountPath]
  else ["cp", "/javaagent.jar", mountPath ++ "/javaagent.jar"]

/-- The mount of the volume. -/
def mount : VolumeMount := ⟨volumeName, mountPath, []⟩

/-- The volume. -/
def volume (c : Config) (spec : JavaSpec) : Volume :=
  ⟨volumeName, some [("sizeLimit", .str (volumeSize c spec.volumeSizeLimit))], []⟩

/-- The init container. -/
def initContainer (c : Config) (spec : JavaSpec) (pod : Pod) : Container where
  name := javaInitContainerName
  image := some spec.image
  command := some (copyCommand pod)
  env := []
  envFrom := []
  volumeMounts := [mount]
  resources := spec.resources
  securityContext := initSecurity c pod
  extra := []

/-- The marker: the name of the node. -/
def marker (c : Config) : EnvVar :=
  ⟨c.markerVariable, none, some [("fieldRef", .obj [("fieldPath", .str "spec.nodeName")])], []⟩

/-! ### Variables -/

/-- The proposals that are added: of each name the first that the policy admits. -/
def admitted (c : Config) (view : List EnvVar) (taken : List String) :
    List EnvVar → List EnvVar
  | [] => []
  | e :: es =>
    if taken.contains e.name then admitted c view taken es
    else if Policy.admits c view e.name e.value then e :: admitted c view (e.name :: taken) es
    else admitted c view taken es

/-- The variables with the first of a name changed. -/
def updateFirst (name : String) (f : EnvVar → EnvVar) : List EnvVar → List EnvVar
  | [] => []
  | e :: es => if e.name = name then f e :: es else e :: updateFirst name f es

/-- The variable with the agent at the end of its literal value. -/
def withAgent (e : EnvVar) : EnvVar := { e with value := some (e.value.getD "" ++ agentOption) }

/-- The variables with the agent in the options: in the first declaration of them, else in a new one
that starts with what the container imports. -/
def withOptions (view env : List EnvVar) : List EnvVar :=
  if Env.declares toolOptions env then updateFirst toolOptions withAgent env
  else env ++ [.literal toolOptions (Env.valueOf toolOptions view ++ agentOption)]

/-- The variables with the marker. -/
def withMarker (c : Config) (env : List EnvVar) : List EnvVar :=
  if Env.declares c.markerVariable env then env else env ++ [marker c]

/-- The variables of a container that gets the agent. -/
def injectEnv (c : Config) (spec : JavaSpec) (view env : List EnvVar) : List EnvVar :=
  withMarker c (withOptions view (env ++ admitted c view [] spec.env))

/-! ### Injection -/

/-- Why a container cannot get the agent. -/
inductive Fault where
  /-- The pod has no container of this number. -/
  | noContainer
  /-- The options of the container come from a source and cannot be extended. -/
  | sourced (container name : String)
  deriving DecidableEq, Repr

/-- The wording of options that cannot be extended. -/
def sourcedMessage (container name : String) : String :=
  "the container \x27" ++ container ++ "\x27 defines " ++ name ++
    " via valueFrom; it cannot be extended"

/-- A variable that has to be extended must not come from a source. -/
def checkExtensible (container : Container) (name : String) : Except Fault Unit :=
  match Env.find? name container.env with
  | some e => if e.valueFrom.isSome then .error (.sourced container.name name) else .ok ()
  | none => .ok ()

/-- The container with the agent. -/
def injectContainer (c : Config) (spec : JavaSpec) (view : List EnvVar) (container : Container) :
    Container :=
  { container with
    env := injectEnv c spec view container.env
    volumeMounts := container.volumeMounts ++ [mount] }

/-- The pod with the volume and the init container, unless it has that init container. -/
def withArtefacts (c : Config) (spec : JavaSpec) (pod : Pod) : Pod :=
  if Footprint.lacksInitContainer pod javaInitContainerName then
    { pod with spec := { pod.spec with
      volumes := pod.spec.volumes ++ [volume c spec]
      initContainers := pod.spec.initContainers ++ [initContainer c spec pod] } }
  else pod

/-- The pod with another container of some number. -/
def setContainer (pod : Pod) (index : Nat) (container : Container) : Pod :=
  { pod with spec := { pod.spec with containers := pod.spec.containers.set index container } }

/-- The policy lets the container have the agent. -/
def isWanted (c : Config) (pod : Pod) (container : Container) (view : List EnvVar) : Bool :=
  Policy.installs c view pod.spec.securityContext container.securityContext

/-- Injects the agent into a container with this view: the new pod, or none when the policy
declines. -/
def inject (c : Config) (spec : JavaSpec) (pod : Pod) (index : Nat) (view : List EnvVar) :
    Except Fault (Option Pod) :=
  match pod.spec.containers[index]? with
  | none => .error .noContainer
  | some container =>
    match checkExtensible container toolOptions with
    | .error f => .error f
    | .ok () =>
      if isWanted c pod container view then
        .ok (some (withArtefacts c spec
          (setContainer pod index (injectContainer c spec view container))))
      else .ok none

/-! ### Report -/

/-- A line of the injection. -/
def line (level : Level) (text : String) : Line := ⟨level, .injection, text⟩

/-- The lines of the proposals. -/
def proposalLines (c : Config) (view : List EnvVar) (container : String) (taken : List String) :
    List EnvVar → List Line
  | [] => []
  | e :: es =>
    if taken.contains e.name then proposalLines c view container taken es
    else
      Policy.admitLines c view e.name e.value ++
        if Policy.admits c view e.name e.value then
          line .debug ("Injected " ++ e.name ++ " into " ++ container) ::
            proposalLines c view container (e.name :: taken) es
        else
          line .debug ("Skipped " ++ e.name ++ " for " ++ container ++
            ": already set or overridden by user config") ::
            proposalLines c view container taken es

/-- The lines of an injection. -/
def lines (c : Config) (spec : JavaSpec) (pod : Pod) (index : Nat) (view : List EnvVar) :
    List Line :=
  match pod.spec.containers[index]? with
  | none => []
  | some container =>
    match checkExtensible container toolOptions with
    | .error _ => []
    | .ok () =>
      let place := pod.displayName ++ "/" ++ container.name
      Policy.installLines c view pod.spec.securityContext container.securityContext ++
        if isWanted c pod container view then
          proposalLines c view container.name [] spec.env ++
            [line .info ("Java agent injected into " ++ place ++ " (" ++
              toString (admitted c view [] spec.env).length ++ " variables added)")]
        else [line .info ("Java agent injection skipped for " ++ place)]

end AgentGraft.Java
