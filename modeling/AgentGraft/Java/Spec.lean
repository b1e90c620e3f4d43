import AgentGraft.Manifest.Env

/-!
# Settings of the Java agent

The image that carries the agent, the variables that are proposed to every container, the containers
it is meant for, and the size and resources of what it needs to run. Unlike manifests these settings
keep nothing that they do not know.
-/

namespace AgentGraft

/-- Settings of the Java agent. -/
structure JavaSpec where
  image : String
  /-- The proposed variables, in the order in which they are added. -/
  env : List EnvVar
  /-- The containers it is meant for, separated by commas; all when none is named. -/
  containers : String
  volumeSizeLimit : Option String
  resources : Option Members
  deriving DecidableEq

namespace JavaSpec

def imageField : Field := .plain "image"
def envField : Field := .plain "env"
def containersField : Field := .plain "containers"
def volumeSizeLimitField : Field := ⟨"volumeSizeLimit", "volume_size_limit"⟩
def resourcesField : Field := .plain "resources"

/-- Settings from their members. -/
def ofMembers (o : Members) : Checked JavaSpec :=
  JavaSpec.mk <$> imageField.required .text o <*> envField.orElse [] (.list EnvVar.read) o <*>
    containersField.orElse "" .text o <*> volumeSizeLimitField.optional .text o <*>
    resourcesField.optional .freeMap o

/-- Settings from a value. -/
def read : Reader JavaSpec := .object ofMembers .notModel

/-- The members of settings. -/
def members (s : JavaSpec) : Members :=
  imageField.write (.str s.image) ++ envField.write (.arr (s.env.map EnvVar.dump)) ++
    containersField.write (.str s.containers) ++
    volumeSizeLimitField.write? (s.volumeSizeLimit.map .str) ++
    resourcesField.write? (s.resources.map .obj)

/-- Settings as a value. -/
def dump (s : JavaSpec) : Value := .obj s.members

end JavaSpec

/-! ### Built-in settings -/

/-- What a deployment can change in the built-in settings. -/
structure Deployment where
  /-- The image of the Java agent. -/
  javaImage : String
  /-- The size of the volume that the agent is copied to; empty for the default. -/
  javaVolumeSize : String
  deriving DecidableEq

/-- The deployment that changes nothing. -/
def Deployment.standard : Deployment where
  javaImage := "public.ecr.aws/aws-observability/adot-autoinstrumentation-java:v2.11.0"
  javaVolumeSize := ""

namespace JavaSpec

/-- The first-party collector. -/
def collector : String := "http://cloudwatch-agent.amazon-cloudwatch"

/-- The variables that are proposed when nothing else is configured. -/
def builtinEnv : List (String × String) :=
  [("OTEL_AWS_APPLICATION_SIGNALS_ENABLED", "true"),
   ("OTEL_TRACES_SAMPLER_ARG", "endpoint=" ++ collector ++ ":2000"),
   ("OTEL_TRACES_SAMPLER", "xray"),
   ("OTEL_EXPORTER_OTLP_PROTOCOL", "http/protobuf"),
   ("OTEL_EXPORTER_OTLP_TRACES_ENDPOINT", collector ++ ":4316/v1/traces"),
   ("OTEL_AWS_APPLICATION_SIGNALS_EXPORTER_ENDPOINT", collector ++ ":4316/v1/metrics"),
   ("OTEL_METRICS_EXPORTER", "none"),
   ("OTEL_LOGS_EXPORTER", "none")]

/-- The settings that a deployment has without a settings file. -/
def builtin (d : Deployment) : JavaSpec where
  image := d.javaImage
  env := builtinEnv.map fun v => .literal v.1 v.2
  containers := ""
  volumeSizeLimit := if d.javaVolumeSize = "" then none else some d.javaVolumeSize
  resources := none

end JavaSpec

/-! ### Instrumentations -/

/-- The settings of one runtime, to be applied to a pod. -/
structure Instrumentation where
  /-- The runtime, such as `java`. -/
  runtime : String
  spec : JavaSpec
  deriving DecidableEq

namespace Instrumentation

def runtimeField : Field := .plain "runtime"
def specField : Field := .plain "spec"

/-- An instrumentation from its members. -/
def ofMembers (o : Members) : Checked Instrumentation :=
  Instrumentation.mk <$> runtimeField.required .text o <*> specField.required JavaSpec.read o

/-- An instrumentation from a value. -/
def read : Reader Instrumentation := .object ofMembers .notModel

/-- An instrumentation as a value. -/
def dump (i : Instrumentation) : Value :=
  .obj (runtimeField.write (.str i.runtime) ++ specField.write i.spec.dump)

end Instrumentation

end AgentGraft
