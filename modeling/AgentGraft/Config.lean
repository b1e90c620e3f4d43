/-!
# Engine configuration

The fixed table that every decision is taken from: the reserved variables, the hosts and port of the
first-party collector, and the names that injectors leave behind. Decisions get it as an argument.
-/

namespace AgentGraft

/-- The variables that decisions look at. -/
structure ReservedNames where
  enablementFlag : String
  otlpEndpoint : String
  tracesEndpoint : String
  metricsEndpoint : String
  logsEndpoint : String
  tracesExporter : String
  metricsExporter : String
  logsExporter : String
  sampler : String
  samplerArg : String
  deriving DecidableEq, Repr

namespace ReservedNames

/-- The names of the agent's own configuration. -/
def standard : ReservedNames where
  enablementFlag := "OTEL_AWS_APPLICATION_SIGNALS_ENABLED"
  otlpEndpoint := "OTEL_EXPORTER_OTLP_ENDPOINT"
  tracesEndpoint := "OTEL_EXPORTER_OTLP_TRACES_ENDPOINT"
  metricsEndpoint := "OTEL_EXPORTER_OTLP_METRICS_ENDPOINT"
  logsEndpoint := "OTEL_EXPORTER_OTLP_LOGS_ENDPOINT"
  tracesExporter := "OTEL_TRACES_EXPORTER"
  metricsExporter := "OTEL_METRICS_EXPORTER"
  logsExporter := "OTEL_LOGS_EXPORTER"
  sampler := "OTEL_TRACES_SAMPLER"
  samplerArg := "OTEL_TRACES_SAMPLER_ARG"

/-- The endpoint variables: of every signal, of traces, of metrics, of logs. -/
def endpoints (n : ReservedNames) : List String :=
  [n.otlpEndpoint, n.tracesEndpoint, n.metricsEndpoint, n.logsEndpoint]

/-- The variables that route and sample traces. -/
def traces (n : ReservedNames) : List String :=
  [n.tracesEndpoint, n.tracesExporter, n.sampler, n.samplerArg]

end ReservedNames

/-- What injectors name the things they add. -/
def artefactName : String := "opentelemetry-auto-instrumentation"

/-- The init container of the Java agent. -/
def javaInitContainerName : String := artefactName ++ "-java"

/-- Everything that decisions take as given. -/
structure Config where
  reserved : ReservedNames
  /-- Hosts of the first-party collector. -/
  firstPartyHosts : List String
  firstPartyPort : Int
  /-- Init containers that some injector leaves behind. -/
  runtimeInitContainers : List String
  /-- The variable that every injector sets on every container it instruments. -/
  markerVariable : String
  /-- The collector that runs beside the containers of a pod; it carries the marker by itself. -/
  sidecarName : String
  defaultVolumeSize : String
  /-- The user of an init container where the pod demands one without naming it. -/
  initContainerUser : Int
  deriving DecidableEq, Repr

/-- The table in production. -/
def Config.standard : Config where
  reserved := .standard
  firstPartyHosts :=
    ["cloudwatch-agent.amazon-cloudwatch",
     "cloudwatch-agent-windows-headless.amazon-cloudwatch.svc.cluster.local"]
  firstPartyPort := 4316
  runtimeInitContainers :=
    [javaInitContainerName, artefactName ++ "-python", artefactName ++ "-dotnet",
     artefactName ++ "-nodejs", artefactName ++ "-apache-httpd-agent",
     artefactName ++ "-apache-httpd-agent-clone"]
  markerVariable := "OTEL_RESOURCE_ATTRIBUTES_NODE_NAME"
  sidecarName := "otc-container"
  defaultVolumeSize := "200Mi"
  initContainerUser := 1000

end AgentGraft
