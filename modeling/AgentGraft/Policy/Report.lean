import AgentGraft.Policy.Decision

/-!
# Reports of the policy

The lines that go with the decisions of the policy. A report follows its decision as far as that one
looks: an endpoint that is not looked at is not reported.
-/

namespace AgentGraft.Policy

variable (c : Config) (env : List EnvVar)

/-- The lines of the classification of an endpoint variable. -/
def endpointLines (name : String) : List Line :=
  if Env.isSet name env then Endpoint.lines (Env.valueOf name env) else []

/-- The line of an endpoint that leads elsewhere. -/
def elsewhereLine (name : String) : Line :=
  ⟨.info, .policy, "Skipping agent: " ++ name ++ " routes to a third-party destination"⟩

/-- The lines of endpoint variables up to the first that leads elsewhere. -/
def endpointsLines : List String → List Line
  | [] => []
  | name :: names =>
    endpointLines env name ++
      if leadsElsewhere c env name then [elsewhereLine name] else endpointsLines names

/-- The line of a veto. -/
def vetoLine : Veto → Line
  | .pod => ⟨.info, .policy, "Skipping agent: pod requires non-root without runAsUser"⟩
  | .container =>
    ⟨.info, .policy, "Skipping agent: container requires non-root without runAsUser"⟩

/-- The lines of the decision whether the agent is installed. -/
def installLines (pod container : Option SecurityContext) : List Line :=
  match veto pod container with
  | some v => [vetoLine v]
  | none => if isEnabled c env then [] else endpointsLines c env c.reserved.endpoints

/-- The lines of the decision about one signal. -/
def signalLines : List Line := endpointLines env c.reserved.otlpEndpoint

/-- The lines of the decision about a proposed variable. -/
def admitLines (name : String) (value : Option String) : List Line :=
  let n := c.reserved
  if Env.declares name env then []
  else if name = n.metricsExporter ∨ name = n.logsExporter then
    if switchesOff value then signalLines c env else []
  else if n.traces.contains name then signalLines c env
  else []

end AgentGraft.Policy
