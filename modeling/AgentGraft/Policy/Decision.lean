import AgentGraft.Config
import AgentGraft.Endpoint.FirstParty
import AgentGraft.Manifest.Container

/-!
# Injection policy

Three tiers of decisions about one container, taken from its effective environment and the security
settings of pod and container, and from nothing else: whether the agent is installed at all, which
signals keep the exporters of the owner, and which proposed variables may be added. What the owner
has set is never overridden, and the first variable of a name is the one that counts.
-/

namespace AgentGraft.Policy

variable (c : Config) (env : List EnvVar)

/-! ### What the owner has set -/

/-- The enablement flag is there and says true, in any case and with blanks around it. -/
def isEnabled : Bool :=
  Text.lower (Text.strip (Env.valueOf c.reserved.enablementFlag env)) = "true"

/-- The value leads to the first-party collector. -/
def isFirstParty (value : String) : Bool :=
  Endpoint.isFirstParty c.firstPartyHosts c.firstPartyPort value

/-- The endpoint variable is set and does not lead to the first-party collector. One that comes from
a source cannot be inspected and counts as leading elsewhere. -/
def leadsElsewhere (name : String) : Bool :=
  Env.isSet name env && !isFirstParty c (Env.valueOf name env)

/-- The agent is asked for although the endpoint of all signals leads elsewhere. -/
def isEnabledElsewhere : Bool :=
  leadsElsewhere c env c.reserved.otlpEndpoint && isEnabled c env

/-! ### Whether the agent is installed -/

/-- Why security settings forbid the agent. -/
inductive Veto where
  /-- The pod demands a user other than root and names none. -/
  | pod
  /-- The container demands one, and neither it nor the pod names one. -/
  | container
  deriving DecidableEq, Repr

/-- The user that the settings of a pod name. -/
def userOf (s : Option SecurityContext) : Option Int := s.bind (·.runAsUser)

/-- The settings demand a user other than root. -/
def demandsNonRoot (s : Option SecurityContext) : Bool := s.any (·.demandsNonRoot)

/-- The veto of the security settings, if they have one. An init container inherits the settings of
the pod and none of the container's, so a user that the container names does not lift the veto of
the pod. -/
def veto (pod container : Option SecurityContext) : Option Veto :=
  if demandsNonRoot pod && (userOf pod).isNone then some .pod
  else if demandsNonRoot container && ((userOf container).or (userOf pod)).isNone then
    some .container
  else none

/-- The agent may be installed: security settings allow it, and it is asked for or no endpoint leads
elsewhere. -/
def installs (pod container : Option SecurityContext) : Bool :=
  (veto pod container).isNone &&
    (isEnabled c env || c.reserved.endpoints.all fun name => !leadsElsewhere c env name)

/-! ### Which signals keep their exporters -/

/-- The metrics exporter is to be switched off. -/
def disablesMetrics : Bool :=
  !isEnabledElsewhere c env && !Env.isSet c.reserved.metricsEndpoint env

/-- The logs exporter is to be switched off. -/
def disablesLogs : Bool :=
  !isEnabledElsewhere c env && !Env.isSet c.reserved.logsEndpoint env

/-- Traces are to go to the first-party collector. Declaring the endpoint of traces, even without a
value, keeps all settings of traces. -/
def overridesTraces : Bool :=
  !isEnabledElsewhere c env && !Env.declares c.reserved.tracesEndpoint env

/-! ### Which variables are added -/

/-- An exporter is proposed to be switched off, or its value is not known. -/
def switchesOff (value : Option String) : Bool := value.all (· = "none")

/-- The proposed variable may be added. -/
def admits (name : String) (value : Option String) : Bool :=
  let n := c.reserved
  !Env.declares name env &&
    (if name = n.metricsExporter then !switchesOff value || disablesMetrics c env
     else if name = n.logsExporter then !switchesOff value || disablesLogs c env
     else if n.traces.contains name then overridesTraces c env
     else true)

end AgentGraft.Policy
