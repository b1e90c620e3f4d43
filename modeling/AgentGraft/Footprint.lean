import AgentGraft.Config
import AgentGraft.Manifest.Pod

/-!
# Footprints

What an injector leaves behind in a pod: its init container and the marker. A pod that carries
either is not touched again. The check reads the pod and nothing else.
-/

namespace AgentGraft.Footprint

/-- The pod has no init container of this name. -/
def lacksInitContainer (pod : Pod) (name : String) : Bool :=
  pod.spec.initContainers.all (·.name != name)

/-- The container declares the marker; the sidecar, which sets it by itself, does not count. -/
def isMarked (c : Config) (container : Container) : Bool :=
  container.name != c.sidecarName && Env.declares c.markerVariable container.env

/-- The pod has an init container of some injector or a container with the marker. -/
def isInstrumented (c : Config) (pod : Pod) : Bool :=
  pod.spec.initContainers.any (fun i => c.runtimeInitContainers.contains i.name) ||
    pod.spec.containers.any (isMarked c)

end AgentGraft.Footprint
