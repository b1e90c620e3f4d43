import AgentGraft.Java.Injection
import AgentGraft.Targets

/-!
# The plan of a mutation

Which containers of a pod are visited, by which injector and in which order. A plan is made before
the first container is touched, from the names of the containers, which no injection changes: for an
instrumentation with targets the first container of each name, in the order of the list; for one
without, every container but the sidecar, in the order of the pod.
-/

namespace AgentGraft

/-- What injects one runtime into a container, and the lines that go with it. -/
structure Injector where
  inject : Config → JavaSpec → Pod → Nat → List EnvVar → Except Java.Fault (Option Pod)
  lines : Config → JavaSpec → Pod → Nat → List EnvVar → List Line

/-- The injector of the Java agent. -/
def Java.injector : Injector := ⟨Java.inject, Java.lines⟩

/-- The injectors by runtime. -/
abbrev Injectors := List (String × Injector)

/-- The runtimes that can be injected: Java. -/
def Injectors.standard : Injectors := [("java", Java.injector)]

/-- One step of a plan. -/
inductive Visit where
  /-- The runtime has no injector. -/
  | unknownRuntime (runtime : String)
  /-- A target is not in the pod. -/
  | noSuchContainer (target : String)
  /-- A container gets an injection. -/
  | container (injector : Injector) (instrumentation : Instrumentation) (index : Nat)

namespace Plan

/-- The number of the first container of a name. -/
def indexOf? (containers : List Container) (name : String) : Option Nat :=
  containers.findIdx? (·.name == name)

/-- The numbers of all containers but the sidecar, counted from `i`. -/
def indexesFrom (c : Config) (i : Nat) : List Container → List Nat
  | [] => []
  | container :: containers =>
    if container.name = c.sidecarName then indexesFrom c (i + 1) containers
    else i :: indexesFrom c (i + 1) containers

/-- The numbers of the containers that a target list stands for. -/
def indexes (c : Config) (containers : List Container) (targets : String) : List Nat :=
  match Targets.names targets with
  | [] => indexesFrom c 0 containers
  | names => names.filterMap (indexOf? containers)

/-- The targets that are not in the pod. -/
def absent (containers : List Container) (targets : String) : List String :=
  (Targets.names targets).filter fun name => (indexOf? containers name).isNone

/-- The steps of one instrumentation. -/
def visits (c : Config) (injectors : Injectors) (containers : List Container)
    (i : Instrumentation) : List Visit :=
  match injectors.lookup i.runtime with
  | none => [.unknownRuntime i.runtime]
  | some injector =>
    (absent containers i.spec.containers).map .noSuchContainer ++
      (indexes c containers i.spec.containers).map (.container injector i ·)

/-- The plan of instrumentations, one after the other. -/
def of (c : Config) (injectors : Injectors) (containers : List Container)
    (instrumentations : List Instrumentation) : List Visit :=
  instrumentations.flatMap (visits c injectors containers)

end Plan

end AgentGraft
