import AgentGraft.Environment
import AgentGraft.Mutation.Plan

/-!
# Mutation of pods

The only way to change a pod: check the targets, leave alone what is instrumented already, and visit
the containers of the plan. Every visit resolves the environment of its container and hands it to
the injector; what keeps one container from being extended is reported and costs that container
only.

One cache serves the whole run. The pod that comes in is not touched: a run that fails leaves no
pod behind, only the world.
-/

namespace AgentGraft

/-- What mutates pods. -/
structure Mutator where
  store : Store
  config : Config
  injectors : Injectors

namespace Mutator

/-- Why a mutation yields no pod. -/
inductive Fault where
  | targets (f : Targets.Fault)
  | pass (f : Failure)
  deriving DecidableEq

/-- A line of the mutation. -/
def line (level : Level) (text : String) : Line := ⟨level, .mutation, text⟩

/-- The namespace that bundles are read from: the one that is asked for, else the pod's, else the
default one. -/
def namespaceOf (asked : Option String) (pod : Pod) : String :=
  match asked.filter (· ≠ ""), pod.metadata.ns.filter (· ≠ "") with
  | some ns, _ => ns
  | none, some ns => ns
  | none, none => "default"

/-- The line of a container that could not be extended. -/
def skippedLines (runtime container : String) : Java.Fault → List Line
  | .noContainer => []
  | .sourced c name =>
    [line .error ("Skipping " ++ runtime ++ " injection into " ++ container ++ ": " ++
      Java.sourcedMessage c name)]

/-- Visits one container. -/
def visitContainer (c : Config) (s : Scope) (injector : Injector) (i : Instrumentation)
    (index : Nat) (pod : Pod) (p : Pass) : Except Failure Pod × Pass :=
  match pod.spec.containers[index]? with
  | none => (.ok pod, p)
  | some container =>
    match Environment.resolve s container p with
    | (.error f, p) => (.error f, p)
    | (.ok view, p) =>
      let p := p.note (injector.lines c i.spec pod index view)
      match injector.inject c i.spec pod index view with
      | .error f => (.ok pod, p.note (skippedLines i.runtime container.name f))
      | .ok none => (.ok pod, p)
      | .ok (some pod) => (.ok pod, p)

/-- Takes one step of a plan. -/
def visit (c : Config) (s : Scope) : Visit → Pod → Pass → Except Failure Pod × Pass
  | .unknownRuntime runtime, pod, p =>
    (.ok pod, p.note [line .warning ("No injector registered for runtime " ++ runtime ++
      "; skipping")])
  | .noSuchContainer target, pod, p =>
    (.ok pod, p.note [line .warning ("Target container " ++ target ++ " not found in pod " ++
      pod.displayName)])
  | .container injector i index, pod, p => visitContainer c s injector i index pod p

/-- Takes the steps of a plan, one after the other, up to the first failure. -/
def run (c : Config) (s : Scope) : List Visit → Pod → Pass → Except Failure Pod × Pass
  | [], pod, p => (.ok pod, p)
  | v :: vs, pod, p =>
    match visit c s v pod p with
    | (.error f, p) => (.error f, p)
    | (.ok pod, p) => run c s vs pod p

/-- The line of a pod that is left alone. -/
def instrumentedLine (pod : Pod) : Line :=
  line .info ("Pod " ++ pod.displayName ++ " already instrumented; skipping")

/-- The pod with the instrumentations applied. -/
def mutate (m : Mutator) (pod : Pod) (instrumentations : List Instrumentation)
    (ns : Option String) (deadline : Option Int) (w : World) : Except Fault Pod × World :=
  if instrumentations.isEmpty then (.ok pod, w)
  else
    let lists := Targets.listsOf instrumentations
    let w := w.note (Targets.lines lists)
    match Targets.check lists with
    | .error f => (.error (.targets f), w)
    | .ok () =>
      if Footprint.isInstrumented m.config pod then (.ok pod, w.note [instrumentedLine pod])
      else
        let scope : Scope := ⟨m.store, namespaceOf ns pod, deadline⟩
        let plan := Plan.of m.config m.injectors pod.spec.containers instrumentations
        match run m.config scope plan pod (.start w) with
        | (.error f, p) => (.error (.pass f), p.world)
        | (.ok pod, p) => (.ok pod, p.world)

end Mutator

end AgentGraft
