import Mathlib.Data.List.Basic
import AgentGraft.Java.Injection

/-!
# What an injection does to a pod

`Java.inject` composes three small changes: one container is replaced, it is replaced by itself with
the agent, and the volume and the init container are added where the pod lacks them. Each of them
is described here by what it does to the three lists of a pod; everything else,
`Pod.withoutLists`, they leave alone.

The last section reads a successful injection back: `inject_eq_some_iff` says that the pod that
comes out is the composite, and that the two gates, extensible options and the policy, were both
open.
-/

namespace AgentGraft

/-- Everything that a pod says outside the lists that injections add to. -/
def Pod.withoutLists (pod : Pod) : Pod :=
  { pod with spec := { pod.spec with containers := [], initContainers := [], volumes := [] } }

/-- The containers of a pod, the regular ones first. -/
def Pod.allContainers (pod : Pod) : List Container := pod.spec.containers ++ pod.spec.initContainers

/-- A pod is what it says outside these lists, and the lists. -/
theorem Pod.eq_of_withoutLists {p q : Pod} (h : p.withoutLists = q.withoutLists)
    (hcontainers : p.spec.containers = q.spec.containers)
    (hinit : p.spec.initContainers = q.spec.initContainers)
    (hvolumes : p.spec.volumes = q.spec.volumes) : p = q := by
  obtain ⟨_, ⟨_, _, _, _, _, _⟩, _⟩ := p
  obtain ⟨_, ⟨_, _, _, _, _, _⟩, _⟩ := q
  simp_all [withoutLists]

namespace Java

variable {c : Config} {spec : JavaSpec} {pod : Pod} {view : List EnvVar}

/-! ### Replacing a container -/

section SetContainer

variable (pod : Pod) (index : Nat) (container : Container)

@[simp] theorem setContainer_containers :
    (setContainer pod index container).spec.containers = pod.spec.containers.set index container :=
  rfl

@[simp] theorem setContainer_initContainers :
    (setContainer pod index container).spec.initContainers = pod.spec.initContainers := rfl

@[simp] theorem setContainer_volumes :
    (setContainer pod index container).spec.volumes = pod.spec.volumes := rfl

@[simp] theorem setContainer_withoutLists :
    (setContainer pod index container).withoutLists = pod.withoutLists := rfl

end SetContainer

/-! ### Adding the volume and the init container -/

section WithArtefacts

variable (c : Config) (spec : JavaSpec) (pod : Pod)

@[simp] theorem withArtefacts_containers :
    (withArtefacts c spec pod).spec.containers = pod.spec.containers := by
  rw [withArtefacts]; split <;> rfl

@[simp] theorem withArtefacts_withoutLists :
    (withArtefacts c spec pod).withoutLists = pod.withoutLists := by
  rw [withArtefacts]; split <;> rfl

/-- The pod lacks the init container of the agent. -/
abbrev lacksAgent (pod : Pod) : Bool := Footprint.lacksInitContainer pod javaInitContainerName

variable {c spec pod}

/-- Where the init container is there already, nothing is added. -/
theorem withArtefacts_of_present (h : lacksAgent pod = false) : withArtefacts c spec pod = pod := by
  simp [withArtefacts, h]

theorem withArtefacts_initContainers (h : lacksAgent pod = true) :
    (withArtefacts c spec pod).spec.initContainers =
      pod.spec.initContainers ++ [initContainer c spec pod] := by
  simp [withArtefacts, h]

theorem withArtefacts_volumes (h : lacksAgent pod = true) :
    (withArtefacts c spec pod).spec.volumes = pod.spec.volumes ++ [volume c spec] := by
  simp [withArtefacts, h]

/-- The names of init containers are all that the presence of the agent depends on. -/
theorem lacksAgent_congr {p q : Pod} (h : p.spec.initContainers = q.spec.initContainers) :
    lacksAgent p = lacksAgent q := by
  simp [Footprint.lacksInitContainer, h]

/-- **Afterwards the agent is there**, whether it was added or not. -/
theorem lacksAgent_withArtefacts : lacksAgent (withArtefacts c spec pod) = false := by
  by_cases h : lacksAgent pod = true
  · rw [lacksAgent, Footprint.lacksInitContainer, withArtefacts_initContainers h]
    simp [initContainer]
  · rw [Bool.not_eq_true] at h
    rw [withArtefacts_of_present h, h]

/-- The init container of a pod depends on what no injection changes. -/
theorem initContainer_congr {p q : Pod} (h : p.withoutLists = q.withoutLists) :
    initContainer c spec p = initContainer c spec q := by
  have hs : p.spec.securityContext = q.spec.securityContext :=
    congrArg (·.spec.securityContext) h
  have hn : p.spec.nodeSelector = q.spec.nodeSelector := congrArg (·.spec.nodeSelector) h
  simp [initContainer, copyCommand, isWindows, initSecurity, hs, hn]

end WithArtefacts

/-! ### A container with the agent -/

@[simp] theorem injectContainer_volumeMounts (container : Container) :
    (injectContainer c spec view container).volumeMounts = container.volumeMounts ++ [mount] := rfl

/-- The mount tells a container with the agent from the one it was made of. -/
theorem injectContainer_ne (container : Container) :
    injectContainer c spec view container ≠ container := by
  intro h
  have hlen := congrArg (fun k : Container ↦ k.volumeMounts.length) h
  simp at hlen

/-- Whatever the variables were, the marker is among them afterwards. -/
theorem declares_injectEnv (env : List EnvVar) :
    Env.declares c.markerVariable (injectEnv c spec view env) = true := by
  rw [injectEnv, withMarker]
  split
  · assumption
  · simp [Env.declares, Env.find?, marker]

/-! ### A successful injection -/

/-- The options of a container can be extended. -/
def isExtensible (container : Container) : Bool := (checkExtensible container toolOptions).isOk

theorem isExtensible_iff {container : Container} :
    isExtensible container = true ↔ checkExtensible container toolOptions = .ok () := by
  rw [isExtensible]
  cases checkExtensible container toolOptions <;> simp [Except.isOk, Except.toBool]

/-- **An injection that succeeds**: both gates were open, and the new pod is the composite of the
changes. -/
theorem inject_eq_some_iff {index : Nat} {pod' : Pod} :
    inject c spec pod index view = .ok (some pod') ↔
      ∃ container, pod.spec.containers[index]? = some container ∧ isExtensible container = true ∧
        isWanted c pod container view = true ∧
        pod' = withArtefacts c spec
          (setContainer pod index (injectContainer c spec view container)) := by
  rw [inject]
  rcases hc : pod.spec.containers[index]? with - | container
  · simp
  · simp only [Option.some.injEq, exists_eq_left', isExtensible_iff]
    rcases checkExtensible container toolOptions with f | u
    · simp
    · by_cases hw : isWanted c pod container view = true <;> simp [hw, eq_comm]

/-- **The container gets the agent**, in its place. -/
theorem getElem?_of_inject_eq_some {index : Nat} {pod' : Pod} {container : Container}
    (hcontainer : pod.spec.containers[index]? = some container)
    (h : inject c spec pod index view = .ok (some pod')) :
    pod'.spec.containers[index]? = some (injectContainer c spec view container) := by
  obtain ⟨container', hcontainer', -, -, rfl⟩ := inject_eq_some_iff.1 h
  obtain rfl : container = container' := Option.some.inj (hcontainer.symm.trans hcontainer')
  rw [withArtefacts_containers, setContainer_containers]
  exact List.getElem?_set_self (List.getElem?_eq_some_iff.1 hcontainer).1

end Java

end AgentGraft
