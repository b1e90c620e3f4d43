import AgentGraft.Manifest.Container

/-!
# Pods

A pod is metadata and a specification; the specification lists containers, initial containers and
volumes. Members that are not interpreted are kept at every level, so that a pod can be written back
without loss.
-/

namespace AgentGraft

/-! ### Specification -/

/-- What a pod runs. -/
structure PodSpec where
  containers : List Container
  initContainers : List Container
  volumes : List Volume
  securityContext : Option SecurityContext
  nodeSelector : Option (List (String × String))
  extra : Members
  deriving DecidableEq

namespace PodSpec

def containersField : Field := .plain "containers"
def initContainersField : Field := ⟨"initContainers", "init_containers"⟩
def volumesField : Field := .plain "volumes"
def securityContextField : Field := ⟨"securityContext", "security_context"⟩
def nodeSelectorField : Field := ⟨"nodeSelector", "node_selector"⟩

/-- The members that are interpreted, in the order in which they are written. -/
def fields : List Field :=
  [containersField, initContainersField, volumesField, securityContextField, nodeSelectorField]

/-- A specification from its members. -/
def ofMembers (o : Members) : Checked PodSpec :=
  PodSpec.mk <$> containersField.orElse [] (.list Container.read) o <*>
    initContainersField.orElse [] (.list Container.read) o <*>
    volumesField.orElse [] (.list Volume.read) o <*>
    securityContextField.optional SecurityContext.read o <*>
    nodeSelectorField.optional (.mapOf .text) o <*> pure (o.rest fields)

/-- A specification from a value. -/
def read : Reader PodSpec := .object ofMembers .notModel

/-- The members of a specification. -/
def members (s : PodSpec) : Members :=
  containersField.write (.arr (s.containers.map Container.dump)) ++
    initContainersField.write (.arr (s.initContainers.map Container.dump)) ++
    volumesField.write (.arr (s.volumes.map Volume.dump)) ++
    securityContextField.write? (s.securityContext.map SecurityContext.dump) ++
    nodeSelectorField.write? (s.nodeSelector.map .ofTextMap) ++ s.extra

/-- A specification as a value. -/
def dump (s : PodSpec) : Value := .obj s.members

/-- A specification that lists nothing. -/
def empty : PodSpec := ⟨[], [], [], none, none, []⟩

end PodSpec

/-! ### Metadata -/

/-- What a pod is called. -/
structure ObjectMeta where
  name : Option String
  /-- The start of the name, when the cluster completes it. -/
  generateName : Option String
  ns : Option String
  annotations : List (String × String)
  extra : Members
  deriving DecidableEq

namespace ObjectMeta

def nameField : Field := .plain "name"
def generateNameField : Field := ⟨"generateName", "generate_name"⟩
def namespaceField : Field := .plain "namespace"
def annotationsField : Field := .plain "annotations"

/-- The members that are interpreted, in the order in which they are written. -/
def fields : List Field := [nameField, generateNameField, namespaceField, annotationsField]

/-- Metadata from their members. -/
def ofMembers (o : Members) : Checked ObjectMeta :=
  ObjectMeta.mk <$> nameField.optional .text o <*> generateNameField.optional .text o <*>
    namespaceField.optional .text o <*> annotationsField.orElse [] (.mapOf .text) o <*>
    pure (o.rest fields)

/-- Metadata from a value. -/
def read : Reader ObjectMeta := .object ofMembers .notModel

/-- Metadata as a value. -/
def dump (m : ObjectMeta) : Value :=
  .obj (nameField.write? (m.name.map .str) ++ generateNameField.write? (m.generateName.map .str) ++
    namespaceField.write? (m.ns.map .str) ++
    annotationsField.write (.ofTextMap m.annotations) ++ m.extra)

/-- Metadata that say nothing. -/
def empty : ObjectMeta := ⟨none, none, none, [], []⟩

/-- The text of an annotation; empty when it is absent. -/
def annotation (m : ObjectMeta) (name : String) : String := (m.annotations.lookup name).getD ""

end ObjectMeta

/-! ### Pods -/

/-- A pod. -/
structure Pod where
  metadata : ObjectMeta
  spec : PodSpec
  extra : Members
  deriving DecidableEq

namespace Pod

def metadataField : Field := .plain "metadata"
def specField : Field := .plain "spec"

/-- The members that are interpreted, in the order in which they are written. -/
def fields : List Field := [metadataField, specField]

/-- A pod from its members. -/
def ofMembers (o : Members) : Checked Pod :=
  Pod.mk <$> metadataField.orElse .empty ObjectMeta.read o <*>
    specField.orElse .empty PodSpec.read o <*> pure (o.rest fields)

/-- A pod from a value. -/
def read : Reader Pod := .object ofMembers .notModel

/-- A pod as a value. -/
def dump (p : Pod) : Value :=
  .obj (metadataField.write p.metadata.dump ++ specField.write p.spec.dump ++ p.extra)

/-- A pod without anything in it. -/
def empty : Pod := ⟨.empty, .empty, []⟩

/-- The name of a pod in messages: its own, else the start of the one it will get. -/
def displayName (p : Pod) : String :=
  match p.metadata.name.filter (· ≠ ""), p.metadata.generateName.filter (· ≠ "") with
  | some name, _ => name
  | none, some start => start
  | none, none => "<unnamed>"

end Pod

end AgentGraft
