import AgentGraft.Manifest.Env

/-!
# Containers of a manifest

A container with its environment, mounts and security settings, and the volumes that it can mount.
-/

namespace AgentGraft

/-! ### Security settings -/

/-- The security settings that decisions look at. -/
structure SecurityContext where
  runAsNonRoot : Option Bool
  runAsUser : Option Int
  extra : Members
  deriving DecidableEq

namespace SecurityContext

def nonRootField : Field := ⟨"runAsNonRoot", "run_as_non_root"⟩
def userField : Field := ⟨"runAsUser", "run_as_user"⟩

/-- The members that are interpreted, in the order in which they are written. -/
def fields : List Field := [nonRootField, userField]

/-- Security settings from their members. -/
def ofMembers (o : Members) : Checked SecurityContext :=
  SecurityContext.mk <$> nonRootField.optional .flag o <*> userField.optional .integer o <*>
    pure (o.rest fields)

/-- Security settings from a value. -/
def read : Reader SecurityContext := .object ofMembers .notModel

/-- Security settings as a value. -/
def dump (s : SecurityContext) : Value :=
  .obj (nonRootField.write? (s.runAsNonRoot.map .bool) ++
    userField.write? (s.runAsUser.map .int) ++ s.extra)

/-- The settings demand a user other than root. -/
def demandsNonRoot (s : SecurityContext) : Bool := s.runAsNonRoot = some true

end SecurityContext

/-! ### Volumes -/

/-- A volume mounted into a container. -/
structure VolumeMount where
  name : String
  mountPath : String
  extra : Members
  deriving DecidableEq

namespace VolumeMount

def nameField : Field := .plain "name"
def mountPathField : Field := ⟨"mountPath", "mount_path"⟩

/-- The members that are interpreted, in the order in which they are written. -/
def fields : List Field := [nameField, mountPathField]

/-- A mount from its members. -/
def ofMembers (o : Members) : Checked VolumeMount :=
  VolumeMount.mk <$> nameField.required .text o <*> mountPathField.required .text o <*>
    pure (o.rest fields)

/-- A mount from a value. -/
def read : Reader VolumeMount := .object ofMembers .notModel

/-- A mount as a value. -/
def dump (m : VolumeMount) : Value :=
  .obj (nameField.write (.str m.name) ++ mountPathField.write (.str m.mountPath) ++ m.extra)

end VolumeMount

/-- A volume of a pod. -/
structure Volume where
  name : String
  emptyDir : Option Members
  extra : Members
  deriving DecidableEq

namespace Volume

def nameField : Field := .plain "name"
def emptyDirField : Field := ⟨"emptyDir", "empty_dir"⟩

/-- The members that are interpreted, in the order in which they are written. -/
def fields : List Field := [nameField, emptyDirField]

/-- A volume from its members. -/
def ofMembers (o : Members) : Checked Volume :=
  Volume.mk <$> nameField.required .text o <*> emptyDirField.optional .freeMap o <*>
    pure (o.rest fields)

/-- A volume from a value. -/
def read : Reader Volume := .object ofMembers .notModel

/-- A volume as a value. -/
def dump (v : Volume) : Value :=
  .obj (nameField.write (.str v.name) ++ emptyDirField.write? (v.emptyDir.map .obj) ++ v.extra)

end Volume

/-! ### Containers -/

/-- A container of a pod, regular or initial. -/
structure Container where
  name : String
  image : Option String
  command : Option (List String)
  env : List EnvVar
  envFrom : List EnvFromSource
  volumeMounts : List VolumeMount
  resources : Option Members
  securityContext : Option SecurityContext
  extra : Members
  deriving DecidableEq

namespace Container

def nameField : Field := .plain "name"
def imageField : Field := .plain "image"
def commandField : Field := .plain "command"
def envField : Field := .plain "env"
def envFromField : Field := ⟨"envFrom", "env_from"⟩
def volumeMountsField : Field := ⟨"volumeMounts", "volume_mounts"⟩
def resourcesField : Field := .plain "resources"
def securityContextField : Field := ⟨"securityContext", "security_context"⟩

/-- The members that are interpreted, in the order in which they are written. -/
def fields : List Field :=
  [nameField, imageField, commandField, envField, envFromField, volumeMountsField, resourcesField,
   securityContextField]

/-- A container from its members. -/
def ofMembers (o : Members) : Checked Container :=
  Container.mk <$> nameField.required .text o <*> imageField.optional .text o <*>
    commandField.optional (.list .text) o <*> envField.orElse [] (.list EnvVar.read) o <*>
    envFromField.orElse [] (.list EnvFromSource.read) o <*>
    volumeMountsField.orElse [] (.list VolumeMount.read) o <*>
    resourcesField.optional .freeMap o <*>
    securityContextField.optional SecurityContext.read o <*> pure (o.rest fields)

/-- A container from a value. -/
def read : Reader Container := .object ofMembers .notModel

/-- A container as a value. -/
def dump (c : Container) : Value :=
  .obj (nameField.write (.str c.name) ++ imageField.write? (c.image.map .str) ++
    commandField.write? (c.command.map .ofTexts) ++
    envField.write (.arr (c.env.map EnvVar.dump)) ++
    envFromField.write (.arr (c.envFrom.map EnvFromSource.dump)) ++
    volumeMountsField.write (.arr (c.volumeMounts.map VolumeMount.dump)) ++
    resourcesField.write? (c.resources.map .obj) ++
    securityContextField.write? (c.securityContext.map SecurityContext.dump) ++ c.extra)

end Container

end AgentGraft
