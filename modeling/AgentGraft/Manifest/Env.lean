import AgentGraft.Schema

/-!
# Environment variables of a manifest

A variable has a literal value or a source, or neither. Beside its own variables a container can
have those of whole bundles: config maps and secrets, each key of which becomes a variable.
-/

namespace AgentGraft

/-! ### Variables -/

/-- An environment variable of a container. -/
structure EnvVar where
  name : String
  /-- The literal value. -/
  value : Option String
  /-- Where the value comes from, when it is no literal. -/
  valueFrom : Option Members
  /-- Members that this library does not interpret. -/
  extra : Members
  deriving DecidableEq

namespace EnvVar

def nameField : Field := .plain "name"
def valueField : Field := .plain "value"
def valueFromField : Field := ⟨"valueFrom", "value_from"⟩

/-- The members that are interpreted, in the order in which they are written. -/
def fields : List Field := [nameField, valueField, valueFromField]

/-- A variable from its members. -/
def ofMembers (o : Members) : Checked EnvVar :=
  EnvVar.mk <$> nameField.required .text o <*> valueField.optional .text o <*>
    valueFromField.optional .freeMap o <*> pure (o.rest fields)

/-- A variable from a value. -/
def read : Reader EnvVar := .object ofMembers .notModel

/-- A variable as a value. -/
def dump (e : EnvVar) : Value :=
  .obj (nameField.write (.str e.name) ++ valueField.write? (e.value.map .str) ++
    valueFromField.write? (e.valueFrom.map .obj) ++ e.extra)

/-- A variable with a literal value. -/
def literal (name value : String) : EnvVar := ⟨name, some value, none, []⟩

end EnvVar

/-! ### Imported bundles -/

/-- The two kinds of bundles. -/
inductive BundleKind where
  | configMap
  | secret
  deriving DecidableEq, Repr

/-- The kind as it is written in messages. -/
def BundleKind.name : BundleKind → String
  | .configMap => "configmap"
  | .secret => "secret"

/-- A bundle named by a manifest. -/
structure BundleRef where
  name : String
  /-- The bundle may be missing. -/
  optional : Option Bool
  extra : Members
  deriving DecidableEq

namespace BundleRef

def nameField : Field := .plain "name"
def optionalField : Field := .plain "optional"

/-- The members that are interpreted, in the order in which they are written. -/
def fields : List Field := [nameField, optionalField]

/-- A reference from its members. -/
def ofMembers (o : Members) : Checked BundleRef :=
  BundleRef.mk <$> nameField.required .text o <*> optionalField.optional .flag o <*>
    pure (o.rest fields)

/-- A reference from a value. -/
def read : Reader BundleRef := .object ofMembers .notModel

/-- A reference as a value. -/
def dump (r : BundleRef) : Value :=
  .obj (nameField.write (.str r.name) ++ optionalField.write? (r.optional.map .bool) ++ r.extra)

end BundleRef

/-- A source of imported variables. -/
structure EnvFromSource where
  /-- Put in front of every imported key. -/
  keyPrefix : Option String
  configMapRef : Option BundleRef
  secretRef : Option BundleRef
  extra : Members
  deriving DecidableEq

namespace EnvFromSource

def prefixField : Field := .plain "prefix"
def configMapField : Field := ⟨"configMapRef", "config_map_ref"⟩
def secretField : Field := ⟨"secretRef", "secret_ref"⟩

/-- The members that are interpreted, in the order in which they are written. -/
def fields : List Field := [prefixField, configMapField, secretField]

/-- A source from its members. -/
def ofMembers (o : Members) : Checked EnvFromSource :=
  EnvFromSource.mk <$> prefixField.optional .text o <*>
    configMapField.optional BundleRef.read o <*> secretField.optional BundleRef.read o <*>
    pure (o.rest fields)

/-- A source from a value. -/
def read : Reader EnvFromSource := .object ofMembers .notModel

/-- A source as a value. -/
def dump (s : EnvFromSource) : Value :=
  .obj (prefixField.write? (s.keyPrefix.map .str) ++
    configMapField.write? (s.configMapRef.map BundleRef.dump) ++
    secretField.write? (s.secretRef.map BundleRef.dump) ++ s.extra)

/-- The bundle that a source refers to; a config map goes before a secret. -/
def bundle (s : EnvFromSource) : Option (BundleKind × BundleRef) :=
  match s.configMapRef, s.secretRef with
  | some r, _ => some (.configMap, r)
  | none, some r => some (.secret, r)
  | none, none => none

end EnvFromSource

/-! ### Looking variables up -/

namespace Env

/-- The first variable of a name; later ones do not count. -/
def find? (name : String) (env : List EnvVar) : Option EnvVar := env.find? (·.name == name)

/-- A variable of this name is declared. -/
def declares (name : String) (env : List EnvVar) : Bool := (find? name env).isSome

/-- The first variable of the name has a non-empty value or a source. -/
def isSet (name : String) (env : List EnvVar) : Bool :=
  match find? name env with
  | none => false
  | some e => e.value.any (· ≠ "") || e.valueFrom.isSome

/-- The literal value of the first variable of the name; empty when it has none. -/
def valueOf (name : String) (env : List EnvVar) : String :=
  match find? name env with
  | none => ""
  | some e => e.value.getD ""

end Env

end AgentGraft
