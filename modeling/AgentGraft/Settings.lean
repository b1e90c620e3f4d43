import AgentGraft.Java.Spec
import AgentGraft.Log
import AgentGraft.Text.Newline
import AgentGraft.Text.Quoted
import AgentGraft.Text.Utf8
import AgentGraft.Yaml.Datum

/-!
# Settings file

The settings of the Java agent are the built-in ones, each of which the section `java` of a YAML
file can replace. A file that cannot be read, is not well-formed or has a section that makes no
settings is reported, and the built-in settings stand. Only text that is not UTF-8, and scalars that
are not what their tags say, end the loading.

The settings are made of values. Their free-form parts, the resources and what a variable holds
besides its own members, could keep any datum; here a date, a time or half a surrogate pair in them
counts as something that makes no settings (`members?`), and octets and sets turn into texts and
arrays there (`Datum.toValue?`). What overrides what does not depend on it.
-/

namespace AgentGraft.Settings

open Yaml

/-- What stands at the path of the settings file. -/
inductive FileState where
  | missing
  | directory
  /-- The system refuses to read it for some other reason. -/
  | refused (reason : String)
  /-- A file of these octets. -/
  | holding (octets : List UInt8)
  deriving DecidableEq

/-- Why loading ends without settings. -/
inductive Fault where
  /-- The file is not UTF-8. -/
  | encoding (f : Text.Utf8.Fault)
  /-- A scalar of the file is not what its tag says. -/
  | scalar (f : Yaml.Fault)
  deriving DecidableEq

/-! ### The section -/

/-- The key of the section. -/
def sectionKey : String := "java"

/-- The entries of the section of a file, if it has one. -/
def section? (d : Datum) : Option (List (Leaf × Datum)) :=
  match d with
  | .map es =>
    match Datum.under? sectionKey es with
    | some (.map java) => some java
    | _ => none
  | _ => none

/-- The fields of the settings. -/
def fields : List Field :=
  [JavaSpec.imageField, JavaSpec.envField, JavaSpec.containersField, JavaSpec.volumeSizeLimitField,
   JavaSpec.resourcesField]

/-- A field is read from this key of a section that is put over other settings: from the other
spelling only where neither of the two has the name. -/
def isRead (base : JavaSpec) (es : List (Leaf × Datum)) (key : String) : Bool :=
  fields.any fun f =>
    key == f.name ||
      (key == f.other && !base.members.has f.name && (Datum.under? f.name es).isNone)

/-- The member of an entry with such a key, which has to have a value; none inside for any other
entry. -/
def member? (isRead : String → Bool) (e : Leaf × Datum) : Option (Option (String × Value)) :=
  match e.1 with
  | .text key => if isRead key then e.2.toValue?.map fun v => some (key, v) else some none
  | _ => some none

/-- The members of a section that are read, if all of them have values. A date, a time or half a
surrogate pair in one of them counts as none. -/
def members? (base : JavaSpec) (es : List (Leaf × Datum)) : Option Members :=
  (es.mapM (member? (isRead base es))).map fun ms => ms.filterMap id

/-! ### Keys that are no texts

Inside what is left as it is any key may stand, but not where members are looked up. -/

/-- All keys can be read as texts, if the datum is a map. -/
def hasTextualKeys : Datum → Bool
  | .map es => es.all fun e => Datum.isTextualKey e.1
  | _ => true

/-- The datum of a field among entries. -/
def fieldOf? (f : Field) (es : List (Leaf × Datum)) : Option Datum :=
  (Datum.under? f.name es).or (Datum.under? f.other es)

/-- The keys of a proposed variable and of its source are texts. -/
def hasVariableKeys : Datum → Bool
  | .map es =>
    es.all (fun e => Datum.isTextKey e.1) &&
      (fieldOf? EnvVar.valueFromField es).all hasTextualKeys
  | _ => true

/-- The keys of all proposed variables are texts. -/
def hasEnvKeys : Datum → Bool
  | .list ds => ds.all hasVariableKeys
  | _ => true

/-- Every key of a section is a text where one has to be. -/
def hasSoundKeys (es : List (Leaf × Datum)) : Bool :=
  (fieldOf? JavaSpec.envField es).all hasEnvKeys &&
    (fieldOf? JavaSpec.resourcesField es).all hasTextualKeys

/-! ### Merging -/

/-- The members of settings with those of a section in place of them. -/
def override (base : JavaSpec) (ms : Members) : Members := base.members.update ms

/-- The settings that a section makes of others. -/
def amended (base : JavaSpec) (es : List (Leaf × Datum)) : Option JavaSpec :=
  match members? base es with
  | some ms =>
    if hasSoundKeys es then (JavaSpec.ofMembers (override base ms)).toOption else none
  | none => none

/-! ### Loading -/

/-- A line of the loading. -/
def line (level : Level) (text : String) : Line := ⟨level, .settings, text⟩

/-- The line of a file that cannot be read. -/
def unreadableLine (path reason : String) : Line :=
  line .error ("Failed to read instrumentation config " ++ path ++ ": " ++ reason)

/-- The line of a file without the section. -/
def sectionlessLine (path : String) : Line :=
  line .warning ("No \x27java\x27 section in " ++ path ++ "; using built-in Java spec")

/-- The line of a section that makes no settings. -/
def invalidLine (path : String) : Line :=
  line .error ("Invalid \x27java\x27 section in " ++ path ++ ": not a Java spec")

/-- The line of settings that have been loaded. -/
def loadedLine (path : String) (spec : JavaSpec) : Line :=
  line .info ("Loaded Java instrumentation spec from " ++ path ++ " (image=" ++ spec.image ++ ")")

/-- The settings that a file makes of the built-in ones. -/
def ofDatum (base : JavaSpec) (path : String) (d : Datum) : JavaSpec × List Line :=
  match section? d with
  | none => (base, [sectionlessLine path])
  | some es =>
    match amended base es with
    | none => (base, [invalidLine path])
    | some spec => (spec, [loadedLine path spec])

/-- The datum of a file. -/
def readFile (octets : List UInt8) : Except Fault (Option Datum) :=
  match Text.Utf8.decode octets with
  | .error f => .error (.encoding f)
  | .ok cs =>
    match Datum.read (Text.unifyLineEnds cs) with
    | .error .malformed => .ok none
    | .error f => .error (.scalar f)
    | .ok d => .ok (some d)

/-- The settings of a deployment whose settings file is looked for at a path, if the path is not
empty, and the lines of the loading. -/
def load (d : Deployment) (path : String) (file : FileState) :
    Except Fault (JavaSpec × List Line) :=
  let base := JavaSpec.builtin d
  if path = "" then .ok (base, [])
  else match file with
    | .missing =>
      let reason := "[Errno 2] No such file or directory: " ++ Text.quoted path
      .ok (base, [unreadableLine path reason])
    | .directory =>
      let reason := "[Errno 21] Is a directory: " ++ Text.quoted path
      .ok (base, [unreadableLine path reason])
    | .refused reason => .ok (base, [unreadableLine path reason])
    | .holding octets =>
      match readFile octets with
      | .error f => .error f
      | .ok none => .ok (base, [unreadableLine path "not well-formed"])
      | .ok (some d) => .ok (ofDatum base path d)

end AgentGraft.Settings
