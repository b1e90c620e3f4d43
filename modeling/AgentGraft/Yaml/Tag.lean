import AgentGraft.Text.Split
import AgentGraft.Yaml.Moment

/-!
# Tags

What a node of a YAML text is meant to be. A tag is written out, or it is found from the text of a
scalar by the forms below, which are those of the first edition of the format: `yes` and `off` are
flags, a zero in front makes a number octal, colons make it base sixty.

A line end behind a scalar does not count in its form.
-/

namespace AgentGraft.Yaml

open Text

/-- What a node is meant to be. -/
inductive Tag where
  | null
  | bool
  | int
  | float
  | str
  | binary
  | timestamp
  | seq
  | map
  | set
  /-- A sequence of mappings with one entry each, no key twice. -/
  | omap
  /-- A sequence of mappings with one entry each. -/
  | pairs
  /-- The key whose value is merged into the mapping around it. -/
  | merge
  /-- The key of the default value of a mapping. -/
  | value
  /-- Anything else. -/
  | unknown
  deriving DecidableEq, Repr

namespace Tag

/-- The start of the tags of the format itself. -/
def standardStart : String := "tag:yaml.org,2002:"

/-- The names of the tags. -/
def names : List (String × Tag) :=
  [("null", .null), ("bool", .bool), ("int", .int), ("float", .float), ("str", .str),
   ("binary", .binary), ("timestamp", .timestamp), ("seq", .seq), ("map", .map), ("set", .set),
   ("omap", .omap), ("pairs", .pairs), ("merge", .merge), ("value", .value)]

/-- The tag that is written out. -/
def ofChars (cs : List Char) : Tag :=
  ((names.find? fun n => cs == (standardStart ++ n.1).toList).map (·.2)).getD .unknown

/-! ### Forms of scalars -/

/-- The words for flags. -/
def flagWords : List String :=
  ["yes", "Yes", "YES", "no", "No", "NO", "true", "True", "TRUE", "false", "False", "FALSE",
   "on", "On", "ON", "off", "Off", "OFF"]

/-- The words for null. -/
def nullWords : List String := ["~", "null", "Null", "NULL"]

/-- The text after a sign. -/
def dropSign : List Char → List Char
  | '-' :: cs => cs
  | '+' :: cs => cs
  | cs => cs

/-- Not empty, and all characters satisfy `p`. -/
def someAll (p : Char → Bool) (cs : List Char) : Bool := !cs.isEmpty && cs.all p

/-- A digit or an underscore. -/
def isLoose (c : Char) : Bool := isDigit c || c = '_'

/-- A digit, then digits and underscores. -/
def isNumber : List Char → Bool
  | c :: cs => isDigit c && cs.all isLoose
  | [] => false

/-- One digit, or two the first of which is below six. -/
def isSixtieth : List Char → Bool
  | [c] => isDigit c
  | [d, c] => '0' ≤ d && d ≤ '5' && isDigit c
  | _ => false

/-- An unsigned number in base sixty. -/
def isSexagesimal (cs : List Char) : Bool :=
  match Text.split ':' cs with
  | head :: part :: parts => isNumber head && isSixtieth part && parts.all isSixtieth
  | _ => false

/-- The form of an integer. -/
def isInt (cs : List Char) : Bool :=
  match dropSign cs with
  | '0' :: 'b' :: ds => someAll (fun c => c = '0' || c = '1' || c = '_') ds
  | '0' :: 'x' :: ds => someAll (fun c => isHexDigit c || c = '_') ds
  | ['0'] => true
  | '0' :: ds => ds.all fun c => ('0' ≤ c && c ≤ '7') || c = '_'
  | ds => isNumber ds || isSexagesimal ds

/-- An exponent up to the end of a number: absent, or with a sign. -/
def isExponent : List Char → Bool
  | [] => true
  | e :: s :: ds => (e = 'e' || e = 'E') && (s = '-' || s = '+') && someAll isDigit ds
  | _ => false

/-- The words for what is no finite number, after the point. -/
def infinityWords : List String := ["inf", "Inf", "INF"]

/-- The words for what is no number, after the point. -/
def nanWords : List String := ["nan", "NaN", "NAN"]

/-- The form of a number with a fraction. -/
def isFloat (cs : List Char) : Bool :=
  let unsigned := dropSign cs
  let whole := before '.' unsigned
  let fraction := after '.' unsigned
  let digits := fraction.takeWhile isLoose
  unsigned.contains '.' &&
    if whole.isEmpty then
      infinityWords.contains (String.ofList fraction) ||
        (unsigned == cs && (nanWords.contains (String.ofList fraction) ||
          (isNumber digits && isExponent (fraction.drop digits.length))))
    else
      (isNumber whole && isExponent (fraction.drop digits.length)) ||
        (isSexagesimal whole && fraction.all isLoose)

/-- The tag of a scalar without a tag of its own. -/
def ofPlain (cs : List Char) : Tag :=
  if cs.isEmpty then .null
  else
    let cs := if cs.getLast? = some '\n' then cs.dropLast else cs
    let word := String.ofList cs
    if flagWords.contains word then .bool
    else if nullWords.contains word then .null
    else if isFloat cs then .float
    else if isInt cs then .int
    else if Moment.isRecognized cs then .timestamp
    else if word = "<<" then .merge
    else if word = "=" then .value
    else if ["!", "&", "*"].contains word then .unknown
    else .str

end Tag

end AgentGraft.Yaml
