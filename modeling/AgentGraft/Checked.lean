/-!
# Checked reading

The outcome of reading an untyped value as a typed one: the typed value, or every issue that was
found, in the order of the parts that were read. Reading parts side by side keeps the issues of all
of them, so the first fault of a document does not hide the others.
-/

namespace AgentGraft

/-- One step from a value into one of its parts. -/
inductive Step where
  | key (name : String)
  | index (i : Nat)
  deriving DecidableEq, Repr

/-- What is wrong with a value at some place. -/
inductive IssueKind where
  /-- A required member is absent. -/
  | missing
  /-- Not an object, where a typed object is read. -/
  | notModel
  /-- Not an object, where the body of a request is read. -/
  | notBody
  | notText
  | notList
  | notMap
  | notFlag
  /-- A text or a whole number that is no flag. -/
  | unreadableFlag
  | notInteger
  /-- A text that writes no integer. -/
  | unreadableInteger
  /-- A text or a number too large to be read as an integer. -/
  | oversizedInteger
  | fractionalInteger
  | notFinite
  /-- The body is no JSON text. -/
  | malformedJson
  deriving DecidableEq, Repr

/-- The code of an issue in reports. -/
def IssueKind.code : IssueKind → String
  | .missing => "missing"
  | .notModel => "model_type"
  | .notBody => "model_attributes_type"
  | .notText => "string_type"
  | .notList => "list_type"
  | .notMap => "dict_type"
  | .notFlag => "bool_type"
  | .unreadableFlag => "bool_parsing"
  | .notInteger => "int_type"
  | .unreadableInteger => "int_parsing"
  | .oversizedInteger => "int_parsing_size"
  | .fractionalInteger => "int_from_float"
  | .notFinite => "finite_number"
  | .malformedJson => "json_invalid"

/-- An issue and the place of it, as the steps from the root. -/
structure Issue where
  path : List Step
  kind : IssueKind
  deriving DecidableEq, Repr

/-- A value, or the issues that keep it from being read. -/
inductive Checked (α : Type) where
  | ok (value : α)
  | bad (issues : List Issue)
  deriving DecidableEq, Repr

namespace Checked

variable {α β : Type}

/-- One issue at the place that is read. -/
def fail (kind : IssueKind) : Checked α := .bad [⟨[], kind⟩]

/-- The outcome with its value passed through a function. -/
def map (f : α → β) : Checked α → Checked β
  | .ok a => .ok (f a)
  | .bad issues => .bad issues

/-- The outcomes of two parts put together; the issues of both are kept, the first part's first. -/
def both (f : Checked (α → β)) (x : Checked α) : Checked β :=
  match f, x with
  | .ok f, .ok a => .ok (f a)
  | .ok _, .bad js => .bad js
  | .bad is, .ok _ => .bad is
  | .bad is, .bad js => .bad (is ++ js)

instance : Applicative Checked where
  pure := .ok
  seq f x := both f (x ())

/-- The outcome of a part, as seen from the whole: its issues lie one step further. -/
def under (step : Step) : Checked α → Checked α
  | .ok a => .ok a
  | .bad issues => .bad (issues.map fun i => ⟨step :: i.path, i.kind⟩)

/-- The value, if there is one. -/
def toOption : Checked α → Option α
  | .ok a => some a
  | .bad _ => none

end Checked

end AgentGraft
