import AgentGraft.Java.Spec
import AgentGraft.Log
import AgentGraft.Text.Quoted
import AgentGraft.Text.Split

/-!
# Target lists

Which containers an instrumentation is meant for is a list of names with commas between them; one
without names is meant for all. The instrumentations of a pod must not claim a container twice: at
most one may leave its list empty, and then only when it is alone, and no name may occur twice.
-/

namespace AgentGraft.Targets

/-- The names of a target list, without the white space around them and without blank ones. -/
def names (list : String) : List String :=
  (Text.split ',' list.toList).filterMap fun part =>
    let name := Text.stripChars part
    if name.isEmpty then none else some (String.ofList name)

/-- Why instrumentations cannot be assigned to containers. -/
inductive Fault where
  /-- One without targets stands beside another. -/
  | ambiguous
  /-- Containers named more than once. -/
  | repeated (names : List String)
  deriving DecidableEq, Repr

/-- The wording of a fault. -/
def Fault.message : Fault → String
  | .ambiguous =>
    "incorrect instrumentation configuration - please provide container names for all " ++
      "instrumentations"
  | .repeated names => "duplicated container names detected: " ++ Text.quotedList names

/-- Text put into ascending order by code points. -/
def sortNames (names : List String) : List String := names.mergeSort (· ≤ ·)

/-- The names that occur more than once, each once, in ascending order. -/
def repeatedNames (names : List String) : List String :=
  sortNames (names.eraseDups.filter fun name => 1 < names.count name)

/-- The names of several lists, one after the other. -/
def allNames (lists : List String) : List String := lists.flatMap names

/-- No name occurs twice in the lists taken together. -/
def checkRepeated (lists : List String) : Except Fault Unit :=
  match repeatedNames (allNames lists) with
  | [] => .ok ()
  | dups => .error (.repeated dups)

/-- The instrumentations that name containers, and those that name none, by their count. -/
def counts (lists : List String) : Nat × Nat :=
  let withNames := lists.countP fun list => !(names list).isEmpty
  (withNames, lists.length - withNames)

/-- An instrumentation without targets stands beside another. -/
def isAmbiguous (lists : List String) : Bool :=
  let (named, blank) := counts lists
  1 < blank || (blank != 0 && named != 0)

/-- The lists assign containers without overlap. -/
def check (lists : List String) : Except Fault Unit :=
  if isAmbiguous lists then .error .ambiguous else checkRepeated lists

/-- The lists of instrumentations. -/
def listsOf (instrumentations : List Instrumentation) : List String :=
  instrumentations.map (·.spec.containers)

/-- The lines of the check. -/
def lines (lists : List String) : List Line :=
  let (named, blank) := counts lists
  if isAmbiguous lists then
    [⟨.warning, .targets, "Ambiguous instrumentation targets: " ++ toString named ++
      " with container names, " ++ toString blank ++ " without"⟩]
  else []

end AgentGraft.Targets
