/-!
# Log lines

What the library reports while it works. A line belongs to the part that reports it and has a level;
which lines are shown is for the caller to say.
-/

namespace AgentGraft

/-- How much a line matters. -/
inductive Level where
  | debug
  | info
  | warning
  | error
  deriving DecidableEq, Repr

/-- The rank of a level. -/
def Level.rank : Level → Nat
  | .debug => 0
  | .info => 1
  | .warning => 2
  | .error => 3

/-- The part that reports. -/
inductive Part where
  | endpoint
  | policy
  | environment
  | injection
  | mutation
  | targets
  | cluster
  | settings
  | admission
  | service
  deriving DecidableEq, Repr

/-- One line. -/
structure Line where
  level : Level
  part : Part
  text : String
  deriving DecidableEq, Repr

/-- The lines of a level or above, in order. -/
def Line.atLeast (level : Level) (lines : List Line) : List Line :=
  lines.filter fun l => level.rank ≤ l.level.rank

end AgentGraft
