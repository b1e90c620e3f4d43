import AgentGraft.Log
import AgentGraft.Manifest.Env

/-!
# Bundle stores

Where the contents of bundles come from. A store is nothing but its answers: to a read, given all
reads before it, with the contents or a failure, and the time that the read takes. So a store may
change its mind from one read to the next. A read that fails in one of the ways that stores are made
for leaves a `BundleFault`; a `Breakdown` is any other way to fail. Nothing keeps a store from
failing with an error that means something else elsewhere, so a breakdown has an `ErrorSort`.

The `World` is what a pass of reads leaves behind: the clock, the reads so far and the log.
-/

namespace AgentGraft

/-! ### Failures -/

/-- A bundle could not be had. -/
structure BundleFault where
  /-- The bundle does not exist. -/
  missing : Bool
  kind : String
  ns : String
  name : String
  /-- Why; may be empty. -/
  reason : String
  deriving DecidableEq, Repr

/-- The wording of a fault. -/
def BundleFault.message (f : BundleFault) : String :=
  "failed to fetch " ++ f.kind ++ " " ++ f.ns ++ "/" ++ f.name ++
    if f.reason = "" then "" else ": " ++ f.reason

/-- What an error counts as for those who handle it. -/
inductive ErrorSort where
  /-- A pod is misconfigured, and its author has to mend it. -/
  | misconfiguration
  /-- Something went wrong. -/
  | ordinary
  /-- No handler takes it: what is going on is given up. -/
  | fatal
  deriving DecidableEq, Repr

/-- An error of any sort, with its wording. -/
structure StrayError where
  sort : ErrorSort
  message : String
  deriving DecidableEq, Repr

/-- An error reads as its wording. -/
instance : Coe StrayError String := ⟨StrayError.message⟩

/-- A failure that stores are not made for. -/
inductive Breakdown where
  /-- An encoded text holds a character outside ASCII. -/
  | nonAsciiText
  /-- A value of some sort stands where an encoded text is expected. -/
  | notText (sort : String)
  /-- Anything else. -/
  | other (e : StrayError)
  deriving DecidableEq, Repr

namespace Breakdown

/-- The sort of a breakdown. -/
def sort : Breakdown → ErrorSort
  | .nonAsciiText => .ordinary
  | .notText _ => .ordinary
  | .other e => e.sort

/-- The wording of a breakdown. -/
def message : Breakdown → String
  | .nonAsciiText => "string argument should contain only ASCII characters"
  | .notText sort =>
    "argument should be a bytes-like object or ASCII string, not " ++ "\x27" ++ sort ++ "\x27"
  | .other e => e.message

end Breakdown

/-! ### Reads -/

/-- A read of a bundle. -/
structure Read where
  kind : BundleKind
  ns : String
  name : String
  /-- The seconds that the read may take, if there is a limit. -/
  timeout : Option Int
  /-- The clock when the read starts. -/
  start : Int
  deriving DecidableEq, Repr

/-- The contents of a bundle: keys with their values, which are texts as a rule. -/
abbrev Contents := Members

/-- How a read ends. -/
inductive Outcome where
  | contents (data : Contents)
  | fault (f : BundleFault)
  | breakdown (b : Breakdown)
  deriving DecidableEq

/-- The answer to a read. -/
structure Reply where
  outcome : Outcome
  /-- The seconds that the read took. -/
  cost : Int
  deriving DecidableEq

/-- A source of bundles. -/
structure Store where
  /-- There is a cluster behind the store. -/
  available : Bool
  /-- The reply to a read, given the reads before it, the oldest first. -/
  answer : List Read → Read → Reply

/-- What reads leave behind. -/
structure World where
  clock : Int
  /-- The reads so far, the oldest first. -/
  reads : List Read
  /-- The lines so far, the oldest first. -/
  log : List Line
  deriving DecidableEq

namespace World

/-- A world at the start of the clock. -/
def start (clock : Int) : World := ⟨clock, [], []⟩

/-- The world with more lines in its log. -/
def note (w : World) (lines : List Line) : World := { w with log := w.log ++ lines }

end World

/-- Puts a read to a store. -/
def Store.ask (s : Store) (kind : BundleKind) (ns name : String) (timeout : Option Int)
    (w : World) : Outcome × World :=
  let read : Read := ⟨kind, ns, name, timeout, w.clock⟩
  let reply := s.answer w.reads read
  (reply.outcome, { w with clock := w.clock + reply.cost, reads := w.reads ++ [read] })

end AgentGraft
