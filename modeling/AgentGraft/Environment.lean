import AgentGraft.Bundle.Cache
import AgentGraft.Manifest.Container

/-!
# Effective environment

The variables that a container will see: those it declares, in order, and those it imports. The
first occurrence of a name counts, so what is declared shadows what is imported, and an earlier
source shadows a later one. The keys of a bundle are taken in ascending order, which makes the view
independent of the order of its data.

A bundle is read at most once in a pass. One that cannot be had is reported and skipped; only what
no store is made for ends the resolution.
-/

namespace AgentGraft

/-- Why a pass over a pod ends early, targets aside. -/
inductive Failure where
  /-- A store broke down. -/
  | breakdown (b : Breakdown)
  /-- A bundle holds what cannot be the value of a variable. -/
  | invalid (issues : List Issue)
  deriving DecidableEq

/-- The sort of a failure. -/
def Failure.sort : Failure → ErrorSort
  | .breakdown b => b.sort
  | .invalid _ => .ordinary

/-- What a pass works with. -/
structure Pass where
  world : World
  /-- The bundles read so far. -/
  cache : Cache
  deriving DecidableEq

namespace Pass

/-- A pass that has read nothing. -/
def start (w : World) : Pass := ⟨w, .empty⟩

/-- The pass with more lines in its log. -/
def note (p : Pass) (lines : List Line) : Pass := { p with world := p.world.note lines }

end Pass

/-- Where and how long bundles are read. -/
structure Scope where
  store : Store
  ns : String
  /-- The clock at which no read may start any more. -/
  deadline : Option Int

namespace Environment

/-! ### Reading bundles -/

/-- A line about a bundle. -/
def line (level : Level) (text : String) : Line := ⟨level, .environment, text⟩

/-- A bundle in messages. -/
def bundleName (s : Scope) (kind : BundleKind) (name : String) : String :=
  kind.name ++ " " ++ s.ns ++ "/" ++ name

/-- The line of a read that failed. -/
def faultLine (s : Scope) (kind : BundleKind) (ref : BundleRef) (f : BundleFault) : Line :=
  if f.missing && ref.optional = some true then
    line .debug ("Optional " ++ bundleName s kind ref.name ++ " not found; skipping")
  else line .error ("Failed to fetch " ++ kind.name ++ " for envFrom: " ++ f.message)

/-- Reads a bundle and keeps it; none when it cannot be had. -/
def read (s : Scope) (kind : BundleKind) (ref : BundleRef) (timeout : Option Int) (p : Pass) :
    Except Failure (Option Contents) × Pass :=
  let (outcome, world) := s.store.ask kind s.ns ref.name timeout p.world
  let p := { p with world := world }
  match outcome with
  | .breakdown b => (.error (.breakdown b), p)
  | .fault f => (.ok none, p.note [faultLine s kind ref f])
  | .contents data =>
    (.ok (some data),
      { p with cache := p.cache.put kind ref.name data }.note
        [line .debug ("Fetched and cached " ++ bundleName s kind ref.name ++ " (" ++
          toString data.length ++ " keys)")])

/-- The contents of a bundle: those in the cache, else those of a read, unless the deadline has
passed. -/
def fetch (s : Scope) (kind : BundleKind) (ref : BundleRef) (p : Pass) :
    Except Failure (Option Contents) × Pass :=
  match p.cache.find? kind ref.name with
  | some data =>
    (.ok (some data), p.note [line .debug ("Using cached " ++ kind.name ++ " from envFrom: " ++
      s.ns ++ "/" ++ ref.name)])
  | none =>
    match s.deadline with
    | none => read s kind ref none p
    | some deadline =>
      if deadline ≤ p.world.clock then
        (.ok none, p.note [line .warning ("Deadline exceeded before fetching " ++
          bundleName s kind ref.name ++ " for envFrom; skipping")])
      else read s kind ref (some (deadline - p.world.clock)) p

/-! ### Importing variables -/

/-- The contents of a bundle in ascending order of keys. -/
def sortKeys (data : Contents) : Contents := data.mergeSort fun a b => a.1 ≤ b.1

/-- An imported variable; its value is a text or null. -/
def imported (name : String) (v : Value) : Checked EnvVar :=
  (fun value => ⟨name, value, none, []⟩) <$>
    (Reader.text.nullable v).under (.key EnvVar.valueField.name)

/-- The view with the keys of a bundle, put behind a prefix, whose names are not in it yet. -/
def addKeys (start : String) : Contents → List EnvVar → Checked (List EnvVar)
  | [], view => .ok view
  | (key, v) :: data, view =>
    if Env.declares (start ++ key) view then addKeys start data view
    else match imported (start ++ key) v with
      | .bad issues => .bad issues
      | .ok e => addKeys start data (view ++ [e])

/-- The view with what a source adds to it. -/
def addSource (s : Scope) (source : EnvFromSource) (view : List EnvVar) (p : Pass) :
    Except Failure (List EnvVar) × Pass :=
  match source.bundle with
  | none => (.ok view, p)
  | some (kind, ref) =>
    match fetch s kind ref p with
    | (.error f, p) => (.error f, p)
    | (.ok none, p) => (.ok view, p)
    | (.ok (some data), p) =>
      match addKeys (source.keyPrefix.getD "") (sortKeys data) view with
      | .bad issues => (.error (.invalid issues), p)
      | .ok view => (.ok view, p)

/-- The view with what sources add to it, one after the other. -/
def addSources (s : Scope) : List EnvFromSource → List EnvVar → Pass →
    Except Failure (List EnvVar) × Pass
  | [], view, p => (.ok view, p)
  | source :: sources, view, p =>
    match addSource s source view p with
    | (.error f, p) => (.error f, p)
    | (.ok view, p) => addSources s sources view p

/-- The line of a resolved view. -/
def resolvedLine (c : Container) (view : List EnvVar) : Line :=
  line .debug ("Resolved environment for container " ++ c.name ++ ": direct=" ++
    toString c.env.length ++ " envFrom=" ++ toString (view.length - c.env.length) ++ " total=" ++
    toString view.length)

/-- The effective environment of a container. -/
def resolve (s : Scope) (c : Container) (p : Pass) : Except Failure (List EnvVar) × Pass :=
  if c.envFrom.isEmpty then (.ok c.env, p)
  else match addSources s c.envFrom c.env p with
    | (.error f, p) => (.error f, p)
    | (.ok view, p) => (.ok view, p.note [resolvedLine c view])

end Environment

end AgentGraft
