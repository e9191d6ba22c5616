import Rune.Pattern.Cache
import Rune.Value.Entries

/-!
# Rune - resources of a session

All documents of one session share the patterns that were read and the facts
that were asked for, and they leave one record of events.

Main results:

- Type {lit}`Event` lists what is recorded.
- Definitions {lit}`Resources.compile` and {lit}`Resources.fact` read a pattern or ask
  for a fact, unless that was done before.
-/

namespace Rune

/-- What happens in a session. -/
inductive Event where
  /-- A file was asked for. -/
  | fileAsked (path : String)
  /-- A fact was asked for. -/
  | factAsked (key : String)
  | compiled (source : String)
  | loaded (path : String) (length : Nat) (aliasName : String)
  | reused (path aliasName : String)
  | resolved (path : Option String) (globals items metadata : Nat)
  | unavailable (primary fallback : String)
  | finished (path : Option String) (gathered patterns hits : Nat)
  deriving DecidableEq

namespace Event

/-- The name under which a document is reported. -/
def shownPath (path : Option String) : String :=
  match path with
  | some path => if path = "" then "<text>" else path
  | none => "<text>"

/-- The report of an event; questions to services are not reported. -/
def report? : Event → Option String
  | .fileAsked _ | .factAsked _ => none
  | .compiled source =>
    let shown := Quoted.quote source
    some s!"Compiled pattern {shown}"
  | .loaded path length aliasName =>
    let shown := Quoted.quote aliasName
    some s!"Loaded gathered file {path} ({length} bytes) as {shown}"
  | .reused path aliasName =>
    let shown := Quoted.quote aliasName
    some s!"Reusing gathered module {path} as {shown}"
  | .resolved path globals items metadata =>
    let shown := shownPath path
    some s!"Resolved {shown}: {globals} globals, {items} items, {metadata} metadata"
  | .unavailable primary fallback =>
    some s!"Primary config {primary} unavailable, trying fallback {fallback}"
  | .finished path gathered patterns hits =>
    let shown := shownPath path
    let counts := s!"{gathered} gathered files, {patterns} patterns compiled"
    some s!"Resolution of {shown} finished: {counts}, {hits} pattern cache hits"

end Event

/-- The resources of a session.  The last event comes first. -/
structure Resources where
  patterns : PatternCache
  facts : Entries (Option String)
  events : List Event

namespace Resources

/-- The resources of a session that has not begun. -/
def fresh : Resources := ⟨.empty, [], []⟩

/-- Record an event. -/
def note (event : Event) (resources : Resources) : Resources :=
  { resources with events := event :: resources.events }

/-- The events in the order in which they happened. -/
def history (resources : Resources) : List Event := resources.events.reverse

/-- Read a pattern, unless it was read before. -/
def compile (source : String) (resources : Resources) :
    Except RegexFault (Pattern × Resources) := do
  let known := resources.patterns.contains source
  let (pattern, patterns) ← resources.patterns.compile source
  let after := { resources with patterns := patterns }
  return (pattern, if known then after else after.note (.compiled source))

/-- Ask a system for a fact, unless it was asked before. -/
def fact (system : String → Option String) (key : String) (resources : Resources) :
    Option String × Resources :=
  match Entries.get? key resources.facts with
  | some known => (known, resources)
  | none =>
    let answer := system key
    let facts := Entries.insert key answer resources.facts
    (answer, { resources with facts := facts }.note (.factAsked key))

end Resources

end Rune
