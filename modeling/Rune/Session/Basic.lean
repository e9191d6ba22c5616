import Rune.Evaluation.Basic

/-!
# Rune - sessions

A session is what the documents of one resolution share: the configurations of
the files that were gathered, the files that are being resolved, and the
resources.  A session survives the failure of a document.

Main results:

- Structure {lit}`Session` and type {lit}`Resolve`, a step of a resolution.
- Definition {lit}`Session.within` marks a file as being resolved during a step, also
  if the step fails.
-/

namespace Rune

/-- What the documents of a resolution share.  The file that is being resolved
comes last in {lit}`active`, after the files that gather it. -/
structure Session where
  modules : Entries Config
  active : List String
  resources : Resources

/-- A step of a resolution: a result or a failure, and the session after it. -/
abbrev Resolve := EStateM Failure Session

/-- A fault fails a step and leaves the session as it is. -/
instance : MonadLift (Except Fault) Resolve where
  monadLift
    | .ok a => pure a
    | .error fault => throw (.fault fault)

namespace Session

/-- A session that has not begun. -/
def fresh : Session := ⟨[], [], .fresh⟩

/-- Record an event. -/
def note (event : Event) : Resolve Unit :=
  modify fun session => { session with resources := session.resources.note event }

/-- Keep the configuration of a file. -/
def keep (path : String) (config : Config) : Resolve Unit :=
  modify fun session => { session with modules := Entries.insert path config session.modules }

/-- A step during which a file is being resolved, if the document has a path. -/
def within {α : Type} (path : Option String) (step : Resolve α) : Resolve α := fun session =>
  match step { session with active := session.active ++ path.toList } with
  | .ok a after => .ok a { after with active := session.active }
  | .error failure after => .error failure { after with active := session.active }

/-- A step that needs the resources only. -/
def withResources {α : Type} (step : Resources → Except Failure (α × Resources)) : Resolve α :=
  fun session =>
    match step session.resources with
    | .ok (a, resources) => .ok a { session with resources := resources }
    | .error failure => .error failure session

/-- Evaluate a document. -/
def evaluate (scope : Scope) : Resolve Config := fun session =>
  match scope.evaluate (.fresh session.resources) with
  | .ok config memory => .ok config { session with resources := memory.resources }
  | .error flaw memory =>
    .error (flaw.failure scope.source) { session with resources := memory.resources }

/-- A fact about the system. -/
def fact (services : Services) (key : String) : Resolve (Option String) :=
  withResources fun resources => .ok (resources.fact services.system key)

/-- Read a pattern that belongs to no document. -/
def compile (source : String) : Resolve Pattern :=
  withResources fun resources =>
    match resources.compile source with
    | .ok result => .ok result
    | .error fault => .error (fault.failure (Diagnostic.detached · 0 "" none) source)

/-- The text of a file, or the reason why it is unavailable. -/
def load (services : Services) (path : String) : Resolve (Except String String) := do
  note (.fileAsked path)
  match services.files.read path with
  | .ok text => return .ok text
  | .error fault =>
    match fault with
    | .undecodable bytes => throw (.fault (.badEncoding bytes.message))
    | _ => return .error (fault.reason?.getD "")

end Session

end Rune
