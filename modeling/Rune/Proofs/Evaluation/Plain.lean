import Rune.Evaluation.Basic
import Rune.Proofs.Outcome

/-!
# Rune - plain evaluation

Plain evaluation calls by name.  It has no memory and does not look out for cycles:
every reference to a top-level binding evaluates the binding again, with no fields
around it.  Such references may nest without end, so they are cut off at a depth; what
the outcomes at growing depths come to is what plain evaluation does.

Main results:

- Definition {lit}`ByName.slotValue` is the value of a top-level binding at a depth.
- Definition {lit}`Scope.tasks` lists what a document evaluates, in its order, and
  {lit}`ByName.outcome` is the outcome of a task at a depth.
- Definitions {lit}`ByName.Yields`, {lit}`ByName.Fails` and {lit}`ByName.Recurs` say what a task
  comes to, and {lit}`ByName.First` what the first task is that yields no value.
-/

namespace Rune

namespace ByName

variable (scope : Scope)

/-- Read a pattern. -/
def compile (source : String) (range : TextRange) : Outcome Flaw Value :=
  match Pattern.read source with
  | .ok pattern => .value (.pattern pattern)
  | .error reason => .failure (.fault (.badPattern reason source) range)

/-- The effects of an evaluation without memory, in which a reference to a top-level
binding is a call. -/
def effects (call : Slot → Outcome Flaw Value) : Effects (Outcome Flaw) where
  fail cause range := .failure (.fault cause range)
  record _ _ _ := .value ()
  compile := compile
  ask key := .value (scope.services.system key)
  force slot _ := call slot

/-- The value of a top-level binding, where calls nest at most {lit}`depth` deep. -/
def slotValue : Nat → Slot → Outcome Flaw Value
  | 0, _ => .tooDeep
  | depth + 1, slot => Evaluation.bindingValue scope (effects scope (slotValue depth)) slot

/-- The effects of an evaluation whose calls nest at most {lit}`depth` deep. -/
def effectsAt (depth : Nat) : Effects (Outcome Flaw) := effects scope (slotValue scope depth)

end ByName

/-! ## Documents -/

/-- What a document has to evaluate: a top-level binding or the expression of a
binding of metadata. -/
inductive Task where
  | slot (slot : Slot)
  | metadata (expr : ValueExpr)

/-- What a document evaluates: its globals, then its metadata, then its items. -/
def Scope.tasks (scope : Scope) : List Task :=
  scope.globals.map (fun bound => .slot (.global bound.1)) ++
    scope.metadata.map (fun bound => .metadata bound.2.1) ++
    scope.items.map (fun bound => .slot (.item bound.1))

namespace ByName

variable (scope : Scope)

/-- The outcome of a task, where calls nest at most {lit}`depth` deep. -/
def outcome (depth : Nat) : Task → Outcome Flaw Value
  | .slot slot => slotValue scope depth slot
  | .metadata expr => Evaluation.value scope (effectsAt scope depth) none expr

/-- A task yields a value. -/
def Yields (task : Task) (value : Value) : Prop := ∃ depth, outcome scope depth task = .value value

/-- A task fails because of a flaw. -/
def Fails (task : Task) (flaw : Flaw) : Prop := ∃ depth, outcome scope depth task = .failure flaw

/-- A task recurs without bound. -/
def Recurs (task : Task) : Prop := ∀ depth, outcome scope depth task = .tooDeep

/-- The first of several tasks that does not yield a value has a property. -/
def First (tasks : List Task) (property : Task → Prop) : Prop :=
  ∃ before task after, tasks = before ++ task :: after ∧
    (∀ earlier ∈ before, ∃ value, Yields scope earlier value) ∧ property task

end ByName

end Rune
