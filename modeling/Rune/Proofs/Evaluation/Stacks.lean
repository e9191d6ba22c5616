import Rune.Evaluation.Basic

/-!
# Rune - evaluation with stacks

The bindings being evaluated, and the fields that the objects around have so far, can be
kept on stacks instead of being handed on.  A reference to a binding puts it on the first
stack and begins with an empty second one; when it is done it takes the binding off again
and brings back the second stack, also if it fails.

An evaluation with stacks records what becomes of them, and it tells when its fuel runs
out.  Nothing else bounds how deep references nest.

Main results:

- Structure {lit}`Machine` is the state of an evaluation with stacks, with the record of how
  its stacks change.
- Definition {lit}`Stacked.guarded` evaluates a binding while it is on the stack.
- Definition {lit}`Stacked.evaluate` evaluates a document.
-/

namespace Rune

/-- Both stacks: the bindings being evaluated, the first one first, and the fields that the
objects around have so far, those of the innermost one last. -/
structure Frame where
  pending : List Slot
  scopes : List (Entries Value)

/-- The fields of the innermost object. -/
def Frame.siblings (frame : Frame) : Siblings := frame.scopes.getLast?

/-- Why an evaluation with stacks stops. -/
inductive Halt where
  | flaw (flaw : Flaw)
  /-- References nest deeper than the fuel lasts. -/
  | exhausted

/-- The state of an evaluation with stacks.  The record has the bindings being evaluated
after every change, and the stacks before and after every evaluation of a binding. -/
structure Machine where
  memory : Memory
  frame : Frame
  moments : List (List Slot)
  exits : List (Frame × Frame)

namespace Machine

/-- The state before an evaluation. -/
def start (memory : Memory) : Machine := ⟨memory, ⟨[], []⟩, [[]], []⟩

/-- Change the bindings being evaluated. -/
def withPending (machine : Machine) (pending : List Slot) : Machine :=
  { machine with
    frame := { machine.frame with pending := pending }
    moments := machine.moments ++ [pending] }

/-- Change the fields of the objects around. -/
def withScopes (machine : Machine) (scopes : List (Entries Value)) : Machine :=
  { machine with frame := { machine.frame with scopes := scopes } }

/-- Give a field of the innermost object a value. -/
def assign (machine : Machine) (key : String) (value : Value) : Machine :=
  let fields := machine.frame.siblings.getD []
  machine.withScopes (machine.frame.scopes.dropLast ++ [Entries.insert key value fields])

/-- Record the end of an evaluation that began with the given stacks. -/
def exit (machine : Machine) (before : Frame) : Machine :=
  { machine with exits := machine.exits ++ [(before, machine.frame)] }

end Machine

/-- An evaluation with stacks. -/
abbrev Stacked := EStateM Halt Machine

namespace Stacked

/-- An evaluation that leaves the stacks alone. -/
def lift {α : Type} (x : Eval α) : Stacked α := fun machine =>
  match x machine.memory with
  | .ok a memory => .ok a { machine with memory := memory }
  | .error flaw memory => .error (.flaw flaw) { machine with memory := memory }

variable (scope : Scope)

/-- The effects of an evaluation with stacks that refers to top-level bindings by
{lit}`force`. -/
def effects (force : Slot → TextRange → Stacked Value) : Effects Stacked where
  fail fault range := lift (Evaluation.fail fault range)
  record space path range := lift (Evaluation.record scope space path range)
  compile source range := lift (Evaluation.compile source range)
  ask key := lift (Evaluation.ask scope key)
  force := force

section

variable (force : Slot → TextRange → Stacked Value)

/-! ## Expressions -/

/-- The value of an operand among the fields of the innermost object. -/
def operandValue (operand : Operand) : Stacked Value := do
  let machine ← get
  Evaluation.operandValue scope (effects scope force) machine.frame.siblings operand

/-- The value of an operand, or nothing if it is a reference that leads nowhere. -/
def probe (operand : Operand) : Stacked (Option Value) := do
  let machine ← get
  Evaluation.probe scope (effects scope force) machine.frame.siblings operand

/-- Whether a condition holds. -/
def holds : Condition → Stacked Bool
  | .presence operand _ => do
    match ← probe scope force operand with
    | some value => return !value.isNull
    | none => return false
  | .equality left right range => do
    let a ← operandValue scope force left
    let b ← operandValue scope force right
    if left.isHost || right.isHost then return a.sameText b
    match a.comparison b with
    | some result => return result
    | none => (effects scope force).fail (.incomparable a.kind b.kind) range

mutual

/-- The value of an expression. -/
def value : ValueExpr → Stacked Value
  | .operand operand => operandValue scope force operand
  | .rawString pattern range => (effects scope force).compile pattern range
  | .array items _ => do return .array (← values items)
  | .conditional condition thenValue elseValue _ => do
    if ← holds scope force condition then value thenValue else valueOrNull elseValue

/-- The values of several expressions. -/
def values : List ValueExpr → Stacked (List Value)
  | [] => return []
  | expr :: exprs => do
    let first ← value expr
    return first :: (← values exprs)

/-- The value of an expression that may be absent. -/
def valueOrNull : Option ValueExpr → Stacked Value
  | some expr => value expr
  | none => return .null

end

/-! ## Objects -/

/-- The fields of a new object, which is the innermost one while it is built. -/
def object (build : Stacked Unit) : Stacked (Entries Value) := fun machine =>
  match build (machine.withScopes (machine.frame.scopes ++ [[]])) with
  | .ok () after =>
    .ok (after.frame.siblings.getD []) (after.withScopes after.frame.scopes.dropLast)
  | .error halt after => .error halt (after.withScopes after.frame.scopes.dropLast)

mutual

/-- Give the innermost object the fields of members. -/
def members (path : List String) : List Member → Stacked Unit
  | [] => return ()
  | child :: children => do
    member path child
    members path children

/-- Give the innermost object the fields of one member. -/
def member (path : List String) : Member → Stacked Unit
  | .field name expr range => do
    let key := Key.canonical name
    let result ← value scope force expr
    modify (·.assign key result)
    (effects scope force).record .items (path ++ [key]) range
  | .block name children range => do
    let key := Key.canonical name
    (effects scope force).record .items (path ++ [key]) range
    let inner ← object (members (path ++ [key]) children)
    modify (·.assign key (.object inner))
  | .conditional condition thenChildren elseChildren _ => do
    if ← holds scope force condition then members path thenChildren
    else members path elseChildren

end

/-! ## Top-level bindings -/

/-- The value of the binding in a slot. -/
def bindingValue (slot : Slot) : Stacked Value :=
  match slot with
  | .global name =>
    match Entries.get? name scope.globals with
    | some (expr, _) => value scope force expr
    | none => (effects scope force).fail (.unresolved name) (.empty 0)
  | .item name =>
    match Entries.get? name scope.items with
    | some (children, _) => do return .object (← object (members scope force [name] children))
    | none => (effects scope force).fail (.unresolved name) (.empty 0)

end

/-- Compute the value of a binding while it is on the stack and no object is around. -/
def guarded (slot : Slot) (range : TextRange) (compute : Stacked Value) : Stacked Value :=
  fun machine =>
    let before := machine.frame
    if slot ∈ before.pending then
      .error (.flaw (.cycle (Evaluation.chain before.pending slot) range)) (machine.exit before)
    else
      let leave (after : Machine) : Machine :=
        ((after.withPending after.frame.pending.dropLast).withScopes before.scopes).exit before
      match compute ((machine.withScopes []).withPending (before.pending ++ [slot])) with
      | .ok value after => .ok value (leave after)
      | .error halt after => .error halt (leave after)

/-- The value of a top-level binding: as it is remembered, or evaluated now.  References
may nest as deep as the fuel lasts. -/
def forceWith : Nat → Slot → TextRange → Stacked Value
  | 0, _, _ => throw .exhausted
  | fuel + 1, slot, range => do
    let machine ← get
    match machine.memory.value? slot with
    | some known => return known
    | none =>
      lift (Evaluation.recordSlot scope slot)
      let result ← guarded slot range (bindingValue scope (forceWith fuel) slot)
      lift (modify (·.remember slot result))
      return result

/-! ## Documents -/

variable (fuel : Nat)

/-- The values of global bindings. -/
def globalValues : Entries (ValueExpr × TextRange) → Stacked (Entries Value)
  | [] => return []
  | (name, _, range) :: bindings => do
    lift (Evaluation.record scope .globals [name] range)
    let result ← forceWith scope fuel (.global name) range
    return (name, result) :: (← globalValues bindings)

/-- The values of metadata, after those given so far. -/
def metadataValues (given : Entries Value) :
    List (String × ValueExpr × TextRange) → Stacked (Entries Value)
  | [] => return given
  | (key, expr, range) :: bindings => do
    let result ← value scope (forceWith scope fuel) expr
    lift (Evaluation.record scope .metadata [key] range)
    metadataValues (Entries.insert key result given) bindings

/-- The values of items. -/
def itemValues : Entries (List Member × TextRange) → Stacked (Entries Value)
  | [] => return []
  | (name, _, range) :: bindings => do
    let result ← forceWith scope fuel (.item name) range
    return (name, result) :: (← itemValues bindings)

/-- The configuration of a document. -/
def evaluate : Stacked Config := do
  let globals ← globalValues scope fuel scope.globals
  let metadata ← metadataValues scope fuel [] scope.metadata
  let items ← itemValues scope fuel scope.items
  let machine ← get
  return {
    source := scope.source
    globals := scope.withIncluded .globals globals
    items := scope.withIncluded .items items
    metadata := metadata
    locations := Entries.merge scope.includedLocations machine.memory.locations }

end Stacked

end Rune
