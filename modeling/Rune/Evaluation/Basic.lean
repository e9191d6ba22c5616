import Rune.Evaluation.Scope
import Rune.Session.Resources
import Rune.System.Key
import Rune.Value.Text

/-!
# Rune - evaluation

The top-level bindings of a document are evaluated when they are first asked for,
so they may stand in any order.  A binding that is asked for while it is being
evaluated depends on itself, which is a fault.  Of a condition only the chosen
branch is evaluated.

Expressions are evaluated by recursion on their form.  What that does besides
computing is left open there, as a parameter of type {lit}`Effects`: above all, what a
reference to a top-level binding does.  It is closed afterwards by recursion on how
many bindings may still be asked for, one from within another.

Main results:

- Structure {lit}`Effects` lists what is left open.
- Definition {lit}`Evaluation.value` evaluates an expression and
  {lit}`Evaluation.members` the members of a block, whatever the effects.
- Definition {lit}`Evaluation.forceSlot` evaluates a top-level binding, once.
- Definition {lit}`Scope.evaluate` evaluates a whole document.
-/

namespace Rune

/-- What an evaluation has found out so far: the values of the bindings that were
asked for and the locations of bindings, beside the resources of the session. -/
structure Memory where
  globals : Entries Value
  items : Entries Value
  locations : Locations
  resources : Resources

namespace Memory

/-- The memory of an evaluation that has not begun. -/
def fresh (resources : Resources) : Memory := ⟨[], [], [], resources⟩

/-- The value of a binding that was evaluated. -/
def value? (memory : Memory) : Slot → Option Value
  | .global name => Entries.get? name memory.globals
  | .item name => Entries.get? name memory.items

/-- Remember the value of a binding. -/
def remember (memory : Memory) (slot : Slot) (value : Value) : Memory :=
  match slot with
  | .global name => { memory with globals := Entries.insert name value memory.globals }
  | .item name => { memory with items := Entries.insert name value memory.items }

/-- Record the location of a binding. -/
def record (memory : Memory) (place : Place) (location : Location) : Memory :=
  { memory with locations := Entries.insert place location memory.locations }

end Memory

/-- An evaluation: a value or a flaw, and the memory after it. -/
abbrev Eval := EStateM Flaw Memory

/-- The fields that an object has so far, for its members to refer to; outside of
objects there are none. -/
abbrev Siblings := Option (Entries Value)

/-- What an evaluation does besides computing. -/
structure Effects (m : Type → Type) where
  /-- Stop with a fault at a range. -/
  fail {α : Type} : EvaluationFault → TextRange → m α
  /-- Record the location of a binding. -/
  record : Namespace → List String → TextRange → m Unit
  /-- Read a pattern that stands at a range. -/
  compile : String → TextRange → m Value
  /-- Ask the system for a fact. -/
  ask : String → m (Option String)
  /-- Refer to a top-level binding at a range. -/
  force : Slot → TextRange → m Value

namespace Value

/-- Whether two values are equal in a condition; some kinds cannot be compared.
Null can be compared with everything. -/
def comparison : Value → Value → Option Bool
  | .number a, .number b => some (a.eq b)
  | .string a, .string b => some (a = b)
  | .bool a, .bool b => some (a = b)
  | .null, .null => some true
  | .null, _ | _, .null => some false
  | _, _ => none

/-- Whether two values have the same text.  Null has no text and equals only
itself. -/
def sameText (a b : Value) : Bool :=
  if a.isNull || b.isNull then a.isNull && b.isNull else a.text = b.text

end Value

namespace Evaluation

section

variable {m : Type → Type} [Monad m] (scope : Scope) (effects : Effects m)

/-! ## Services -/

/-- A fact about the system, which has to be known. -/
def fact (key : String) (range : TextRange) : m String := do
  match SystemKey.ofName? key with
  | none => effects.fail (.unknownSystemKey key) range
  | some known =>
    match ← effects.ask known.name with
    | some answer => return answer
    | none => effects.fail (.unavailable key) range

/-- The value of a reference to the environment or the system; an environment
variable that is not set is null. -/
def hostValue : HostRef → m Value
  | .env name _ =>
    return match scope.services.environment name with
      | some text => .string text
      | none => .null
  | .sys key range => return .string (← fact effects key range)

/-- The text of a reference inside a string; an environment variable that is not
set has none. -/
def hostText : HostRef → m String
  | .env name _ => return (scope.services.environment name).getD ""
  | .sys key range => fact effects key range

/-- The text of the pieces of a string. -/
def pieceTexts : List Piece → m String
  | [] => return ""
  | .text part :: pieces => return part ++ (← pieceTexts pieces)
  | .ref ref :: pieces => do
    let part ← hostText scope effects ref
    return part ++ (← pieceTexts pieces)

/-! ## References -/

/-- The field that a key stands for among the fields so far. -/
def sibling? (siblings : Siblings) (key : String) : Option Value :=
  siblings.bind (Entries.get? key)

/-- Whether a key stands for anything. -/
def isBound (siblings : Siblings) (key : String) : Bool :=
  (sibling? siblings key).isSome || (scope.slot? key).isSome || (scope.included? key).isSome

/-- The keys of an object that a dotted reference goes through. -/
def descend (segments walked : List String) :
    List String → Value → Except EvaluationFault Value
  | [], value => .ok value
  | key :: keys, value =>
    match value.member? key with
    | some next => descend segments (walked ++ [key]) keys next
    | none => .error (.missingKey segments walked key)

/-- The value that a name stands for: a field of the object around it, a binding
of the document, or a binding of an included configuration. -/
def nameValue (siblings : Siblings) (name : String) (range : TextRange) : m Value :=
  let key := Key.canonical name
  match sibling? siblings key with
  | some value => return value
  | none =>
    match scope.slot? key with
    | some slot => effects.force slot range
    | none =>
      match scope.included? key with
      | some value => return value
      | none => effects.fail (.unresolved name) range

/-- The value that a dotted reference leads to, or why it leads nowhere.  Its head
is an alias or else a name. -/
def pathValue (siblings : Siblings) (head next : String) (rest : List String)
    (range : TextRange) : m (Except EvaluationFault Value) := do
  let segments := head :: next :: rest
  let key := Key.canonical head
  match Entries.get? key scope.aliases with
  | some config =>
    match config.member? next with
    | some value => return descend segments [head, next] rest value
    | none => return .error (.undefinedMember segments head next)
  | none =>
    if isBound scope siblings key then
      let value ← nameValue scope effects siblings head range
      return descend segments [head] (next :: rest) value
    else return .error (.unknownHead segments head)

/-- The value of an operand. -/
def operandValue (siblings : Siblings) : Operand → m Value
  | .literal scalar _ => return .ofScalar scalar
  | .interpolated pieces _ => return .string (← pieceTexts scope effects pieces)
  | .name name range => nameValue scope effects siblings name range
  | .path head next rest range => do
    match ← pathValue scope effects siblings head next rest range with
    | .ok value => return value
    | .error fault => effects.fail fault range
  | .host ref => hostValue scope effects ref

/-! ## Conditions -/

/-- The value of an operand, or nothing if it is a reference that leads nowhere. -/
def probe (siblings : Siblings) : Operand → m (Option Value)
  | .name name range =>
    if isBound scope siblings (Key.canonical name) then do
      return some (← nameValue scope effects siblings name range)
    else return none
  | .path head next rest range => do
    match ← pathValue scope effects siblings head next rest range with
    | .ok value => return some value
    | .error _ => return none
  | operand => return some (← operandValue scope effects siblings operand)

/-- Whether a condition holds.  What comes from the environment or the system is
compared as text. -/
def holds (siblings : Siblings) : Condition → m Bool
  | .presence operand _ => do
    match ← probe scope effects siblings operand with
    | some value => return !value.isNull
    | none => return false
  | .equality left right range => do
    let a ← operandValue scope effects siblings left
    let b ← operandValue scope effects siblings right
    if left.isHost || right.isHost then return a.sameText b
    match a.comparison b with
    | some result => return result
    | none => effects.fail (.incomparable a.kind b.kind) range

/-! ## Values and members -/

mutual

/-- The value of an expression. -/
def value (siblings : Siblings) : ValueExpr → m Value
  | .operand operand => operandValue scope effects siblings operand
  | .rawString pattern range => effects.compile pattern range
  | .array items _ => do return .array (← values siblings items)
  | .conditional condition thenValue elseValue _ => do
    if ← holds scope effects siblings condition then value siblings thenValue
    else valueOrNull siblings elseValue

/-- The values of several expressions. -/
def values (siblings : Siblings) : List ValueExpr → m (List Value)
  | [] => return []
  | expr :: exprs => do
    let first ← value siblings expr
    return first :: (← values siblings exprs)

/-- The value of an expression that may be absent. -/
def valueOrNull (siblings : Siblings) : Option ValueExpr → m Value
  | some expr => value siblings expr
  | none => return .null

end

mutual

/-- The fields of an object, after those that it has so far. -/
def members (path : List String) (fields : Entries Value) : List Member → m (Entries Value)
  | [] => return fields
  | child :: children => do
    let fields ← member path fields child
    members path fields children

/-- The fields of an object after one more member. -/
def member (path : List String) (fields : Entries Value) : Member → m (Entries Value)
  | .field name expr range => do
    let key := Key.canonical name
    let result ← value scope effects (some fields) expr
    effects.record .items (path ++ [key]) range
    return Entries.insert key result fields
  | .block name children range => do
    let key := Key.canonical name
    effects.record .items (path ++ [key]) range
    let inner ← members (path ++ [key]) [] children
    return Entries.insert key (.object inner) fields
  | .conditional condition thenChildren elseChildren _ => do
    if ← holds scope effects (some fields) condition then members path fields thenChildren
    else members path fields elseChildren

end

/-! ## Top-level bindings -/

/-- The value of the binding in a slot, which refers to no fields around it.  Slots
without a binding are not asked for. -/
def bindingValue (slot : Slot) : m Value :=
  match slot with
  | .global name =>
    match Entries.get? name scope.globals with
    | some (expr, _) => value scope effects none expr
    | none => effects.fail (.unresolved name) (.empty 0)
  | .item name =>
    match Entries.get? name scope.items with
    | some (children, _) => do return .object (← members scope effects [name] [] children)
    | none => effects.fail (.unresolved name) (.empty 0)

end

/-! ## Effects on the memory -/

variable (scope : Scope)

/-- Stop with a fault at a range. -/
def fail {α : Type} (fault : EvaluationFault) (range : TextRange) : Eval α :=
  throw (.fault fault range)

/-- Record the location of a binding. -/
def record (space : Namespace) (path : List String) (range : TextRange) : Eval Unit :=
  modify (·.record ⟨space, path⟩ (scope.source.locate range))

/-- Read a pattern. -/
def compile (source : String) (range : TextRange) : Eval Value := fun memory =>
  match memory.resources.compile source with
  | .ok (pattern, resources) => .ok (.pattern pattern) { memory with resources := resources }
  | .error fault => .error (.fault (.badPattern fault source) range) memory

/-- The answer of the system to a key. -/
def ask (key : String) : Eval (Option String) := fun memory =>
  let (answer, resources) := memory.resources.fact scope.services.system key
  .ok answer { memory with resources := resources }

/-- The effects of an evaluation that refers to top-level bindings by {lit}`force`. -/
def effects (force : Slot → TextRange → Eval Value) : Effects Eval where
  fail := fail
  record := record scope
  compile := compile
  ask := ask scope
  force := force

/-- Record the location of the binding in a slot when it is first evaluated: that
of an item is recorded before those of its fields. -/
def recordSlot : Slot → Eval Unit
  | .global _ => return ()
  | .item name =>
    match Entries.get? name scope.items with
    | some (_, range) => record scope .items [name] range
    | none => return ()

/-- The chain of a cycle: the bindings being evaluated, from the one that is asked
for again on. -/
def chain (pending : List Slot) (slot : Slot) : List Slot :=
  pending.dropWhile (· ≠ slot) ++ [slot]

/-- The value of a top-level binding: as it is remembered, or evaluated now.  The
bindings being evaluated are {lit}`pending`, the first one first.  They are all
different, so that the fuel lasts if it exceeds the number of bindings. -/
def forceWith : Nat → List Slot → Slot → TextRange → Eval Value
  | 0, pending, slot, range => throw (.cycle (chain pending slot) range)
  | fuel + 1, pending, slot, range => do
    match (← get).value? slot with
    | some known => return known
    | none =>
      recordSlot scope slot
      if slot ∈ pending then throw (.cycle (chain pending slot) range)
      let result ← bindingValue scope (effects scope (forceWith fuel (pending ++ [slot]))) slot
      modify (·.remember slot result)
      return result

/-- The value of a top-level binding while no other one is being evaluated. -/
def forceSlot : Slot → TextRange → Eval Value := forceWith scope (scope.size + 1) []

/-- The effects of an evaluation while no binding is being evaluated. -/
def topEffects : Effects Eval := effects scope (forceSlot scope)

/-! ## Documents -/

/-- The values of global bindings. -/
def globalValues : Entries (ValueExpr × TextRange) → Eval (Entries Value)
  | [] => return []
  | (name, _, range) :: bindings => do
    record scope .globals [name] range
    let result ← forceSlot scope (.global name) range
    return (name, result) :: (← globalValues bindings)

/-- The values of metadata, after those given so far. -/
def metadataValues (given : Entries Value) :
    List (String × ValueExpr × TextRange) → Eval (Entries Value)
  | [] => return given
  | (key, expr, range) :: bindings => do
    let result ← value scope (topEffects scope) none expr
    record scope .metadata [key] range
    metadataValues (Entries.insert key result given) bindings

/-- The values of items. -/
def itemValues : Entries (List Member × TextRange) → Eval (Entries Value)
  | [] => return []
  | (name, _, range) :: bindings => do
    let result ← forceSlot scope (.item name) range
    return (name, result) :: (← itemValues bindings)

end Evaluation

open Evaluation in
/-- The configuration of a document: first the globals are evaluated, then the
metadata, then the items. -/
def Scope.evaluate (scope : Scope) : Eval Config := do
  let globals ← globalValues scope scope.globals
  let metadata ← metadataValues scope [] scope.metadata
  let items ← itemValues scope scope.items
  let memory ← get
  return {
    source := scope.source
    globals := scope.withIncluded .globals globals
    items := scope.withIncluded .items items
    metadata := metadata
    locations := Entries.merge scope.includedLocations memory.locations }

end Rune
