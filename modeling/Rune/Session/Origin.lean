import Rune.Config.Query
import Rune.Session.Gather
import Rune.Value.Identity

/-!
# Rune - origins of values

A value is made by a literal, an array, a string or a block, once in a resolution.
References hand it on: under another name, in another object or in another
document it is one and the same value.  The origin of a value is what made it.

A configuration keeps its values without their origins.  An origin is found again
from the document: from the binding of a path, along its references, down to what
made the value.  Each step leads to something that was evaluated before the step
itself was done, so that no part of a document is met twice; the weight of the
document bounds the steps.

Main results:

- Definition {lit}`Origin.step` goes from a place in a document to what its binding
  refers to or consists of, and {lit}`Origin.follow` goes on to the origin.
- Definition {lit}`Config.origin?` is the origin of the value at a path.
- Definition {lit}`Config.same` decides whether two paths lead to one and the same
  value.
-/

namespace Rune

/-! ## Weights -/

mutual

/-- The number of expressions in a value expression, itself included. -/
def ValueExpr.weight : ValueExpr → Nat
  | .operand _ | .rawString _ _ => 1
  | .array items _ => weightAll items + 1
  | .conditional _ thenValue elseValue _ => thenValue.weight + weightOption elseValue + 1

/-- The number of expressions in several value expressions. -/
def ValueExpr.weightAll : List ValueExpr → Nat
  | [] => 0
  | expr :: exprs => expr.weight + weightAll exprs

/-- The number of expressions in a value expression that may be absent. -/
def ValueExpr.weightOption : Option ValueExpr → Nat
  | some expr => expr.weight
  | none => 0

end

mutual

/-- The number of expressions and blocks in a member. -/
def Member.weight : Member → Nat
  | .field _ expr _ => expr.weight
  | .block _ children _ => weightAll children + 1
  | .conditional _ thenChildren elseChildren _ => weightAll thenChildren + weightAll elseChildren

/-- The number of expressions and blocks in several members. -/
def Member.weightAll : List Member → Nat
  | [] => 0
  | child :: children => child.weight + weightAll children

end

/-- The number of expressions and blocks in each binding that references lead to. -/
def Scope.weights (scope : Scope) : List (Slot × Nat) :=
  scope.globals.map (fun bound => (.global bound.1, bound.2.1.weight)) ++
    scope.items.map (fun bound => (.item bound.1, Member.weightAll bound.2.1 + 1))

/-- The number of expressions and blocks in all bindings that references lead to. -/
def Scope.weight (scope : Scope) : Nat := (scope.weights.map Prod.snd).foldr (· + ·) 0

/-- What made a value: the expression or block at a range of a document. -/
structure Origin where
  document : Option String
  range : TextRange
  deriving DecidableEq

namespace Origin

/-- What a key is bound to. -/
inductive Binding where
  | value (expr : ValueExpr)
  | block (children : List Member) (range : TextRange)

/-- The number of expressions and blocks in what a key is bound to. -/
def Binding.weight : Binding → Nat
  | .value expr => expr.weight
  | .block children _ => Member.weightAll children + 1

/-- A binding in its place: the fields that the object around it has so far, and the
places of their own bindings. -/
inductive Site where
  | mk (binding : Binding) (fields : Siblings) (places : List (String × Site))

/-- The place of a top-level binding, which refers to no fields around it. -/
def Site.top (binding : Binding) : Site := ⟨binding, none, []⟩

variable (scope : Scope)

/-! ## Bindings in their places -/

mutual

/-- The fields of an object and the places of their bindings, after those so far.
Of a condition only the chosen branch counts, and of two bindings of one key the
later one. -/
def settle (fields : Entries Value) (places : Entries Site) :
    List Member → Eval (Entries Value × Entries Site)
  | [] => return (fields, places)
  | child :: children => do
    let settled ← settleMember fields places child
    settle settled.1 settled.2 children

/-- The fields of an object and the places of their bindings after one more
member. -/
def settleMember (fields : Entries Value) (places : Entries Site) :
    Member → Eval (Entries Value × Entries Site)
  | .field name expr range => do
    let after ← Evaluation.member scope (Evaluation.topEffects scope) [] fields
      (.field name expr range)
    let site := ⟨.value expr, some fields, places⟩
    return (after, Entries.insert (Key.canonical name) site places)
  | .block name children range => do
    let after ← Evaluation.member scope (Evaluation.topEffects scope) [] fields
      (.block name children range)
    let site := ⟨.block children range, some fields, places⟩
    return (after, Entries.insert (Key.canonical name) site places)
  | .conditional condition thenChildren elseChildren _ => do
    if ← Evaluation.holds scope (Evaluation.topEffects scope) (some fields) condition then
      settle fields places thenChildren
    else settle fields places elseChildren

end

/-! ## Where paths and references lead -/

/-- Where a path begins: at a binding of the document, or at a key of another
configuration. -/
inductive Target where
  | here (site : Site)
  | elsewhere (config : Config) (space : Namespace) (key : String)

/-- The number of expressions and blocks at a target in the document. -/
def Target.weight : Target → Nat
  | .here ⟨binding, _, _⟩ => binding.weight
  | .elsewhere .. => 0

/-- A top-level binding of the document. -/
def topTarget? (space : Namespace) (key : String) : Option Target :=
  match space with
  | .globals => (Entries.get? key scope.globals).map fun bound => .here (.top (.value bound.1))
  | .items => (Entries.get? key scope.items).map fun bound => .here (.top (.block bound.1 bound.2))
  | .metadata =>
    (Entries.get? key scope.metadata.reverse).map fun bound => .here (.top (.value bound.1))

/-- The binding of the document in a slot. -/
def slotTarget? : Slot → Option Target
  | .global name => topTarget? scope .globals name
  | .item name => topTarget? scope .items name

/-- A key of a configuration, in the first of several namespaces that has it. -/
def keyTarget? (spaces : List Namespace) (key : String) (config : Config) : Option Target :=
  (spaces.find? fun space => Entries.contains key (config.values space)).map
    (.elsewhere config · key)

/-- Where a key of the document's configuration leads.  What the document does not bind
itself is included, and the last inclusion counts. -/
def target? (space : Namespace) (key : String) : Option Target :=
  (topTarget? scope space key).or (scope.includes.reverse.findSome? (keyTarget? [space] key))

/-- Where a name leads from a place with the given fields around it. -/
def nameTarget? (places : List (String × Site)) (key : String) : Option Target :=
  match Entries.get? key places, scope.slot? key with
  | some site, _ => some (.here site)
  | none, some slot => slotTarget? scope slot
  | none, none => scope.includes.reverse.findSome? (keyTarget? [.globals, .items] key)

/-- Where a reference leads, an alias before a name, and the keys to follow from
there.  Other operands lead nowhere. -/
def reference? (places : List (String × Site)) : Operand → Option (Option Target × List String)
  | .name name _ => some (nameTarget? scope places (Key.canonical name), [])
  | .path head next rest _ =>
    let keys := rest.map Key.canonical
    match Entries.get? (Key.canonical head) scope.aliases with
    | some config => some (keyTarget? [.items, .globals] (Key.canonical next) config, keys)
    | none =>
      some (nameTarget? scope places (Key.canonical head), Key.canonical next :: keys)
  | _ => none

/-! ## Following a path -/

/-- The item of an array that a segment leads to. -/
def item? (items : List ValueExpr) (segment : String) : Option ValueExpr :=
  match Numeral.readInt segment with
  | .ok index => items[index.toNat]?
  | .error _ => none

/-- What to do where a path leads into another configuration. -/
abbrev Onward := Config → Namespace → List String → Option Origin

/-- A step along a path: the search for an origin ends, or it goes on elsewhere. -/
inductive Step where
  | ended (origin : Option Origin)
  | onward (target : Target) (path : List String)

/-- To go on to a target, if there is one. -/
def Step.toward (target : Option Target) (path : List String) : Step :=
  match target with
  | some target => .onward target path
  | none => .ended none

/-- One step along a path from a target. -/
def step (onward : Onward) : Target → List String → Eval Step
  | .elsewhere config space key, path => return .ended (onward config space (key :: path))
  | .here ⟨binding, fields, places⟩, path => do
    let made (range : TextRange) : Step := .ended (some ⟨scope.source.path, range⟩)
    let stay (expr : ValueExpr) : Target := .here ⟨.value expr, fields, places⟩
    match binding, path with
    | .block _ range, [] => return made range
    | .block children _, key :: rest =>
      let settled ← settle scope [] [] children
      return .toward ((Entries.get? key settled.2).map .here) rest
    | .value (.array items _), segment :: rest =>
      return .toward ((item? items segment).map stay) rest
    | .value (.conditional condition thenValue elseValue range), path =>
      if ← Evaluation.holds scope (Evaluation.topEffects scope) fields condition then
        return .onward (stay thenValue) path
      else
        match elseValue with
        | some expr => return .onward (stay expr) path
        | none => return made range
    | .value (.operand operand), path =>
      match reference? scope places operand with
      | some (target, keys) => return .toward target (keys ++ path)
      | none => return made operand.range
    | .value expr, _ => return made expr.range

/-- The origin of the value at the end of a path that begins at a target, found in at
most so many steps. -/
def follow (onward : Onward) : Nat → Target → List String → Eval (Option Origin)
  | 0, _, _ => return none
  | fuel + 1, target, path => do
    match ← step scope onward target path with
    | .ended origin => return origin
    | .onward target path => follow onward fuel target path

/-- The origin of the value at the end of a path that begins at a target. -/
def found? (onward : Onward) (target : Target) (path : List String) : Option Origin :=
  match follow scope onward (target.weight + scope.weight + 1) target path (.fresh .fresh) with
  | .ok origin _ => origin
  | .error _ _ => none

end Origin

/-! ## Configurations -/

namespace Config

/-- The scope in which the document of a configuration was evaluated. -/
def scope? (services : Services) (config : Config) : Option Scope :=
  match config.source.parse with
  | .error _ => none
  | .ok document =>
    let gathered : Resolve (Entries Config) := do
      let resolver := Session.resolverWith services services.files.known.length
      let directory ← Session.directoryOf services config.sourcePath
      Session.gatherAll services resolver config.source directory [] document.gathers
    match gathered .fresh with
    | .ok aliases _ => some (.ofDocument config.source services document aliases)
    | .error _ _ => none

/-- The origin of the value at a path, where documents gather each other at most
{lit}`depth` files deep. -/
def originWith (services : Services) : Nat → Origin.Onward
  | 0, _, _, _ | _, _, _, [] => none
  | depth + 1, config, space, key :: rest => do
    let scope ← config.scope? services
    let target ← Origin.target? scope space key
    Origin.found? scope (originWith services depth) target rest

/-- The origin of the value at a path of a configuration that was resolved with the
same services. -/
def origin? (services : Services) (config : Config) (space : Namespace) (path : String) :
    Option Origin :=
  originWith services (services.files.known.length + 1) config space (Key.path path)

/-- Whether two paths lead to one and the same value.  They lead to equal values then,
and these have one origin unless there is only one such value anyway: there is one
null, and one pattern of a source. -/
def same (services : Services) (config : Config) (space : Namespace) (path other : String) :
    Except Failure Bool := do
  let left ← config.value space path
  let right ← config.value space other
  let origin := config.origin? services space path
  return left = right && (left.isUnique || origin = config.origin? services space other)

end Config

end Rune
