import Rune.Evaluation.Fault
import Rune.Services

/-!
# Rune - what names stand for

A name in a document stands for a binding of that document, or else for one of a
configuration that the document includes.  A document includes what it gathers
without an alias of its own.

Main results:

- Structure {lit}`Scope` is a document with what it gathers.
- Definitions {lit}`Scope.slot?` and {lit}`Scope.included?` find what a key stands for.
- Definition {lit}`Scope.withIncluded` adds what is included to the values of a
  document.
-/

namespace Rune

/-- A document with its surroundings: its bindings under their canonical keys, the
configurations under the aliases of its gathers, and those that it includes, in
the order of its gathers. -/
structure Scope where
  source : Source
  services : Services
  globals : Entries (ValueExpr × TextRange)
  items : Entries (List Member × TextRange)
  metadata : List (String × ValueExpr × TextRange)
  aliases : Entries Config
  includes : List Config

namespace Scope

/-- The global bindings of a document. -/
def globalsOf (document : Document) : Entries (ValueExpr × TextRange) :=
  Entries.ofList (document.filterMap fun
    | .global name value range => some (Key.canonical name, value, range)
    | _ => none)

/-- The object blocks of a document. -/
def itemsOf (document : Document) : Entries (List Member × TextRange) :=
  Entries.ofList (document.filterMap fun
    | .block name children range => some (Key.canonical name, children, range)
    | _ => none)

/-- The bindings of metadata of a document, repeated ones included. -/
def metadataOf (document : Document) : List (String × ValueExpr × TextRange) :=
  document.filterMap fun
    | .metadata key value range => some (Key.canonical key, value, range)
    | _ => none

/-- The configurations that a document includes. -/
def includesOf (document : Document) (aliases : Entries Config) : List Config :=
  (document.gathers.filter (!·.explicitAlias)).filterMap fun gather =>
    Entries.get? (Key.canonical gather.aliasName) aliases

/-- The scope of a document that has gathered configurations under aliases. -/
def ofDocument (source : Source) (services : Services) (document : Document)
    (aliases : Entries Config) : Scope where
  source := source
  services := services
  globals := globalsOf document
  items := itemsOf document
  metadata := metadataOf document
  aliases := aliases
  includes := includesOf document aliases

/-- The binding of the document that a key stands for: a global before an item. -/
def slot? (scope : Scope) (key : String) : Option Slot :=
  if Entries.contains key scope.globals then some (.global key)
  else if Entries.contains key scope.items then some (.item key)
  else none

/-- The value that a key has in the included configurations.  A later one hides an
earlier one, and in each of them a global comes before an item. -/
def included? (scope : Scope) (key : String) : Option Value :=
  scope.includes.reverse.findSome? fun config =>
    (Entries.get? key config.globals).or (Entries.get? key config.items)

/-- The number of bindings that references can lead to. -/
def size (scope : Scope) : Nat := scope.globals.length + scope.items.length

/-- The values of a namespace of the included configurations, one after another,
and then the values of the document itself. -/
def withIncluded (scope : Scope) (space : Namespace) (own : Entries Value) : Entries Value :=
  Entries.merge
    (scope.includes.foldl (fun all config => Entries.merge all (config.values space)) []) own

/-- Whether a binding of an included configuration is hidden: metadata is not
included, and a binding of the document hides all of an included one. -/
def hides (scope : Scope) (place : Place) : Bool :=
  match place.space, place.path with
  | .globals, key :: _ => Entries.contains key scope.globals
  | .items, key :: _ => Entries.contains key scope.items
  | _, _ => true

/-- The locations of the bindings of included configurations that are not
hidden. -/
def includedLocations (scope : Scope) : Locations :=
  scope.includes.foldl
    (fun all config => Entries.merge all (config.locations.filter (!scope.hides ·.1))) []

end Scope

end Rune
