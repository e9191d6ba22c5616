import Rune.Value.Basic

/-!
# Rune - resolved configurations

A configuration is what a document resolves to: three namespaces of values, and
the locations of the bindings that gave them.

Main results:

- Structure {lit}`Config` is a resolved document.
- Definition {lit}`Config.member?` is what a dotted reference finds in a gathered
  configuration: items come before globals.
- Definition {lit}`Config.nearest?` is the location of a binding or, if it has none,
  of the innermost binding around it.
-/

namespace Rune

/-- The three groups of top-level bindings. -/
inductive Namespace where
  | globals | items | metadata
  deriving DecidableEq

namespace Namespace

/-- The name of a namespace. -/
def name : Namespace → String
  | .globals => "globals"
  | .items => "items"
  | .metadata => "metadata"

/-- The namespace of a given name. -/
def read (name : String) : Except Fault Namespace :=
  match [globals, items, metadata].find? (·.name = name) with
  | some space => .ok space
  | none => .error (.unknownNamespace name)

/-- The name of a namespace stands for it. -/
@[simp] theorem read_name (space : Namespace) : read space.name = .ok space := by
  cases space <;> rfl

end Namespace

/-- The place of a binding: its namespace and the keys that lead to it. -/
structure Place where
  space : Namespace
  path : List String
  deriving DecidableEq

/-- The locations of bindings, in the order in which they were recorded. -/
abbrev Locations := List (Place × Location)

/-- A resolved document. -/
structure Config where
  source : Source
  globals : Entries Value
  items : Entries Value
  metadata : Entries Value
  locations : Locations

namespace Config

/-- The path of the document, if it has one. -/
def sourcePath (config : Config) : Option String := config.source.path

/-- The values of a namespace. -/
def values (config : Config) : Namespace → Entries Value
  | .globals => config.globals
  | .items => config.items
  | .metadata => config.metadata

/-- What a dotted reference finds under a name: an item before a global. -/
def member? (config : Config) (name : String) : Option Value :=
  let key := Key.canonical name
  (Entries.get? key config.items).or (Entries.get? key config.globals)

/-- The location of the innermost recorded binding on a path, whose keys are given
with the last one first. -/
def nearestFrom (locations : Locations) (space : Namespace) : List String → Option Location
  | [] => none
  | key :: outer =>
    (Entries.get? ⟨space, (key :: outer).reverse⟩ locations).or (nearestFrom locations space outer)

/-- The location of the binding at a path, or of the innermost one around it. -/
def nearest? (config : Config) (space : Namespace) (path : String) : Option Location :=
  nearestFrom config.locations space (Key.path path).reverse

end Config

end Rune
