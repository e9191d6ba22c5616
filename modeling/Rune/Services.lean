import Rune.File.Store
import Rune.Value.Key

/-!
# Rune - services

A document is resolved with the help of services: files to gather, environment
variables, and facts about the system.

Main results:

- Structure {lit}`Services` bundles them.
- Definition {lit}`Services.base` is the directory of documents without a path, and
  {lit}`Services.locate` finds a file relative to it.
-/

namespace Rune

/-- What a resolution asks of its surroundings. -/
structure Services where
  files : Files
  environment : String → Option String
  system : String → Option String
  standpoint : FilePath.Standpoint
  /-- The directory of documents without a path, in any spelling; without one it is
  the working directory. -/
  directory : Option String

namespace Services

/-- Services that have texts to gather and know nothing else.  They work at the root. -/
def ofStore (store : TextStore) : Services where
  files := .ofStore store
  environment _ := none
  system _ := none
  standpoint := .root
  directory := none

/-- The canonical path of the directory of documents without a path. -/
def base (services : Services) : Except Fault String :=
  match services.directory with
  | some directory => FilePath.locateHere services.standpoint directory
  | none => .ok services.standpoint.working

/-- The canonical form of a path relative to the directory of documents without a
path. -/
def locate (services : Services) (path : String) : Except Fault String := do
  FilePath.locate services.standpoint (← services.base) path

/-- The fact under a key in any spelling, from a table of facts. -/
def factOf (facts : Entries String) (key : String) : Option String :=
  Entries.get? (Key.canonical key) facts

end Services

end Rune
