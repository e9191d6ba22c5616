import Rune.Value.Datum

/-!
# Rune - export of a configuration

A configuration is exported as a record of its three namespaces.

Main results:

- Definition {lit}`Export.document` exports three namespaces.
-/

namespace Rune.Export

/-- A namespace as exported data. -/
def entries (entries : Entries Value) : Datum := .record (Value.datumEntries entries)

/-- Three namespaces as exported data. -/
def document (globals items metadata : Entries Value) : Datum :=
  .record
    [("globals", entries globals), ("items", entries items), ("metadata", entries metadata)]

end Rune.Export
