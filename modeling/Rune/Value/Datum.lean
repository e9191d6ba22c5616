import Rune.Value.Basic

/-!
# Rune - exported data

An exported configuration holds no patterns: a pattern is exported as its
source.

Main results:

- Type {lit}`Datum` holds exported data.
- Definition {lit}`Value.datum` exports a value.
-/

namespace Rune

/-- A piece of exported data. -/
inductive Datum where
  | null
  | bool (flag : Bool)
  | number (number : Number)
  | text (text : String)
  | list (items : List Datum)
  | record (entries : List (String × Datum))

namespace Value

mutual

/-- A value as exported data. -/
def datum : Value → Datum
  | .string s => .text s
  | .number n => .number n
  | .bool b => .bool b
  | .null => .null
  | .pattern p => .text p.source
  | .array items => .list (datumItems items)
  | .object entries => .record (datumEntries entries)

/-- The items of an array as exported data. -/
def datumItems : List Value → List Datum
  | [] => []
  | item :: items => datum item :: datumItems items

/-- Entries as exported data. -/
def datumEntries : List (String × Value) → List (String × Datum)
  | [] => []
  | (key, value) :: entries => (key, datum value) :: datumEntries entries

end

/-- Exporting keeps the number and the order of items. -/
theorem datumItems_eq_map (items : List Value) : datumItems items = items.map datum := by
  induction items with
  | nil => rfl
  | cons item items ih => simp [datumItems, ih]

/-- Exporting keeps the keys and their order. -/
theorem datumEntries_eq_map (entries : List (String × Value)) :
    datumEntries entries = entries.map fun e => (e.1, datum e.2) := by
  induction entries with
  | nil => rfl
  | cons e entries ih =>
    obtain ⟨key, value⟩ := e
    simp [datumEntries, ih]

end Value

end Rune
