import Rune.Number.Numeral
import Rune.Unicode.Digits
import Rune.Value.Basic

/-!
# Rune - paths into values

A dotted path leads from a namespace through objects, by key, and through
arrays, by index.

Main results:

- Definition {lit}`Lookup.find` follows a path from a namespace.
-/

namespace Rune.Lookup

/-- Whether a segment is written with digits only. -/
def isIndex (segment : String) : Bool :=
  segment != "" && segment.toList.all Unicode.isDigit

/-- The part of a value that a segment leads to.  A digit without a place value
is no index, and no key of an array either. -/
def child (segment : String) : Value → Except Fault (Option Value)
  | .object entries => .ok (Entries.get? segment entries)
  | .array items =>
    if isIndex segment then do
      let index ← Numeral.readInt segment
      return items[index.toNat]?
    else .ok none
  | _ => .ok none

/-- Follow segments from a value. -/
def walk : List String → Value → Except Fault (Option Value)
  | [], value => .ok (some value)
  | segment :: segments, value => do
    match ← child segment value with
    | some next => walk segments next
    | none => return none

/-- Follow a dotted path from a namespace. -/
def find (entries : Entries Value) (path : String) : Except Fault (Option Value) :=
  match Key.path path with
  | [] => .ok none
  | first :: segments =>
    match Entries.get? first entries with
    | some value => walk segments value
    | none => .ok none

end Rune.Lookup
