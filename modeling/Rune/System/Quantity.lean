import Rune.Number.Basic

/-!
# Rune - amounts of memory and of time

Facts about a system show amounts of memory and of time to people.

Main results:

- Definition {lit}`Quantity.bytes` shows a number of bytes in the largest unit that it
  fills.
- Definition {lit}`Quantity.duration` shows a number of seconds in hours and minutes.
-/

namespace Rune.Quantity

/-- The units of memory, the largest one first, with their numbers of bytes. -/
def units : List (String × Nat) :=
  [("TB", Nat.pow 1024 4), ("GB", Nat.pow 1024 3), ("MB", Nat.pow 1024 2), ("KB", 1024)]

/-- A number of bytes, which is rounded to a floating point number first. -/
def bytes (count : Int) : Except Fault String := do
  match ← (Number.int count).toFloat with
  | .finite false significand exponent =>
    let num := Binary64.numerator significand exponent
    let den := Binary64.denominator exponent
    match units.find? fun unit => den * unit.2 ≤ num with
    | some (name, size) =>
      let amount := Binary64.fixed num (den * size)
      return s!"{amount} {name}"
    | none => return s!"{count} B"
  | _ => return s!"{count} B"

/-- An amount of a unit of time; the unit stands in the plural unless there is
one. -/
def counted (amount : Int) (unit : String) : String :=
  let ending := if amount = 1 then "" else "s"
  s!"{amount} {unit}{ending}"

/-- A number of seconds. -/
def duration (seconds : Int) : String :=
  if seconds < 60 then counted seconds "sec"
  else if seconds < 3600 then counted (seconds / 60) "min"
  else
    let hours := counted (seconds / 3600) "hr"
    let minutes := counted (seconds % 3600 / 60) "min"
    s!"{hours}, {minutes}"

end Rune.Quantity
