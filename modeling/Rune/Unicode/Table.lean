import Rune.Text.SortedSearch

/-!
# Rune - tables of character classes

A class of characters is kept as the increasing list of the code points at
which membership changes: a code point belongs to the class when an odd number
of boundaries lie at or below it.

Main results:

- Definition {lit}`Table.contains` decides membership.
- Definition {lit}`Table.runStart?` gives the first member of the run that a
  character lies in.
-/

namespace Rune.Unicode.Table

/-- Whether a character lies in the class of a table of boundaries. -/
def contains (boundaries : Array Nat) (c : Char) : Bool :=
  SortedSearch.countUpTo boundaries c.toNat % 2 = 1

/-- The first code point of the run of members around a character, if the
character is a member. -/
def runStart? (boundaries : Array Nat) (c : Char) : Option Nat :=
  let below := SortedSearch.countUpTo boundaries c.toNat
  if below % 2 = 1 then some (boundaries.getD (below - 1) 0) else none

end Rune.Unicode.Table
