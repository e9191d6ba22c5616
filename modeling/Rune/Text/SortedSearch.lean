/-!
# Rune - searching sorted tables

Line tables and character tables are increasing arrays of natural numbers, and
both are asked the same question: how many entries lie at or below a key.  The
answer is found by halving an interval.

Main results:

- Definition {lit}`countUpTo` answers the question in logarithmically many
  comparisons.
- Theorem {lit}`countUpTo_le` bounds the answer by the size of the table.
-/

namespace Rune.SortedSearch

/-- Halve the interval from `lo` to `hi` until it is empty.  Entries before
`lo` are known to be at most `key` and entries from `hi` on are known to be
above it; `fuel` need only reach the width of the interval. -/
def bisect (table : Array Nat) (key : Nat) : (fuel lo hi : Nat) → Nat
  | 0, lo, _ => lo
  | fuel + 1, lo, hi =>
    if lo < hi then
      let mid := (lo + hi) / 2
      if table.getD mid 0 ≤ key then bisect table key fuel (mid + 1) hi
      else bisect table key fuel lo mid
    else lo

/-- How many entries of the increasing array `table` are at most `key`. -/
def countUpTo (table : Array Nat) (key : Nat) : Nat :=
  bisect table key table.size 0 table.size

/-- The search never leaves its interval. -/
theorem bisect_le (table : Array Nat) (key fuel lo hi : Nat) (h : lo ≤ hi) :
    bisect table key fuel lo hi ≤ hi := by
  induction fuel generalizing lo hi with
  | zero => exact h
  | succ fuel ih =>
    simp only [bisect]
    split
    · split
      · exact ih _ _ (by omega)
      · exact Nat.le_trans (ih _ _ (by omega)) (by omega)
    · exact h

/-- The answer counts entries of the table. -/
theorem countUpTo_le (table : Array Nat) (key : Nat) :
    countUpTo table key ≤ table.size :=
  bisect_le table key _ 0 _ (Nat.zero_le _)

end Rune.SortedSearch
