/-!
# Rune - positions in a source text

Offsets count code points.  A range is half open and never runs backwards.

Main results:

- Structure {lit}`TextRange` carries the proof that it does not run backwards.
- Definition {lit}`TextRange.cover` is the smallest range around two ranges.
-/

namespace Rune

/-- Why a pair of integers is no offset or no range. -/
inductive RangeFault where
  | negativeOffset
  | disordered (start stop : Int)
  deriving DecidableEq

/-- The wording of a fault of a range. -/
def RangeFault.message : RangeFault → String
  | .negativeOffset => "TextSize cannot be negative"
  | .disordered start stop => s!"Invalid text range {start}..{stop}"

/-- An integer as an offset into a text. -/
def offsetOfInt? (value : Int) : Except RangeFault Nat :=
  if value < 0 then .error .negativeOffset else .ok value.toNat

/-- The label under which an offset is shown. -/
def offsetLabel (offset : Nat) : String := s!"TextSize({offset})"

/-- The half-open span `[start, stop)` of a source text. -/
@[ext] structure TextRange where
  start : Nat
  stop : Nat
  start_le_stop : start ≤ stop
  deriving DecidableEq

namespace TextRange

/-- The range without width at `offset`. -/
def empty (offset : Nat) : TextRange := ⟨offset, offset, Nat.le_refl _⟩

instance : Inhabited TextRange := ⟨empty 0⟩

/-- The range of `length` characters that begins at `start`. -/
def ofLength (start length : Nat) : TextRange :=
  ⟨start, start + length, Nat.le_add_right _ _⟩

/-- Two integers as a range. -/
def ofInts? (start stop : Int) : Except RangeFault TextRange :=
  if h : 0 ≤ start ∧ start ≤ stop then
    .ok ⟨start.toNat, stop.toNat, by omega⟩
  else .error (.disordered start stop)

/-- The smallest range that contains both ranges. -/
def cover (a b : TextRange) : TextRange where
  start := min a.start b.start
  stop := max a.stop b.stop
  start_le_stop := by have := a.start_le_stop; omega

/-- Ranges are ordered by their start and, at one start, by their stop. -/
def before (a b : TextRange) : Bool :=
  a.start < b.start || (a.start == b.start && a.stop < b.stop)

/-- The label under which a range is shown. -/
def label (range : TextRange) : String :=
  s!"TextRange({range.start}, {range.stop})"

/-- A range covers itself alone. -/
@[simp] theorem cover_self (a : TextRange) : a.cover a = a := by
  ext <;> simp [cover]

/-- Covering does not depend on the order of the two ranges. -/
theorem cover_comm (a b : TextRange) : a.cover b = b.cover a := by
  ext <;> simp [cover, Nat.min_comm, Nat.max_comm]

end TextRange

end Rune
