import Rune.Text.Range
import Rune.Text.SortedSearch

/-!
# Rune - lines of a source text

A line index is a text beside the increasing table of the offsets at which its
lines begin.  Positions are found by searching the table, so the text is walked
only once.

Main results:

- Definition {lit}`LineIndex.lineColumn` gives the line and column of an
  offset, both counted from one, for offsets clamped into the text.
- Definition {lit}`LineIndex.lineText` gives a line without its line break and
  without the carriage returns before it.
-/

namespace Rune

/-- A line and a column, both counted from one. -/
structure LineColumn where
  line : Nat
  column : Nat
  deriving DecidableEq

namespace LineIndex

/-- The offsets that follow a line feed, for characters that begin at `offset`. -/
def breaksFrom (offset : Nat) : List Char → List Nat
  | [] => []
  | c :: rest =>
    if c = '\n' then (offset + 1) :: breaksFrom (offset + 1) rest
    else breaksFrom (offset + 1) rest

/-- The offsets at which the lines of a text begin. -/
def lineStarts (chars : List Char) : Array Nat :=
  (0 :: breaksFrom 0 chars).toArray

end LineIndex

/-- A text with the table of its line starts. -/
structure LineIndex where
  chars : List Char
  size : Nat
  starts : Array Nat
  size_eq : size = chars.length
  starts_eq : starts = LineIndex.lineStarts chars

namespace LineIndex

/-- The index of a list of characters. -/
def ofChars (chars : List Char) : LineIndex where
  chars := chars
  size := chars.length
  starts := lineStarts chars
  size_eq := rfl
  starts_eq := rfl

/-- The index of a text. -/
def ofText (text : String) : LineIndex := ofChars text.toList

/-- The indexed text. -/
def text (index : LineIndex) : String := String.ofList index.chars

/-- An integer moved to the nearest offset of the text. -/
def clamp (index : LineIndex) (offset : Int) : Nat :=
  min offset.toNat index.size

/-- The line and column of an offset; offsets outside the text count as its
nearest end. -/
def lineColumn (index : LineIndex) (offset : Int) : LineColumn :=
  let position := index.clamp offset
  let line := SortedSearch.countUpTo index.starts position
  { line := line, column := position - index.starts.getD (line - 1) 0 + 1 }

/-- Characters without the carriage returns at their end. -/
def dropTrailingReturns (chars : List Char) : List Char :=
  (chars.reverse.dropWhile (· = '\r')).reverse

/-- The text of a line, counted from one, without its line break and without
the carriage returns before the break; empty for a line that does not exist. -/
def lineText (index : LineIndex) (line : Int) : String :=
  if 1 ≤ line ∧ line ≤ index.starts.size then
    let here := line.toNat
    let start := index.starts.getD (here - 1) 0
    let stop := if here < index.starts.size then index.starts.getD here 0 - 1 else index.size
    String.ofList (dropTrailingReturns ((index.chars.drop start).take (stop - start)))
  else ""

/-- Indexing a text keeps the text. -/
@[simp] theorem text_ofText (text : String) : (ofText text).text = text := by
  simp [LineIndex.text, ofText, ofChars]

end LineIndex

end Rune
