import Rune.Text.LineIndex

/-!
# Rune - source texts

A source is a text with the path that it came from, if it has one.

Main results:

- Definition {lit}`Source.locate` gives the place of a range: line, column, the
  text of that line and the path.
-/

namespace Rune

/-- Where a binding was written. -/
structure Location where
  line : Nat
  column : Nat
  lineText : String
  sourcePath : Option String
  deriving DecidableEq

/-- An indexed text with the path that it was read from. -/
structure Source where
  path : Option String
  index : LineIndex

namespace Source

/-- A text as a source. -/
def ofText (text : String) (path : Option String := none) : Source where
  path := path
  index := LineIndex.ofText text

/-- The text of a source. -/
def text (source : Source) : String := source.index.text

/-- The place at which a range starts. -/
def locate (source : Source) (range : TextRange) : Location :=
  let position := source.index.lineColumn range.start
  { line := position.line
    column := position.column
    lineText := source.index.lineText position.line
    sourcePath := source.path }

end Source

end Rune
