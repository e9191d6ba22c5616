import Rune.Pattern.Matcher

/-!
# Rune - searching a text

A program is tried at the places where a match can begin, from left to right,
until one succeeds.

Main results:

- Definition {lit}`Program.starts` lists the places that are tried.
- Definition {lit}`Program.search` says whether a program matches somewhere in a
  text.
-/

namespace Rune

namespace Program

/-- The places of a text where a program is tried. -/
def starts (program : Program) (text : Array Char) : List Nat :=
  if text.size < program.least then []
  else
    match program.opening with
    | .character => List.range (text.size + 1)
    | .test test => (List.range text.size).filter fun place => text[place]?.any test.accepts
    | .anywhere => List.range (text.size - (program.least - 1) + 1)

/-- Whether every group in marks ends no earlier than it starts. -/
def isOrderly (marks : Marks) : Bool :=
  (List.range (marks.length / 2)).all fun i =>
    (marks.ends? (i + 1)).all fun (first, last) => first ≤ last

/-- Whether a program matches somewhere in a text.  A match with a group that ends
before it starts is a fault. -/
def search (program : Program) (text : String) : Except Fault Bool :=
  let chars := text.toList.toArray
  match (program.starts chars).findSome? (program.matchFrom chars) with
  | some trail => if isOrderly trail.marks then .ok true else .error .disorderedGroup
  | none => .ok false

end Program

end Rune
