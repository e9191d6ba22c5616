import Rune.Token.Basic
import Rune.Tree.Basic
import Rune.Unicode.Letters

/-!
# Rune - references inside strings

A dollar sign that was written without a backslash may begin a reference inside
a string: `$env.NAME`, `$sys.KEY`, or either one between braces.  Everything
else is text.

Main results:

- Definition {lit}`Interpolation.referenceAt?` recognises one reference.
- Definition {lit}`Interpolation.operandOf` turns a string token into an operand.
-/

namespace Rune.Interpolation

/-- The characters after `start`, if the characters begin with it. -/
def dropStart? : (start chars : List Char) → Option (List Char)
  | [], chars => some chars
  | _ :: _, [] => none
  | s :: start, c :: chars => if s = c then dropStart? start chars else none

/-- The brace that opens a reference between braces. -/
def openBrace : Char := '\x7b'

/-- The brace that closes a reference between braces. -/
def closeBrace : Char := '\x7d'

/-- A character of a name inside a string. -/
def isNameChar (c : Char) : Bool := Unicode.isAlnum c || c = '_'

/-- A reference to one namespace: the name after its dot, and the number of
characters it takes. -/
def named? (braced : Bool) (namespaceDot : List Char) (chars : List Char) :
    Option (String × Nat) :=
  match dropStart? namespaceDot chars with
  | none => none
  | some after =>
    let name := after.takeWhile isNameChar
    let taken := namespaceDot.length + name.length
    if name = [] then none
    else if braced then
      if (after.drop name.length).head? == some closeBrace then
        some (String.ofList name, taken + 1)
      else none
    else some (String.ofList name, taken)

/-- The reference that follows a dollar sign, and the number of characters it
takes with the dollar sign. -/
def referenceAt? (range : TextRange) (afterDollar : List Char) : Option (HostRef × Nat) :=
  let braced := afterDollar.head? == some openBrace
  let chars := if braced then afterDollar.tail else afterDollar
  let opening := if braced then 2 else 1
  match named? braced "env.".toList chars with
  | some (name, taken) => some (.env name range, opening + taken)
  | none =>
    (named? braced "sys.".toList chars).map fun (key, taken) =>
      (.sys key range, opening + taken)

/-- A piece of text, unless it is empty. -/
def textPiece (chars : List Char) : List Piece :=
  if chars = [] then [] else [.text (String.ofList chars)]

/-- The pieces of a text from offset `cursor` on, given the offsets of the
dollar signs that are still ahead.  The flag says whether a reference is among
the pieces. -/
def pieces (range : TextRange) (chars : List Char) (cursor : Nat) :
    (dollars : List Nat) → List Piece × Bool
  | [] => (textPiece (chars.drop cursor), false)
  | offset :: dollars =>
    if offset < cursor then pieces range chars cursor dollars
    else
      match referenceAt? range (chars.drop (offset + 1)) with
      | none => pieces range chars cursor dollars
      | some (ref, taken) =>
        let before := textPiece ((chars.drop cursor).take (offset - cursor))
        let (after, _) := pieces range chars (offset + taken) dollars
        (before ++ .ref ref :: after, true)

/-- The operand that a string token stands for: a literal, or a string in which
references stand. -/
def operandOf (token : Token) : Operand :=
  if token.interpolates then
    let (parts, found) := pieces token.range token.value.toList 0 token.dollars
    if found then .interpolated parts token.range
    else .literal (.text token.value) token.range
  else .literal (.text token.value) token.range

end Rune.Interpolation
