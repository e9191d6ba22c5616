import Rune.Unicode.Table

/-!
# Rune - white space

White space of any script, and the removal of white space around a text.
-/

namespace Rune.Unicode

/-- Boundaries of the white space characters. -/
def spaceTable : Array Nat :=
  #[9, 14, 28, 33, 133, 134, 160, 161, 5760, 5761, 8192, 8203, 8232, 8234, 8239, 8240, 8287,
    8288, 12288, 12289]

/-- A white space character. -/
def isSpace (c : Char) : Bool := Table.contains spaceTable c

/-- Characters without the white space before the first and after the last
other character. -/
def trim (chars : List Char) : List Char :=
  ((chars.dropWhile isSpace).reverse.dropWhile isSpace).reverse

/-- The first run of characters other than white space, if there is one. -/
def firstWord? (chars : List Char) : Option (List Char) :=
  match (chars.dropWhile isSpace).takeWhile (!isSpace ·) with
  | [] => none
  | word => some word

end Rune.Unicode
