import Rune.Pattern.Regex
import Rune.Unicode.Case
import Rune.Unicode.Letters
import Rune.Unicode.Space

/-!
# Rune - tests of one character

A part of an expression that takes one character is a test.  Case is ignored by
comparing lower cases, within the first 128 characters or everywhere; some
letters have several lower cases, which all count as the same letter.

Main results:

- Type {lit}`Fold` says how far case is ignored.
- Type {lit}`CharTest` is a test, and {lit}`CharTest.accepts` says which characters
  pass it.
- Definitions {lit}`CharTest.ofLiteral` and {lit}`CharTest.ofSet` give the tests of
  the parts of an expression.
-/

namespace Rune

/-! ## Classes of characters -/

namespace CharClass

/-- The decimal digits of the first 128 characters. -/
def isAsciiDigit (c : Char) : Bool := '0' ≤ c && c ≤ '9'

/-- The white space of the first 128 characters. -/
def isAsciiSpace (c : Char) : Bool := c = ' ' || (9 ≤ c.toNat && c.toNat ≤ 13)

/-- Whether a character belongs to a class. -/
def contains (ascii : Bool) (c : Char) : CharClass → Bool
  | .digit => if ascii then isAsciiDigit c else Unicode.isDecimal c
  | .space => if ascii then isAsciiSpace c else Unicode.isSpace c
  | .word =>
    c = '_' || (if ascii then Unicode.isAsciiLetter c || isAsciiDigit c else Unicode.isAlnum c)

end CharClass

/-! ## Case -/

/-- How far case is ignored. -/
inductive Fold where
  | exact | ascii | unicode
  deriving DecidableEq

namespace Fold

/-- The lower case of a character. -/
def lower (c : Char) : Fold → Char
  | .exact => c
  | .ascii => c.toLower
  | .unicode => Unicode.toLower c

/-- The other lower case characters that count as the same letter. -/
def siblings (c : Char) : Fold → List Char
  | .unicode => Unicode.lowerSiblings c
  | _ => []

/-- The characters with a given lower case. -/
def lowerSources (c : Char) : Fold → List Char
  | .exact => [c]
  | .ascii => [c, c.toUpper]
  | .unicode => Unicode.lowerSources c

/-- Whether a code point has another case. -/
def isCased (code : Nat) (fold : Fold) : Bool :=
  Nat.isValidChar code &&
    match fold with
    | .exact => false
    | .ascii => Unicode.isAsciiLetter (Char.ofNat code)
    | .unicode =>
      let c := Char.ofNat code
      Unicode.toLower c != c || Unicode.toUpper c != c

/-- The code points of the first plane. -/
def planeSize : Nat := 0x10000

/-- Whether case matters for a member of a set.  It is taken to matter for all
code points beyond the first plane. -/
def isCasedItem (fold : Fold) : SetItem → Bool
  | .code n => planeSize ≤ n || fold.isCased n
  | .range low high =>
    planeSize ≤ high || (List.range' low (high + 1 - low)).any fold.isCased
  | .charClass .. => false

end Fold

namespace Flags

/-- How far case is ignored under flags. -/
def fold (flags : Flags) : Fold :=
  if flags.ignoreCase then if flags.ascii then .ascii else .unicode else .exact

end Flags

/-! ## Tests -/

/-- A test of one character. -/
inductive CharTest where
  | any
  | notLineFeed
  /-- A code point itself, or anything else. -/
  | code (negated : Bool) (code : Nat)
  /-- A lower case letter in any case, or anything else. -/
  | letter (negated : Bool) (lowered : Char) (fold : Fold)
  /-- A member of a set, with classes of the first 128 characters or of all. -/
  | set (negated ascii : Bool) (items : List SetItem) (fold : Fold)
  deriving DecidableEq

namespace SetItem

/-- Whether a code point lies between two others. -/
def between (low high code : Nat) : Bool := low ≤ code && code ≤ high

/-- Whether a character belongs to a member of a set. -/
def contains (ascii : Bool) (c : Char) : SetItem → Bool
  | .code n => c.toNat = n
  | .range low high => between low high c.toNat
  | .charClass kind negated => kind.contains ascii c != negated

/-- Whether a lowered character belongs to a member of a set, case apart.  Beyond
the first plane a range also holds the upper case of the character, and a single
code point stands for itself alone. -/
def containsFolded (ascii : Bool) (fold : Fold) (lowered : Char) : SetItem → Bool
  | .code n =>
    let folded := fold.lower (Char.ofNat n)
    Nat.isValidChar n &&
      if folded.toNat < Fold.planeSize then
        lowered = folded || (fold.siblings folded).contains lowered
      else lowered.toNat = n
  | .range low high =>
    let inPlane := (lowered :: fold.siblings lowered).any fun d =>
      (fold.lowerSources d).any fun source =>
        between low (min high (Fold.planeSize - 1)) source.toNat
    inPlane ||
      (Fold.planeSize ≤ high && (between low high lowered.toNat
        || between low high (Unicode.toUpper lowered).toNat))
  | .charClass kind negated => kind.contains ascii lowered != negated

end SetItem

namespace CharTest

/-- Whether a character passes a test. -/
def accepts (c : Char) : CharTest → Bool
  | .any => true
  | .notLineFeed => c != '\n'
  | .code negated n => (c.toNat == n) != negated
  | .letter negated lowered fold => (fold.lower c == lowered) != negated
  | .set negated ascii items .exact => items.any (SetItem.contains ascii c) != negated
  | .set negated ascii items fold =>
    items.any (SetItem.containsFolded ascii fold (fold.lower c)) != negated

/-- The test of a single character.  A letter with several lower cases is a set. -/
def ofLiteral (flags : Flags) (negated : Bool) (code : Nat) : CharTest :=
  let fold := flags.fold
  if fold.isCased code then
    let lowered := fold.lower (Char.ofNat code)
    if (fold.siblings lowered).isEmpty then .letter negated lowered fold
    else .set negated flags.ascii [.code lowered.toNat] fold
  else .code negated code

/-- The test of a set.  Where case does not matter, characters are taken as they
are. -/
def ofSet (flags : Flags) (negated : Bool) (items : List SetItem) : CharTest :=
  let fold := flags.fold
  if flags.ignoreCase && items.any fold.isCasedItem then .set negated flags.ascii items fold
  else .set negated flags.ascii items .exact

/-- Whether a test folds the members of a set.  Such a test is counted one
character at a time. -/
def isFoldedSet : CharTest → Bool
  | .set _ _ _ .exact => false
  | .set .. => true
  | _ => false

/-- Whether a test is one that a branch is given up for before it is tried: a
character or a set, taken as they are. -/
def isPlain : CharTest → Bool
  | .code false _ => true
  | .set _ _ _ .exact => true
  | _ => false

end CharTest

end Rune
