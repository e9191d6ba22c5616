import Rune.Failure
import Rune.Number.Decimal
import Rune.Text.Quoted
import Rune.Unicode.Digits
import Rune.Unicode.Space

/-!
# Rune - reading numerals

Numerals may be written with the decimal digits of any script.  A digit without
a place value, such as a superscript, spoils a numeral.  Underscores may stand
between two digits.

Main results:

- Definition {lit}`Numeral.readInt` reads an integer.
- Definition {lit}`Numeral.readFloat` reads a floating point number.
-/

namespace Rune.Numeral

/-- The longest integer that is read, in digits. -/
def maxDigits : Nat := 4300

/-! ## Runs of digits -/

/-- A run of digits with single underscores between them: the values of the
digits, and what follows the run. -/
def readRun : List Char → List Nat × List Char
  | [] => ([], [])
  | c :: rest =>
    match Unicode.decimalValue? c with
    | some n =>
      let (digits, after) := readRun rest
      (n :: digits, after)
    | none =>
      if c = '_' && rest.head?.any Unicode.isDecimal then readRun rest
      else ([], c :: rest)

/-- A run of digits that does not begin with an underscore. -/
def readDigits (chars : List Char) : List Nat × List Char :=
  if chars.head?.any Unicode.isDecimal then readRun chars else ([], chars)

/-- The number that digits stand for. -/
def ofDigits (digits : List Nat) : Nat := digits.foldl (fun n d => n * 10 + d) 0

/-- A sign, if there is one: whether it is a minus, and what follows. -/
def readSign : List Char → Bool × List Char
  | '-' :: rest => (true, rest)
  | '+' :: rest => (false, rest)
  | chars => (false, chars)

/-- White space that may surround a numeral: any but the four separators of
information. -/
def isPadding (c : Char) : Bool := Unicode.isSpace c && !(28 ≤ c.toNat && c.toNat ≤ 31)

/-- Characters without the padding around them. -/
def unpad (chars : List Char) : List Char :=
  ((chars.dropWhile isPadding).reverse.dropWhile isPadding).reverse

/-! ## Integers -/

/-- The quoted form of a text, cut to two hundred characters. -/
def shownNumeral (text : String) : String :=
  String.ofList ((Quoted.quote text).toList.take 200)

/-- Read an integer.  A numeral with too many digits is refused before what
follows the digits is looked at. -/
def readInt (text : String) : Except Fault Int :=
  let (negative, unsigned) := readSign (unpad text.toList)
  let (digits, after) := readDigits unsigned
  if maxDigits < digits.length then
    let count := digits.length
    .error (.badNumeral (s!"Exceeds the limit ({maxDigits} digits) for integer string conversion: "
      ++ s!"value has {count} digits; use sys.set_int_max_str_digits() to increase the limit"))
  else if digits.isEmpty || !after.isEmpty then
    let shown := shownNumeral text
    .error (.badNumeral s!"invalid literal for int() with base 10: {shown}")
  else
    let magnitude : Int := ofDigits digits
    .ok (if negative then -magnitude else magnitude)

/-! ## Floating point numbers -/

/-- The exponent of a numeral, if one is written: an `e`, a sign and digits. -/
def readExponent (chars : List Char) : Int × List Char :=
  match chars with
  | c :: rest =>
    if c = 'e' ∨ c = 'E' then
      let (negative, unsigned) := readSign rest
      let (digits, after) := readDigits unsigned
      if digits.isEmpty then (0, chars)
      else
        let magnitude : Int := ofDigits digits
        (if negative then -magnitude else magnitude, after)
    else (0, chars)
  | [] => (0, chars)

/-- The fraction of a numeral, if one is written: a point and perhaps digits. -/
def readFraction (chars : List Char) : List Nat × List Char × Bool :=
  match chars with
  | '.' :: rest =>
    let (digits, after) := readDigits rest
    (digits, after, true)
  | _ => ([], chars, false)

/-- The words that stand for numbers without digits. -/
def ofWord? (negative : Bool) (word : List Char) : Option Binary64 :=
  let lower := word.map Char.toLower
  if lower = "inf".toList ∨ lower = "infinity".toList then some (.infinite negative)
  else if lower = "nan".toList then some .nan
  else none

/-- Read a floating point number, if the text is one. -/
def readFloat? (text : String) : Option Binary64 :=
  let (negative, unsigned) := readSign (unpad text.toList)
  match ofWord? negative unsigned with
  | some x => some x
  | none =>
    let (whole, afterWhole) := readDigits unsigned
    let (fraction, afterFraction, _) := readFraction afterWhole
    if whole.isEmpty && fraction.isEmpty then none
    else
      let (exponent, after) := readExponent afterFraction
      if after.isEmpty then
        some (.ofDecimal negative (ofDigits (whole ++ fraction)) (exponent - fraction.length))
      else none

/-- Read a floating point number. -/
def readFloat (text : String) : Except Fault Binary64 :=
  match readFloat? text with
  | some x => .ok x
  | none =>
    let shown := Quoted.quote text
    .error (.badNumeral s!"could not convert string to float: {shown}")

end Rune.Numeral
