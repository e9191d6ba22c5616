import Rune.Number.Binary64

/-!
# Rune - the shortest decimal

A floating point number is written with as few digits as read back to it.  The
decimals that read back to a number lie in an interval around it, which reaches
halfway to both neighbours.  For one digit, two digits and so on, the two
neighbours of the number on the grid of that many digits are tried.

Main results:

- Definition {lit}`Decimal.shortest` finds the digits.
- Definition {lit}`Binary64.text` lays them out: positional from `0.0001` up to
  sixteen digits before the point, with an exponent otherwise.
- Definition {lit}`Binary64.fixed` writes a magnitude with two places.
-/

namespace Rune

/-- The number `digits * 10 ^ exponent`. -/
structure Decimal where
  digits : Nat
  exponent : Int
  deriving DecidableEq

namespace Decimal

/-- Compare `a * 10 ^ i` with `n * 2 ^ j`. -/
def compareScaled (a : Nat) (i : Int) (n : Nat) (j : Int) : Ordering :=
  compare (a * Nat.pow 10 i.toNat * Nat.pow 2 (-j).toNat)
    (n * Nat.pow 2 j.toNat * Nat.pow 10 (-i).toNat)

/-- Whether a decimal lies among the numbers that round to
`significand * 2 ^ exponent`.  The ends belong to an even significand, and below
a power of two the neighbour is half as far away. -/
def readsBack (significand : Nat) (exponent : Int) (d : Decimal) : Bool :=
  let narrow := significand == Nat.pow 2 52 && decide (Binary64.minExponent < exponent)
  let low := if narrow then 4 * significand - 1 else 4 * significand - 2
  let high := 4 * significand + 2
  let closed := significand % 2 == 0
  let atLow := compareScaled d.digits d.exponent low (exponent - 2)
  let atHigh := compareScaled d.digits d.exponent high (exponent - 2)
  (atLow == .gt || (closed && atLow == .eq)) && (atHigh == .lt || (closed && atHigh == .eq))

/-- The least power of ten above a positive quotient. -/
def scale (num den : Nat) : Int :=
  if den ≤ num then (toString (num / den)).length
  else 1 - ((toString (den / num)).length : Int)

/-- The nearest decimal with `places` digits that reads back, if there is one.
Of two decimals at one distance the even one is taken. -/
def onGrid? (significand : Nat) (exponent : Int) (places : Nat) : Option Decimal :=
  let num := Binary64.numerator significand exponent
  let den := Binary64.denominator exponent
  let unit := scale num den - places
  let top := num * Nat.pow 10 (-unit).toNat
  let bottom := den * Nat.pow 10 unit.toNat
  let low := top / bottom
  let lowFits := readsBack significand exponent ⟨low, unit⟩
  let highFits := readsBack significand exponent ⟨low + 1, unit⟩
  if lowFits && highFits then some ⟨divRound top bottom, unit⟩
  else if lowFits then some ⟨low, unit⟩
  else if highFits then some ⟨low + 1, unit⟩
  else none

/-- The exact decimal of `significand * 2 ^ exponent`. -/
def exact (significand : Nat) (exponent : Int) : Decimal :=
  ⟨significand * Nat.pow 2 exponent.toNat * Nat.pow 5 (-exponent).toNat,
    -((-exponent).toNat : Int)⟩

/-- The shortest decimal that reads back to a positive number. -/
def shortest (significand : Nat) (exponent : Int) : Decimal :=
  ((List.range 17).findSome? fun n => onGrid? significand exponent (n + 1)).getD
    (exact significand exponent)

/-- The digits of a decimal without the zeros at their end. -/
def digitChars (d : Decimal) : List Char :=
  ((toString d.digits).toList.reverse.dropWhile (· = '0')).reverse

/-- The power of ten that the leading digit falls short of: the place of the
point counted from the first digit. -/
def pointAfter (d : Decimal) : Int := (toString d.digits).length + d.exponent

/-- Digits with the point where it belongs. -/
def positional (digits : List Char) (point : Int) : List Char :=
  if point ≤ 0 then '0' :: '.' :: (List.replicate (-point).toNat '0' ++ digits)
  else if digits.length ≤ point then
    digits ++ List.replicate (point.toNat - digits.length) '0' ++ ['.', '0']
  else digits.take point.toNat ++ '.' :: digits.drop point.toNat

/-- Digits with the point after the first one, and an exponent of at least two
digits with its sign. -/
def scientific (digits : List Char) (point : Int) : List Char :=
  let exponent := point - 1
  let magnitude := (toString exponent.natAbs).toList
  let padded := if magnitude.length < 2 then '0' :: magnitude else magnitude
  let fraction := match digits.drop 1 with
    | [] => []
    | rest => '.' :: rest
  digits.take 1 ++ fraction ++ 'e' :: (if exponent < 0 then '-' else '+') :: padded

/-- The layout of a positive decimal: an exponent is written below `0.0001` and
beyond sixteen digits before the point. -/
def layout (d : Decimal) : List Char :=
  let point := d.pointAfter
  if -4 < point ∧ point ≤ 16 then positional d.digitChars point
  else scientific d.digitChars point

end Decimal

namespace Binary64

/-- The text of a number: the shortest decimal that reads back to it. -/
def text : Binary64 → String
  | .nan => "nan"
  | .infinite negative => if negative then "-inf" else "inf"
  | .finite negative significand exponent =>
    let magnitude :=
      if significand = 0 then ['0', '.', '0']
      else (Decimal.shortest significand exponent).layout
    String.ofList (if negative then '-' :: magnitude else magnitude)

/-- The quotient `num / den` with two places after the point; a half goes to the
even neighbour. -/
def fixed (num den : Nat) : String :=
  let hundredths := divRound (num * 100) den
  let whole := hundredths / 100
  let cents := hundredths % 100
  let tens := cents / 10
  let ones := cents % 10
  s!"{whole}.{tens}{ones}"

end Binary64

end Rune
