import Rune.Number.Rounding

/-!
# Rune - binary floating point numbers

Numbers with a fraction are binary floating point numbers of 64 bits.  A finite
one is a significand times a power of two: the significand has 53 bits, or the
power is the least one.  All operations are exact arithmetic followed by one
rounding to the nearest number.

Main results:

- Definition {lit}`Binary64.nearest` rounds a quotient of natural numbers.
- Definition {lit}`Binary64.value?` gives the exact value of a finite number, by
  which numbers are compared.
-/

namespace Rune

/-- A binary floating point number of 64 bits. -/
inductive Binary64 where
  | nan
  | infinite (negative : Bool)
  /-- The number `significand * 2 ^ exponent`, below zero if `negative`. -/
  | finite (negative : Bool) (significand : Nat) (exponent : Int)
  deriving DecidableEq

namespace Binary64

/-- The exponent of the smallest positive number. -/
def minExponent : Int := -1074

/-- The exponent of the largest finite number. -/
def maxExponent : Int := 971

/-- Zero. -/
def zero : Binary64 := .finite false 0 minExponent

/-! ## Rounding -/

/-- The exponent of the leading binary digit of `num / den`, for positive
numbers. -/
def leadingExponent (num den : Nat) : Int :=
  let guess : Int := (num.log2 : Int) - (den.log2 : Int)
  if num * Nat.pow 2 (-guess).toNat < den * Nat.pow 2 guess.toNat then guess - 1 else guess

/-- The number nearest to `num / den`, a half to the even significand; beyond
the largest number lies infinity. -/
def nearest (negative : Bool) (num den : Nat) : Binary64 :=
  if num = 0 then .finite negative 0 minExponent
  else
    let exponent := max (leadingExponent num den - 52) minExponent
    let rounded :=
      divRound (num * Nat.pow 2 (-exponent).toNat) (den * Nat.pow 2 exponent.toNat)
    let (significand, exponent) :=
      if rounded = Nat.pow 2 53 then (Nat.pow 2 52, exponent + 1) else (rounded, exponent)
    if exponent > maxExponent then .infinite negative
    else .finite negative significand exponent

/-- The number nearest to `digits * 10 ^ exponent`.  Exponents far beyond the
range of numbers are answered without computing the power. -/
def ofDecimal (negative : Bool) (digits : Nat) (exponent : Int) : Binary64 :=
  let places : Int := (toString digits).length
  if digits = 0 ∨ places + exponent < -400 then .finite negative 0 minExponent
  else if places + exponent > 400 then .infinite negative
  else nearest negative (digits * Nat.pow 10 exponent.toNat) (Nat.pow 10 (-exponent).toNat)

/-- The number nearest to an integer; none if it lies beyond all numbers. -/
def ofInt? (i : Int) : Option Binary64 :=
  match nearest (i < 0) i.natAbs 1 with
  | .infinite _ => none
  | x => some x

/-! ## Values -/

/-- The numerator of the magnitude of a finite number. -/
def numerator (significand : Nat) (exponent : Int) : Nat := significand * Nat.pow 2 exponent.toNat

/-- The denominator of the magnitude of a finite number. -/
def denominator (exponent : Int) : Nat := Nat.pow 2 (-exponent).toNat

/-- The exact value of a finite number. -/
def value? : Binary64 → Option Rat
  | .finite negative significand exponent =>
    let magnitude := mkRat (numerator significand exponent) (denominator exponent)
    some (if negative then -magnitude else magnitude)
  | _ => none

/-- The integer that a finite number equals, if it equals one. -/
def toInt? : Binary64 → Option Int
  | .finite negative significand exponent =>
    let num := numerator significand exponent
    let den := denominator exponent
    if num % den = 0 then
      let whole : Int := num / den
      some (if negative then -whole else whole)
    else none
  | _ => none

/-- Whether a number is an integer. -/
def isInteger (x : Binary64) : Bool := x.toInt?.isSome

/-- The integer part of a finite number: its fraction is dropped. -/
def truncate? : Binary64 → Option Int
  | .finite negative significand exponent =>
    let whole : Int := numerator significand exponent / denominator exponent
    some (if negative then -whole else whole)
  | _ => none

/-- Whether a number is a zero of either sign. -/
def isZero : Binary64 → Bool
  | .finite _ 0 _ => true
  | _ => false

end Binary64

/-! ## Order with infinities -/

/-- A rational number or an infinity. -/
inductive Extended where
  | below
  | exact (value : Rat)
  | above
  deriving DecidableEq

namespace Extended

/-- Whether one extended number lies below another. -/
def lt : Extended → Extended → Bool
  | .below, .below => false
  | .below, _ => true
  | .exact _, .below => false
  | .exact x, .exact y => x < y
  | .exact _, .above => true
  | .above, _ => false

end Extended

namespace Binary64

/-- The place of a number in the order of extended numbers; what is no number
has none. -/
def extended? : Binary64 → Option Extended
  | .nan => none
  | .infinite true => some .below
  | .infinite false => some .above
  | x => (value? x).map .exact

end Binary64

end Rune
