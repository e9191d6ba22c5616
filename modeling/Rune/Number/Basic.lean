import Rune.Failure
import Rune.Number.Decimal

/-!
# Rune - numbers

A number of a configuration is an integer of any size or a floating point
number.  The two kinds are compared by their exact values.

Main results:

- Definitions {lit}`Number.eq` and {lit}`Number.lt` compare numbers of either kind.
- Theorem {lit}`Number.eq_comm`: equality does not depend on the order.
-/

namespace Rune

/-- An integer or a floating point number. -/
inductive Number where
  | int (value : Int)
  | float (value : Binary64)
  deriving DecidableEq

namespace Number

/-- The place of a number in the order of extended numbers. -/
def extended? : Number → Option Extended
  | .int i => some (.exact i)
  | .float x => x.extended?

/-- Whether two numbers have one value.  What is no number equals nothing. -/
def eq (a b : Number) : Bool :=
  match a.extended?, b.extended? with
  | some x, some y => x = y
  | _, _ => false

/-- Whether one number is less than another. -/
def lt (a b : Number) : Bool :=
  match a.extended?, b.extended? with
  | some x, some y => x.lt y
  | _, _ => false

/-- Whether a number is an integer by value. -/
def isIntegral : Number → Bool
  | .int _ => true
  | .float x => x.isInteger

/-- Whether a number is a zero. -/
def isZero : Number → Bool
  | .int i => i = 0
  | .float x => x.isZero

/-- The text of a number as a number: floating point numbers keep their mark. -/
def literalText : Number → String
  | .int i => toString i
  | .float x => x.text

/-- The text of a number inside other text: an integer by value is written as an
integer. -/
def text : Number → String
  | .int i => toString i
  | .float x =>
    match x.toInt? with
    | some i => toString i
    | none => x.text

/-- A number as an integer, if it is one by value. -/
def toInt? : Number → Option Int
  | .int i => some i
  | .float x => x.toInt?

/-- A number as a floating point number. -/
def toFloat : Number → Except Fault Binary64
  | .int i =>
    match Binary64.ofInt? i with
    | some x => .ok x
    | none => .error (.overflow "int too large to convert to float")
  | .float x => .ok x

/-- Equality does not depend on the order. -/
theorem eq_comm (a b : Number) : a.eq b = b.eq a := by
  unfold eq
  cases a.extended? <;> cases b.extended? <;> simp [Eq.comm]

end Number

end Rune
