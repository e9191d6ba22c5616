import Rune.Value.Basic

/-!
# Rune - identity of values

Values are the same only if they are built alike: unlike {lit}`Value.eq`, which compares
numbers by what they are worth, this tells apart an integer and a floating point number,
and a floating point number that is not a number is the same as itself.

Main results:

- Theorem {lit}`Value.alike_iff`: alike values are equal, so that equality can be decided.
-/

namespace Rune.Value

mutual

/-- Whether two values are built alike. -/
def alike : Value → Value → Bool
  | .string a, .string b => a = b
  | .number a, .number b => a = b
  | .bool a, .bool b => a = b
  | .null, .null => true
  | .pattern a, .pattern b => a = b
  | .array a, .array b => alikeItems a b
  | .object a, .object b => alikeEntries a b
  | _, _ => false

/-- Whether two lists of values are built alike. -/
def alikeItems : List Value → List Value → Bool
  | [], [] => true
  | a :: as, b :: bs => alike a b && alikeItems as bs
  | _, _ => false

/-- Whether two lists of entries are built alike. -/
def alikeEntries : List (String × Value) → List (String × Value) → Bool
  | [], [] => true
  | (k, a) :: as, (l, b) :: bs => k = l && alike a b && alikeEntries as bs
  | _, _ => false

end

mutual

/-- Values that are built alike are equal. -/
theorem alike_iff : ∀ a b : Value, a.alike b = true ↔ a = b
  | .array as, b => by cases b <;> simp [alike, alikeItems_iff as]
  | .object as, b => by cases b <;> simp [alike, alikeEntries_iff as]
  | .string _, b | .number _, b | .bool _, b | .null, b | .pattern _, b => by
    cases b <;> simp [alike]

theorem alikeItems_iff : ∀ as bs : List Value, alikeItems as bs = true ↔ as = bs
  | [], bs => by cases bs <;> simp [alikeItems]
  | a :: as, bs => by cases bs <;> simp [alikeItems, alike_iff a, alikeItems_iff as]

theorem alikeEntries_iff : ∀ as bs : List (String × Value), alikeEntries as bs = true ↔ as = bs
  | [], bs => by cases bs <;> simp [alikeEntries]
  | (k, a) :: as, bs => by
    rcases bs with _ | ⟨⟨l, b⟩, bs⟩ <;>
      simp [alikeEntries, alike_iff a, alikeEntries_iff as]

end

instance : DecidableEq Value := fun a b => decidable_of_iff _ (alike_iff a b)

/-- Whether a value is the only one of its kind that equals it: there is one null, and one
pattern of a source. -/
def isUnique : Value → Bool
  | .null | .pattern _ => true
  | _ => false

end Rune.Value
