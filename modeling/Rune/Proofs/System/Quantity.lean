import Mathlib.Algebra.Order.Ring.Rat
import Mathlib.Tactic.Linarith
import Mathlib.Tactic.NormNum
import Rune.Proofs.Number.Digits
import Rune.Proofs.Number.Range
import Rune.System.Quantity

/-!
# Rune - amounts of memory in the unit that suits them

An amount of memory is shown with two places in the largest unit that it fills.  The unit is
chosen before the places are rounded, so an amount just below a unit is shown as 1024 of the
unit below, and not as one.

Main results:

- Theorem {lit}`Quantity.bytes_eq_error_iff`: which numbers of bytes cannot be shown.
- Structure {lit}`Quantity.Suits`: a text shows a number of bytes in the unit that suits it.
- Theorem {lit}`Quantity.bytes_settled`: the text of a number of bytes of at most 53 binary
  digits suits it, unless the number is about to fill the next unit ({lit}`Quantity.Brims`).
-/

namespace Rune

namespace Quantity

/-! ## Rounded numbers of bytes -/

/-- The text of a number of bytes, from the number that it is rounded to and a table of units. -/
def ofRounded (table : List (String × Nat)) (count : Int) (x : Binary64) :
    Except Fault String := do
  match x with
  | .finite false significand exponent =>
    let num := Binary64.numerator significand exponent
    let den := Binary64.denominator exponent
    match table.find? fun unit => den * unit.2 ≤ num with
    | some (name, size) =>
      let amount := Binary64.fixed num (den * size)
      return s!"{amount} {name}"
    | none => return s!"{count} B"
  | _ => return s!"{count} B"

/-- A number of bytes is rounded, and then it is shown. -/
theorem bytes_eq (count : Int) :
    bytes count = (Number.int count).toFloat >>= ofRounded units count := rfl

-- The table is a variable in the next lemmas, so that its sizes are not computed with.
theorem toFloat_bind_ofRounded (table : List (String × Nat)) {count : Int} {x : Binary64}
    (h : (Number.int count).toFloat = .ok x) :
    (Number.int count).toFloat >>= ofRounded table count = ofRounded table count x := by
  rw [h]
  rfl

theorem exists_ofRounded (table : List (String × Nat)) (count : Int) (x : Binary64) :
    ∃ text, ofRounded table count x = .ok text := by
  unfold ofRounded
  split
  · dsimp only
    split <;> exact ⟨_, rfl⟩
  · exact ⟨_, rfl⟩

/-- A number of bytes is shown unless it lies beyond all floating point numbers. -/
theorem bytes_eq_error_iff {count : Int} :
    (∃ fault, bytes count = .error fault) ↔ Binary64.limit ≤ count.natAbs := by
  have hfloat : (∃ fault, (Number.int count).toFloat = .error fault) ↔
      Binary64.limit ≤ count.natAbs := by
    simp [Number.toFloat_eq_error_iff]
  rw [← hfloat, bytes_eq]
  cases (Number.int count).toFloat with
  | error fault => exact iff_of_true ⟨fault, rfl⟩ ⟨fault, rfl⟩
  | ok x =>
    obtain ⟨text, htext⟩ := exists_ofRounded units count x
    exact iff_of_false (fun ⟨_, h⟩ => by cases htext.symm.trans h) fun ⟨_, h⟩ => nomatch h

/-! ## Exact numbers of bytes -/

/-- The text of a number of bytes that is not rounded, from a table of units. -/
def ofExact (table : List (String × Nat)) (count : Nat) : String :=
  match table.find? fun unit => unit.2 ≤ count with
  | some (name, size) =>
    let amount := Binary64.fixed count size
    s!"{amount} {name}"
  | none => s!"{count} B"

/-- A number that is not rounded is shown as it is. -/
theorem ofRounded_of_exact (table : List (String × Nat)) {count significand : Nat} {exponent : Int}
    (h : Binary64.numerator significand exponent = count * Binary64.denominator exponent) :
    ofRounded table count (.finite false significand exponent) = .ok (ofExact table count) := by
  have hden : 0 < Binary64.denominator exponent := Nat.two_pow_pos _
  have hfills : (fun unit : String × Nat =>
      decide (Binary64.denominator exponent * unit.2 ≤ count * Binary64.denominator exponent)) =
      fun unit => decide (unit.2 ≤ count) := by
    funext unit
    rw [Nat.mul_comm count, decide_eq_decide]
    exact Nat.mul_le_mul_left_iff hden
  have hfixed (size : Nat) : Binary64.fixed (count * Binary64.denominator exponent)
      (Binary64.denominator exponent * size) = Binary64.fixed count size := by
    rw [Binary64.fixed, Nat.mul_comm count, Nat.mul_assoc, divRound_mul_mul hden]
    rfl
  unfold ofRounded ofExact
  dsimp only
  rw [h, hfills]
  cases table.find? fun unit => decide (unit.2 ≤ count) with
  | none => rfl
  | some unit =>
    dsimp only
    rw [hfixed]
    rfl

/-- Numbers of bytes of at most 53 binary digits are not rounded. -/
theorem bytes_eq_ofExact {count : Nat} (h : count < 2 ^ 53) :
    bytes count = .ok (ofExact units count) := by
  obtain ⟨significand, exponent, hfloat, hexact⟩ := Binary64.exists_ofInt?_of_lt h
  have hrounded : (Number.int count).toFloat = .ok (.finite false significand exponent) := by
    rw [Number.toFloat, hfloat]
  rw [bytes_eq, toFloat_bind_ofRounded units hrounded]
  exact ofRounded_of_exact units hexact

/-! ## Texts of amounts -/

/-- A text shows an amount with two places, and behind it a unit. -/
def Shows (text : String) (amount : Rat) (unit : String) : Prop :=
  ∃ whole tenths hundredths : Nat, tenths < 10 ∧ hundredths < 10 ∧
    text = s!"{whole}.{tenths}{hundredths} {unit}" ∧
    amount = whole + tenths / 10 + hundredths / 100

/-- A number of hundredths is told apart into its whole part and its two places. -/
theorem hundredths_eq (n : Nat) :
    (n / 100 : Rat) = (n / 100 : Nat) + (n % 100 / 10 : Nat) / 10 + (n % 100 % 10 : Nat) / 100 := by
  have hsplit : n = 100 * (n / 100) + 10 * (n % 100 / 10) + n % 100 % 10 := by omega
  have hcast : (n : Rat) =
      100 * (n / 100 : Nat) + 10 * (n % 100 / 10 : Nat) + (n % 100 % 10 : Nat) := by
    exact_mod_cast hsplit
  linarith

/-- A quotient is shown to the nearest hundredth. -/
theorem shows_fixed (num den : Nat) (unit : String) :
    let amount := Binary64.fixed num den
    Shows s!"{amount} {unit}" (divRound (num * 100) den / 100) unit :=
  ⟨divRound (num * 100) den / 100, divRound (num * 100) den % 100 / 10,
    divRound (num * 100) den % 100 % 10, by omega, by omega, rfl, hundredths_eq _⟩

/-- A number below ten is written with one digit. -/
theorem length_toString {digit : Nat} (h : digit < 10) : (toString digit).toList.length = 1 := by
  rw [show (toString digit).toList = Nat.toDigits 10 digit from Nat.toList_repr,
    Nat.toDigits_of_lt_base h, List.length_singleton]

/-- A text shows no more than one amount in one unit. -/
theorem Shows.unique {text unit unit' : String} {amount amount' : Rat}
    (h : Shows text amount unit) (h' : Shows text amount' unit') :
    amount = amount' ∧ unit = unit' := by
  obtain ⟨whole, tenths, hundredths, htenths, hhundredths, rfl, rfl⟩ := h
  obtain ⟨whole', tenths', hundredths', htenths', hhundredths', htext, rfl⟩ := h'
  have htoString (text : String) : toString text = text := rfl
  have hchars : (toString whole).toList ++ ('.' ::
      ((toString tenths).toList ++ ((toString hundredths).toList ++ ' ' :: unit.toList))) =
      (toString whole').toList ++ ('.' ::
      ((toString tenths').toList ++ ((toString hundredths').toList ++ ' ' :: unit'.toList))) := by
    simpa [htoString] using congrArg String.toList htext
  -- The first point ends the digits of the whole part, whatever the unit is.
  have hwhole : (toString whole).toList = (toString whole').toList := by
    have hdigits := congrArg (List.takeWhile Char.isDigit) hchars
    rw [List.takeWhile_append_of_pos fun c => Numeral.isDigit_of_mem_toString,
      List.takeWhile_append_of_pos fun c => Numeral.isDigit_of_mem_toString,
      List.takeWhile_cons_of_neg (by decide), List.takeWhile_cons_of_neg (by decide)] at hdigits
    simpa using hdigits
  rw [hwhole] at hchars
  have hplaces := List.tail_eq_of_cons_eq (List.append_cancel_left hchars)
  obtain ⟨htenth, hrest⟩ := List.append_inj hplaces
    ((length_toString htenths).trans (length_toString htenths').symm)
  obtain ⟨hhundredth, hunit⟩ := List.append_inj hrest
    ((length_toString hhundredths).trans (length_toString hhundredths').symm)
  obtain rfl := Numeral.toString_injective (String.toList_inj.1 hwhole)
  obtain rfl := Numeral.toString_injective (String.toList_inj.1 htenth)
  obtain rfl := Numeral.toString_injective (String.toList_inj.1 hhundredth)
  exact ⟨rfl, String.toList_inj.1 (List.tail_eq_of_cons_eq hunit)⟩

/-! ## Units -/

/-- The units above a byte, each with the number of bytes in it. -/
inductive Measures : String → Nat → Prop
  | kilo : Measures "KB" 1024
  | mega : Measures "MB" (1024 ^ 2)
  | giga : Measures "GB" (1024 ^ 3)
  | tera : Measures "TB" (1024 ^ 4)

theorem units_eq :
    units = [("TB", 1024 ^ 4), ("GB", 1024 ^ 3), ("MB", 1024 ^ 2), ("KB", 1024)] := rfl

/-- Below the least unit none is filled. -/
theorem find?_units_eq_none {count : Nat} (h : count < 1024) :
    (units.find? fun unit => unit.2 ≤ count) = none := by
  rw [units_eq, List.find?_eq_none]
  simp
  omega

/-- From the least unit on there is a largest one that is filled, by fewer bytes than the next
one has unless it is the largest of all. -/
theorem exists_find?_units {count : Nat} (h : 1024 ≤ count) : ∃ unit size,
    (units.find? fun unit => unit.2 ≤ count) = some (unit, size) ∧ Measures unit size ∧
      size ≤ count ∧ (unit ≠ "TB" → count < 1024 * size) := by
  rw [units_eq]
  by_cases htera : 1024 ^ 4 ≤ count
  · exact ⟨_, _, List.find?_cons_of_pos (by simpa using htera), .tera, htera, fun h => absurd rfl h⟩
  rw [List.find?_cons_of_neg (by simpa using htera)]
  by_cases hgiga : 1024 ^ 3 ≤ count
  · exact ⟨_, _, List.find?_cons_of_pos (by simpa using hgiga), .giga, hgiga, fun _ => by omega⟩
  rw [List.find?_cons_of_neg (by simpa using hgiga)]
  by_cases hmega : 1024 ^ 2 ≤ count
  · exact ⟨_, _, List.find?_cons_of_pos (by simpa using hmega), .mega, hmega, fun _ => by omega⟩
  rw [List.find?_cons_of_neg (by simpa using hmega)]
  exact ⟨_, _, List.find?_cons_of_pos (by simpa using h), .kilo, h, fun _ => by omega⟩

/-! ## The unit that suits -/

/-- A text shows a number of bytes in the unit that suits it: as it is if it is too small for any
unit, and else in a unit that it fills at least once and, unless there is no larger unit, less
than 1024 times.  The amount is rounded by half a hundredth of the unit at most. -/
structure Suits (count : Nat) (text : String) : Prop where
  small : count < 1024 → text = s!"{count} B"
  large : 1024 ≤ count → ∃ amount unit size, Shows text amount unit ∧ Measures unit size ∧
    1 ≤ amount ∧ (unit ≠ "TB" → amount < 1024) ∧ |amount * size - count| ≤ (size : Rat) / 200

/-- A number of bytes is about to fill the unit above a given one: it is less than 1024 of the
given unit, but by no more than half a hundredth of it. -/
structure Brims (count : Nat) (unit : String) (size : Nat) : Prop where
  measures : Measures unit size
  unit_ne : unit ≠ "TB"
  lt : count < 1024 * size
  near : (1024 * size - count : Rat) ≤ size / 200

variable {count size : Nat} {unit : String}

theorem Measures.pos (h : Measures unit size) : 0 < size := by cases h <;> decide

/-- An amount of a unit differs from the number of bytes by half a hundredth at most. -/
theorem abs_amount_sub_le (hsize : 0 < size) (count : Nat) :
    |(divRound (count * 100) size / 100 : Rat) * size - count| ≤ (size : Rat) / 200 := by
  obtain ⟨hlow, hhigh⟩ := divRound_bounds (count * 100) hsize
  have hlow : (2 * (count * 100) : Rat) ≤ 2 * (divRound (count * 100) size * size) + size := by
    exact_mod_cast hlow
  have hhigh : (2 * (divRound (count * 100) size * size) : Rat) ≤ 2 * (count * 100) + size := by
    exact_mod_cast hhigh
  rw [abs_le]
  constructor <;> linarith

/-- A unit that is filled is shown as one of it at least. -/
theorem one_le_amount (hsize : 0 < size) (hfills : size ≤ count) :
    (1 : Rat) ≤ divRound (count * 100) size / 100 := by
  have hle : 100 ≤ divRound (count * 100) size := by
    rw [le_divRound_iff hsize (by omega)]
    omega
  have hle : (100 : Rat) ≤ divRound (count * 100) size := by exact_mod_cast hle
  linarith

/-- What is missing to the next unit, in whole numbers. -/
theorem near_iff : (1024 * size - count : Rat) ≤ size / 200 ↔ 204799 * size ≤ 200 * count := by
  constructor
  · intro h
    have hle : (204799 * size : Rat) ≤ 200 * count := by linarith
    exact_mod_cast hle
  · intro h
    have hle : (204799 * size : Rat) ≤ 200 * count := by exact_mod_cast h
    linarith

/-- A number below the next unit is shown as 1024 of its unit if it is about to fill the next
one, and as less otherwise.  It is never halfway, since units have no factor but two. -/
theorem Measures.amount_lt_iff (h : Measures unit size) :
    (divRound (count * 100) size / 100 : Rat) < 1024 ↔
      ¬(1024 * size - count : Rat) ≤ size / 200 := by
  have htie : 2 * (102400 * size) ≠ 2 * (count * 100) + size := by cases h <;> omega
  have hcarry : 102400 ≤ divRound (count * 100) size ↔ 204799 * size ≤ 200 * count := by
    rw [le_divRound_iff h.pos htie]
    omega
  rw [near_iff, ← hcarry, Nat.not_le, div_lt_iff₀ (by norm_num)]
  norm_num

/-- A number that is about to fill the next unit is shown as 1024 of its unit. -/
theorem Brims.amount_eq (h : Brims count unit size) :
    (divRound (count * 100) size / 100 : Rat) = 1024 := by
  have hlt := h.lt
  have hupper : ¬102401 ≤ divRound (count * 100) size := by
    rw [le_divRound_iff h.measures.pos (by omega)]
    omega
  have hle : (divRound (count * 100) size : Rat) ≤ 102400 := by
    exact_mod_cast Nat.lt_succ_iff.1 (Nat.lt_of_not_le hupper)
  have hge := mt h.measures.amount_lt_iff.1 (not_not.2 h.near)
  linarith

/-- A number is about to fill the unit above the largest one that it fills, and no other. -/
theorem Brims.unit_eq {unit' : String} {size' : Nat} (h : Brims count unit size)
    (hmeasures : Measures unit' size') (hfills : size' ≤ count)
    (hbelow : unit' ≠ "TB" → count < 1024 * size') : unit' = unit ∧ size' = size := by
  obtain ⟨hunit, hne, hlt, hnear⟩ := h
  rw [near_iff] at hnear
  cases hunit <;> cases hmeasures <;> simp at hne hbelow <;>
    first | exact ⟨rfl, rfl⟩ | omega

/-- A number that is too small for any unit is not about to fill one. -/
theorem not_brims_of_lt (h : count < 1024) : ¬Brims count unit size := by
  rintro ⟨hunit, -, -, hnear⟩
  rw [near_iff] at hnear
  cases hunit <;> omega

/-- From the least unit on a number of bytes is shown in the largest unit that it fills. -/
theorem exists_shows_ofExact (h : 1024 ≤ count) : ∃ unit size, Measures unit size ∧
    size ≤ count ∧ (unit ≠ "TB" → count < 1024 * size) ∧
      Shows (ofExact units count) (divRound (count * 100) size / 100) unit := by
  obtain ⟨unit, size, hfind, hmeasures, hfills, hbelow⟩ := exists_find?_units h
  refine ⟨unit, size, hmeasures, hfills, hbelow, ?_⟩
  rw [ofExact, hfind]
  exact shows_fixed count size unit

/-- A number of bytes of at most 53 binary digits is shown in the unit that suits it, except
where it is about to fill the next unit: then it is shown as 1024 of the unit below. -/
theorem bytes_settled {count : Nat} (h : count < 2 ^ 53) :
    ∃ text, bytes count = .ok text ∧
      (Suits count text ↔ ¬∃ unit size, Brims count unit size) ∧
      ∀ unit size, Brims count unit size → Shows text 1024 unit := by
  refine ⟨ofExact units count, bytes_eq_ofExact h, ?_⟩
  obtain hsmall | hlarge := Nat.lt_or_ge count 1024
  · have hsuits : Suits count (ofExact units count) := by
      refine ⟨fun _ => ?_, fun hlarge => by omega⟩
      rw [ofExact, find?_units_eq_none hsmall]
    exact ⟨iff_of_true hsuits fun ⟨_, _, hbrims⟩ => not_brims_of_lt hsmall hbrims,
      fun _ _ hbrims => absurd hbrims (not_brims_of_lt hsmall)⟩
  obtain ⟨unit, size, hmeasures, hfills, hbelow, hshows⟩ := exists_shows_ofExact hlarge
  have hbrimming {unit' : String} {size' : Nat} (hbrims : Brims count unit' size') :
      Shows (ofExact units count) 1024 unit' := by
    obtain ⟨rfl, rfl⟩ := hbrims.unit_eq hmeasures hfills hbelow
    rwa [hbrims.amount_eq] at hshows
  refine ⟨⟨?_, fun hroom => ⟨fun hsmall => by omega, fun _ => ?_⟩⟩, fun _ _ => hbrimming⟩
  · rintro hsuits ⟨unit', size', hbrims⟩
    obtain ⟨amount, unit'', size'', htext, -, -, hlt, -⟩ := hsuits.large hlarge
    obtain ⟨rfl, rfl⟩ := htext.unique (hbrimming hbrims)
    exact absurd (hlt hbrims.unit_ne) (lt_irrefl _)
  · have hlt (hne : unit ≠ "TB") : (divRound (count * 100) size / 100 : Rat) < 1024 :=
      hmeasures.amount_lt_iff.2 fun hnear =>
        hroom ⟨unit, size, hmeasures, hne, hbelow hne, hnear⟩
    exact ⟨_, unit, size, hshows, hmeasures, one_le_amount hmeasures.pos hfills, hlt,
      abs_amount_sub_le hmeasures.pos count⟩

/-- Six bytes less than a megabyte. -/
theorem bytes_settled_kilobytes : 1048570 < 2 ^ 53 ∧
    ∃ text, bytes (1048570 : Nat) = .ok text ∧
      (Suits 1048570 text ↔ ¬∃ unit size, Brims 1048570 unit size) ∧
      ∀ unit size, Brims 1048570 unit size → Shows text 1024 unit :=
  ⟨by norm_num, bytes_settled (by norm_num)⟩

/-- One byte less than a megabyte is shown as 1024 kilobytes, which does not suit it. -/
theorem bytes_brimming :
    bytes 1048575 = .ok "1024.00 KB" ∧ ¬Suits 1048575 "1024.00 KB" := by
  refine ⟨by decide +kernel, fun hsuits => ?_⟩
  have hshows : Shows "1024.00 KB" 1024 "KB" :=
    ⟨1024, 0, 0, by decide, by decide, by decide, by norm_num⟩
  obtain ⟨amount, unit, size, htext, -, -, hlt, -⟩ := hsuits.large (by decide)
  obtain ⟨rfl, rfl⟩ := htext.unique hshows
  exact absurd (hlt (by decide)) (lt_irrefl _)

end Quantity

end Rune
