import Mathlib.Data.List.DropRight
import Rune.Number.Basic
import Rune.Proofs.Json.Grammar
import Rune.Proofs.Number.Digits

/-!
# Rune - numbers as JSON tokens

An integer is written with its decimal digits, and a finite floating point number with the
shortest digits that read back to it, in one of two layouts.  Both are tokens of JSON: the
first digit is a zero only before the point, and digits stand on both sides of a point.

Main results:

- Definition {lit}`Number.token` is the token of a number.
- Theorem {lit}`Decimal.digits_shortest_ne_zero`: the shortest decimal of a positive number
  is positive.
- Theorem {lit}`Number.isNumber_token`: the token of a number is one of JSON.
-/

namespace Rune

open Json (IsDigits IsWhole IsFraction IsExponent IsSign IsNumber)

/-- The token of a number: its own text, or an infinity spelled out. -/
def Number.token : Number → List Char
  | .float (.infinite negative) => (if negative then "-Infinity" else "Infinity").toList
  | n => n.literalText.toList

/-! ## Decimals -/

theorem div_le_divRound (num den : Nat) : num / den ≤ divRound num den := by
  unfold divRound
  dsimp only
  split
  · exact Nat.le_succ _
  · exact Nat.le_refl _

namespace Decimal

theorem compareScaled_zero {n : Nat} (hn : n ≠ 0) (i j : Int) : compareScaled 0 i n j = .lt := by
  have hpos : 0 < n * Nat.pow 2 j.toNat * Nat.pow 10 (-i).toNat :=
    Nat.mul_pos (Nat.mul_pos (Nat.pos_of_ne_zero hn) (Nat.pow_pos (by decide)))
      (Nat.pow_pos (by decide))
  simpa [compareScaled, Nat.compare_eq_lt] using hpos

/-- Zero does not read back to a positive number. -/
theorem not_readsBack_zero {significand : Nat} (h : significand ≠ 0) (exponent unit : Int) :
    readsBack significand exponent ⟨0, unit⟩ = false := by
  have hlow (narrow : Bool) :
      (if narrow then 4 * significand - 1 else 4 * significand - 2) ≠ 0 := by
    cases narrow <;> simp <;> omega
  unfold readsBack
  dsimp only
  rw [compareScaled_zero (hlow _)]
  simp

theorem digits_onGrid_ne_zero {significand : Nat} (h : significand ≠ 0) {exponent : Int}
    {places : Nat} {d : Decimal} (hgrid : onGrid? significand exponent places = some d) :
    d.digits ≠ 0 := by
  have hfits {low : Nat} {unit : Int} (hlow : readsBack significand exponent ⟨low, unit⟩) :
      low ≠ 0 := by
    rintro rfl
    rw [not_readsBack_zero h] at hlow
    cases hlow
  unfold onGrid? at hgrid
  dsimp only at hgrid
  split at hgrid
  · rename_i hboth
    have hlow := hfits (Bool.and_eq_true _ _ ▸ hboth).1
    cases hgrid
    exact (Nat.lt_of_lt_of_le (Nat.pos_of_ne_zero hlow) (div_le_divRound _ _)).ne'
  · split at hgrid
    · rename_i hlow
      cases hgrid
      exact hfits hlow
    · split at hgrid
      · cases hgrid
        exact Nat.succ_ne_zero _
      · cases hgrid

/-- The shortest decimal of a positive number is positive. -/
theorem digits_shortest_ne_zero {significand : Nat} (h : significand ≠ 0) (exponent : Int) :
    (shortest significand exponent).digits ≠ 0 := by
  unfold shortest
  cases hfound : (List.range 17).findSome? fun n => onGrid? significand exponent (n + 1) with
  | some d =>
    obtain ⟨n, -, hgrid⟩ := List.exists_of_findSome?_eq_some hfound
    exact digits_onGrid_ne_zero h hgrid
  | none =>
    have hpow (base n : Nat) (hbase : 0 < base) : Nat.pow base n ≠ 0 :=
      (Nat.pow_pos hbase).ne'
    exact Nat.mul_ne_zero (Nat.mul_ne_zero h (hpow 2 _ (by decide))) (hpow 5 _ (by decide))

/-- Digits the first of which is no zero. -/
structure IsLeading (digits : List Char) : Prop where
  exists_first : ∃ first rest, digits = first :: rest ∧ first ≠ '0'
  isDigit : ∀ c ∈ digits, c.isDigit

namespace IsLeading

variable {digits : List Char}

theorem isDigits (h : IsLeading digits) : IsDigits digits := by
  obtain ⟨⟨first, rest, rfl, -⟩, hdigits⟩ := h
  exact ⟨List.cons_ne_nil _ _, hdigits⟩

/-- With more digits they are those before a point. -/
theorem isWhole_append (h : IsLeading digits) {more : List Char} (hmore : ∀ c ∈ more, c.isDigit) :
    IsWhole (digits ++ more) := by
  obtain ⟨⟨first, rest, rfl, hfirst⟩, hdigits⟩ := h
  rw [List.forall_mem_cons] at hdigits
  exact .digits hdigits.1 hfirst (List.forall_mem_append.2 ⟨hdigits.2, hmore⟩)

theorem isWhole_take (h : IsLeading digits) {count : Nat} (hcount : 0 < count) :
    IsWhole (digits.take count) := by
  obtain ⟨⟨first, rest, rfl, hfirst⟩, hdigits⟩ := h
  rw [List.forall_mem_cons] at hdigits
  obtain ⟨count, rfl⟩ := Nat.exists_eq_add_of_lt hcount
  rw [Nat.zero_add, List.take_succ_cons]
  exact .digits hdigits.1 hfirst fun c hc => hdigits.2 c (List.mem_of_mem_take hc)

end IsLeading

/-- The digits of a positive decimal. -/
theorem isLeading_digitChars {d : Decimal} (h : d.digits ≠ 0) : IsLeading d.digitChars := by
  obtain ⟨first, rest, htext, hfirst⟩ := Numeral.exists_digits_toString h
  have hbegin : d.digitChars <+: (toString d.digits).toList :=
    List.rdropWhile_prefix (fun c => decide (c = '0')) _
  have hne : d.digitChars ≠ [] := by
    intro hnil
    have hall := List.rdropWhile_eq_nil_iff.1
      (hnil : List.rdropWhile (fun c => decide (c = '0')) (toString d.digits).toList = [])
    exact hfirst (by simpa using hall first (htext ▸ List.mem_cons_self))
  constructor
  · obtain ⟨first', rest', heq⟩ := List.exists_cons_of_ne_nil hne
    rw [heq, htext] at hbegin
    obtain ⟨rfl, -⟩ := List.cons_prefix_cons.1 hbegin
    exact ⟨first', rest', heq, hfirst⟩
  · exact fun c hc => Numeral.isDigit_of_mem_toString (hbegin.subset hc)

theorem isDigit_of_mem_replicate (count : Nat) : ∀ c ∈ List.replicate count '0', c.isDigit := by
  intro c hc
  rw [List.eq_of_mem_replicate hc]
  decide

/-- Digits with a point are a number. -/
theorem isNumber_positional {sign digits : List Char} (hsign : IsSign sign)
    (h : IsLeading digits) (point : Int) : IsNumber (sign ++ positional digits point) := by
  unfold positional
  split
  · have hfraction : IsFraction ('.' :: (List.replicate (-point).toNat '0' ++ digits)) :=
      .digits ⟨by simp [h.isDigits.1], List.forall_mem_append.2
        ⟨isDigit_of_mem_replicate _, h.isDigit⟩⟩
    simpa using IsNumber.finite hsign .zero hfraction .nothing
  · split
    · have hwhole := h.isWhole_append (isDigit_of_mem_replicate (point.toNat - digits.length))
      have hfraction : IsFraction ['.', '0'] := .digits ⟨by decide, List.all_eq_true.1 rfl⟩
      simpa using IsNumber.finite hsign hwhole hfraction .nothing
    · have hfraction : IsFraction ('.' :: digits.drop point.toNat) :=
        .digits ⟨by rw [Ne, List.drop_eq_nil_iff]; omega, fun c hc =>
          h.isDigit c (List.mem_of_mem_drop hc)⟩
      simpa using IsNumber.finite hsign (h.isWhole_take (by omega : 0 < point.toNat)) hfraction
        .nothing

/-- Digits with an exponent are a number. -/
theorem isNumber_scientific {sign digits : List Char} (hsign : IsSign sign)
    (h : IsLeading digits) (point : Int) : IsNumber (sign ++ scientific digits point) := by
  unfold scientific
  dsimp only
  have hexponent (negative : Prop) [Decidable negative] (magnitude : Nat) :
      IsExponent ('e' :: (if negative then '-' else '+') ::
        if (toString magnitude).toList.length < 2 then '0' :: (toString magnitude).toList
        else (toString magnitude).toList) := by
    have hdigits : ∀ c ∈ (toString magnitude).toList, c.isDigit :=
      fun c => Numeral.isDigit_of_mem_toString
    have hne : (toString magnitude).toList ≠ [] := by
      rw [Ne, String.toList_eq_nil_iff]
      exact Numeral.toString_ne_empty magnitude
    have hpadded : IsDigits (if (toString magnitude).toList.length < 2
        then '0' :: (toString magnitude).toList else (toString magnitude).toList) := by
      split
      · exact ⟨List.cons_ne_nil _ _, List.forall_mem_cons.2 ⟨by decide, hdigits⟩⟩
      · exact ⟨hne, hdigits⟩
    have hsign : IsSign [if negative then '-' else '+'] ∨
        [if negative then '-' else '+'] = ['+'] := by
      by_cases h : negative
      · exact .inl (.inr (by rw [if_pos h]))
      · exact .inr (by rw [if_neg h])
    exact .digits (.inl rfl) hsign hpadded
  have hnumber {fraction : List Char} (hfraction : IsFraction fraction) :=
    IsNumber.finite hsign (h.isWhole_take Nat.one_pos) hfraction
      (hexponent (point - 1 < 0) (point - 1).natAbs)
  simp only [List.append_assoc]
  split
  · exact hnumber .nothing
  · rename_i hne
    exact hnumber (.digits ⟨hne, fun c hc => h.isDigit c (List.mem_of_mem_drop hc)⟩)

theorem isNumber_layout {sign : List Char} (hsign : IsSign sign) {d : Decimal}
    (h : d.digits ≠ 0) : IsNumber (sign ++ d.layout) := by
  unfold layout
  dsimp only
  split
  · exact isNumber_positional hsign (isLeading_digitChars h) _
  · exact isNumber_scientific hsign (isLeading_digitChars h) _

end Decimal

/-! ## Numbers -/

/-- The text of a finite number is a token. -/
theorem Binary64.isNumber_text (negative : Bool) (significand : Nat) (exponent : Int) :
    IsNumber (Binary64.finite negative significand exponent).text.toList := by
  have hmagnitude {sign : List Char} (hsign : IsSign sign) : IsNumber (sign ++
      if significand = 0 then ['0', '.', '0']
      else (Decimal.shortest significand exponent).layout) := by
    split
    · have hfraction : IsFraction ['.', '0'] := .digits ⟨by decide, List.all_eq_true.1 rfl⟩
      simpa using IsNumber.finite hsign .zero hfraction .nothing
    · rename_i hne
      exact Decimal.isNumber_layout hsign (Decimal.digits_shortest_ne_zero hne exponent)
  rw [text, String.toList_ofList]
  cases negative with
  | true => exact hmagnitude (.inr rfl)
  | false => exact hmagnitude (.inl rfl)

/-- The text of an integer is a token. -/
theorem Number.isNumber_toString (i : Int) : IsNumber (toString i).toList := by
  have hmagnitude {sign : List Char} (hsign : IsSign sign) (n : Nat) :
      IsNumber (sign ++ (toString n).toList) := by
    have hwhole : IsWhole (toString n).toList := by
      by_cases hn : n = 0
      · rw [hn]
        exact .zero
      · have hleading : Decimal.IsLeading (toString n).toList :=
          ⟨Numeral.exists_digits_toString hn, fun c => Numeral.isDigit_of_mem_toString⟩
        simpa using hleading.isWhole_append (List.forall_mem_nil _)
    simpa using IsNumber.finite hsign hwhole .nothing .nothing
  cases i with
  | ofNat n => exact hmagnitude (.inl rfl) n
  | negSucc n =>
    have htext : (toString (Int.negSucc n)).toList = ['-'] ++ (toString (n + 1)).toList :=
      String.toList_append
    rw [htext]
    exact hmagnitude (.inr rfl) (n + 1)

/-- The token of a number is one of JSON, if it is a number at all. -/
theorem Number.isNumber_token {n : Number} (h : n ≠ .float .nan) : IsNumber n.token := by
  cases n with
  | int i => exact isNumber_toString i
  | float x =>
    cases x with
    | nan => exact absurd rfl h
    | infinite negative =>
      cases negative with
      | true => exact .infinite (.inr rfl)
      | false => exact .infinite (.inl rfl)
    | finite negative significand exponent => exact Binary64.isNumber_text _ _ _

end Rune
