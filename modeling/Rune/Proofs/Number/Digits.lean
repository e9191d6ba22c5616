import Mathlib.Data.List.Basic
import Rune.Number.Numeral

/-!
# Rune - the digits of numbers

A natural number is written with decimal digits, the first of which is no zero unless the
number is, and it is read from them again.

Main results:

- Theorem {lit}`Numeral.exists_digits_toString`: how a number is written.
- Theorem {lit}`Numeral.readInt_toString`: a number that is written is read again.
-/

namespace Rune

namespace Numeral

variable {c : Char} {chars : List Char}

theorem toNat_bounds_of_isDigit (h : c.isDigit = true) : 48 ≤ c.toNat ∧ c.toNat ≤ 57 := by
  simpa [Char.isDigit, UInt32.le_iff_toNat_le] using h

theorem decimalValue?_of_isDigit (h : c.isDigit = true) :
    Unicode.decimalValue? c = some (c.toNat - 48) := by
  have hbounds := toNat_bounds_of_isDigit h
  have hlow : '0' ≤ c := by simpa [Char.le_def, UInt32.le_iff_toNat_le] using hbounds.1
  have hhigh : c ≤ '9' := by simpa [Char.le_def, UInt32.le_iff_toNat_le] using hbounds.2
  rw [Unicode.decimalValue?, if_pos (by omega), if_pos ⟨hlow, hhigh⟩]

theorem isPadding_of_isDigit (h : c.isDigit = true) : isPadding c = false := by
  have hpadding : ∀ n ∈ List.range' 48 10, isPadding (Char.ofNat n) = false := by decide +kernel
  have hbounds := toNat_bounds_of_isDigit h
  rw [← Char.ofNat_toNat c]
  exact hpadding _ (by rw [List.mem_range'_1]; omega)

/-- What has no padding in it is not surrounded by any. -/
theorem unpad_eq_self (h : ∀ c ∈ chars, isPadding c = false) : unpad chars = chars := by
  have hdrop {chars : List Char} (h : ∀ c ∈ chars, isPadding c = false) :
      chars.dropWhile isPadding = chars := by
    cases chars with
    | nil => rfl
    | cons c chars =>
      have hc := h c List.mem_cons_self
      rw [List.dropWhile_cons_of_neg (by simp [hc])]
  rw [unpad, hdrop h, hdrop (fun c hc => h c (List.mem_reverse.1 hc)), List.reverse_reverse]

/-- What has no sign in it does not begin with one. -/
theorem readSign_eq_self (hminus : '-' ∉ chars) (hplus : '+' ∉ chars) :
    readSign chars = (false, chars) := by
  unfold readSign
  split
  · exact absurd List.mem_cons_self hminus
  · exact absurd List.mem_cons_self hplus
  · rfl

/-- A run of digits is read to its end. -/
theorem readRun_of_isDigit (h : ∀ c ∈ chars, c.isDigit = true) :
    readRun chars = (chars.map fun c => c.toNat - 48, []) := by
  induction chars with
  | nil => rfl
  | cons c chars ih =>
    rw [List.forall_mem_cons] at h
    rw [readRun, decimalValue?_of_isDigit h.1, ih h.2]
    rfl

/-- A number is written with digits. -/
theorem isDigit_of_mem_toString {n : Nat} (h : c ∈ (toString n).toList) : c.isDigit = true := by
  rw [show (toString n).toList = Nat.toDigits 10 n from Nat.toList_repr] at h
  exact Nat.isDigit_of_mem_toDigits (by decide) (Nat.le_refl 10) h

theorem toString_ne_empty (n : Nat) : toString n ≠ "" := by
  rw [Ne, ← String.toList_eq_nil_iff, show (toString n).toList = Nat.toDigits 10 n from
    Nat.toList_repr]
  exact Nat.toDigits_ne_nil

/-- The digits of a number stand for it. -/
theorem ofDigits_toString (n : Nat) :
    ofDigits ((toString n).toList.map fun c => c.toNat - 48) = n := by
  rw [show (toString n).toList = Nat.toDigits 10 n from Nat.toList_repr, ofDigits, List.foldl_map]
  simp_rw [Nat.mul_comm _ 10]
  exact Nat.ofDigitChars_toDigits (by decide) (Nat.le_refl 10)

/-- Different numbers are written differently. -/
theorem toString_injective : Function.Injective (toString : Nat → String) := by
  intro n m h
  rw [← ofDigits_toString n, h, ofDigits_toString]

/-- Digits are read to their end. -/
theorem readDigits_of_isDigit (h : ∀ c ∈ chars, c.isDigit = true) :
    readDigits chars = (chars.map fun c => c.toNat - 48, []) := by
  cases chars with
  | nil => rfl
  | cons c chars =>
    have hdecimal : (List.head? (c :: chars)).any Unicode.isDecimal = true := by
      simp [Unicode.isDecimal, decimalValue?_of_isDigit (h c List.mem_cons_self)]
    rw [readDigits, if_pos hdecimal, readRun_of_isDigit h]

/-- A number that is written in few enough digits is read again. -/
theorem readInt_toString {n : Nat} (h : (toString n).length ≤ maxDigits) :
    readInt (toString n) = .ok n := by
  have hdigits : ∀ c ∈ (toString n).toList, c.isDigit = true := fun c => isDigit_of_mem_toString
  have hlength : ¬maxDigits < (toString n).toList.length := by
    rw [String.length_toList]
    omega
  have hnonempty : (toString n).toList.isEmpty = false := by
    rw [List.isEmpty_eq_false_iff, Ne, String.toList_eq_nil_iff]
    exact toString_ne_empty n
  unfold readInt
  rw [unpad_eq_self fun c hc => isPadding_of_isDigit (hdigits c hc),
    readSign_eq_self (fun h => absurd (hdigits _ h) (by decide))
      fun h => absurd (hdigits _ h) (by decide)]
  dsimp only
  rw [readDigits_of_isDigit hdigits]
  simp only [List.length_map, if_neg hlength, List.isEmpty_map, hnonempty, ofDigits_toString]
  rfl

/-- A number other than zero is written with a first digit other than zero. -/
theorem exists_digits_toString {n : Nat} (h : n ≠ 0) :
    ∃ first rest, (toString n).toList = first :: rest ∧ first ≠ '0' := by
  rw [show (toString n).toList = Nat.toDigits 10 n from Nat.toList_repr]
  induction n using Nat.strongRecOn with
  | _ n ih =>
    by_cases hlt : n < 10
    · refine ⟨n.digitChar, [], Nat.toDigits_of_lt_base hlt, ?_⟩
      have hdigits : ∀ digit < 10, digit ≠ 0 → Nat.digitChar digit ≠ '0' := by decide
      exact hdigits n hlt h
    · obtain ⟨first, rest, hfirst, hne⟩ := ih (n / 10) (by omega) (by omega)
      refine ⟨first, rest ++ [(n % 10).digitChar], ?_, hne⟩
      rw [Nat.toDigits_eq_if (by decide), if_neg hlt, hfirst, List.cons_append]

end Numeral

end Rune
