import Mathlib.Data.Nat.Log
import Mathlib.Data.Rat.Lemmas
import Mathlib.Tactic.Ring
import Rune.Number.Basic

/-!
# Rune - the range of floating point numbers

The largest floating point number is one unit of its last place below two to the power of 1024.
An integer is rounded to a floating point number unless it is nearer to that power than to the
largest number, or halfway between them: the largest number has an odd significand.

Main results:

- Theorem {lit}`Binary64.ofInt?_eq_none_iff`: the integers that lie beyond all numbers, which is
  from {lit}`Binary64.limit` on.
- Theorem {lit}`Binary64.exists_ofInt?_of_lt`: integers of at most 53 binary digits are not
  rounded.
- Theorem {lit}`Number.toInt?_eq_some_iff`: a number is an integer if its value is.
-/

namespace Rune

/-! ## Rounding -/

/-- A quotient is rounded alike however far it is reduced. -/
theorem divRound_mul_mul {factor : Nat} (hfactor : 0 < factor) (num den : Nat) :
    divRound (factor * num) (factor * den) = divRound num den := by
  have hmore : 2 * (factor * (num % den)) > factor * den ↔ 2 * (num % den) > den := by
    rw [Nat.mul_left_comm]
    exact Nat.mul_lt_mul_left hfactor
  have hhalf : 2 * (factor * (num % den)) = factor * den ↔ 2 * (num % den) = den := by
    rw [Nat.mul_left_comm]
    exact Nat.mul_right_inj (Nat.ne_of_gt hfactor)
  unfold divRound
  dsimp only
  simp only [Nat.mul_div_mul_left _ _ hfactor, Nat.mul_mod_mul_left, hmore, hhalf]

/-- A quotient is rounded to a number or beyond from halfway below that number on, the point
halfway itself apart. -/
theorem le_divRound_iff {num den n : Nat} (hden : 0 < den)
    (htie : 2 * (n * den) ≠ 2 * num + den) :
    n ≤ divRound num den ↔ 2 * (n * den) ≤ 2 * num + den := by
  obtain ⟨hlow, hhigh⟩ := divRound_bounds num hden
  constructor
  · intro h
    have hmul : n * den ≤ divRound num den * den := Nat.mul_le_mul_right den h
    omega
  · intro h
    refine Nat.le_of_not_lt fun hlt => ?_
    have hmul : (divRound num den + 1) * den ≤ n * den := Nat.mul_le_mul_right den hlt
    rw [Nat.add_mul, Nat.one_mul] at hmul
    omega

/-- A quotient below the even number after {lit}`whole` is rounded to it from halfway on. -/
theorem divRound_eq_succ_iff {num half whole : Nat} (hhalf : 0 < half) (hodd : whole % 2 = 1)
    (hlt : num < (whole + 1) * (2 * half)) :
    divRound num (2 * half) = whole + 1 ↔ (2 * whole + 1) * half ≤ num := by
  have hdiv := Nat.div_add_mod num (2 * half)
  have hmod := Nat.mod_lt num (show 0 < 2 * half by omega)
  have hle : num / (2 * half) ≤ whole :=
    Nat.lt_succ_iff.1 ((Nat.div_lt_iff_lt_mul (by omega)).2 hlt)
  unfold divRound
  dsimp only
  obtain heq | hless := Nat.eq_or_lt_of_le hle
  · rw [heq] at hdiv ⊢
    have hsplit : (2 * whole + 1) * half = 2 * half * whole + half := by ring
    split <;> omega
  · have hbelow : 2 * half * (num / (2 * half)) + 2 * half ≤ 2 * half * whole := by
      rw [← Nat.mul_succ]
      exact Nat.mul_le_mul_left _ hless
    have hsplit : (2 * whole + 1) * half = 2 * half * whole + half := by ring
    split <;> omega

namespace Binary64

/-! ## Integers -/

/-- Halfway between the largest number and the power of two above it. -/
def limit : Nat := 2 ^ 1024 - 2 ^ 970

/-- The leading binary digit of a positive integer. -/
theorem leadingExponent_one {n : Nat} (h : n ≠ 0) : leadingExponent n 1 = n.log2 := by
  have hle : 2 ^ n.log2 ≤ n := Nat.log2_self_le h
  simp [leadingExponent, show Nat.log2 1 = 0 from rfl, hle]

/-- Rounding an integer may carry over to the next power of two. -/
theorem ofInt?_eq_none_iff_carry {i : Int} (h : i.natAbs ≠ 0) :
    ofInt? i = none ↔ ∃ exponent : Int, exponent = max ((i.natAbs.log2 : Int) - 52) minExponent ∧
      maxExponent < if divRound (i.natAbs * Nat.pow 2 (-exponent).toNat)
        (1 * Nat.pow 2 exponent.toNat) = Nat.pow 2 53 then exponent + 1 else exponent := by
  rw [exists_eq_left]
  generalize hexponent : max ((i.natAbs.log2 : Int) - 52) minExponent = exponent
  unfold ofInt? nearest
  rw [if_neg h, leadingExponent_one h, hexponent]
  dsimp only
  generalize divRound _ _ = rounded
  by_cases hcarry : rounded = Nat.pow 2 53
  · rw [if_pos hcarry, if_pos hcarry]
    by_cases hmax : maxExponent < exponent + 1 <;> simp [hmax]
  · rw [if_neg hcarry, if_neg hcarry]
    by_cases hmax : maxExponent < exponent <;> simp [hmax]

/-- An integer lies beyond all numbers from halfway on between the largest number and the power
of two above it. -/
theorem ofInt?_eq_none_iff {i : Int} : ofInt? i = none ↔ limit ≤ i.natAbs := by
  -- The numbers are told in the half of the last place of the largest one, whose power of two
  -- is too large to be computed with.
  obtain ⟨half, hhalf⟩ : ∃ half, half = 970 := ⟨_, rfl⟩
  have hpos : 0 < 2 ^ half := Nat.two_pow_pos half
  rw [limit, show 1024 = 54 + half by omega, Nat.pow_add, ← hhalf]
  by_cases hzero : i.natAbs = 0
  · obtain rfl := Int.natAbs_eq_zero.1 hzero
    exact iff_of_false nofun (by omega)
  rw [ofInt?_eq_none_iff_carry hzero]
  have hlow : 2 ^ i.natAbs.log2 ≤ i.natAbs := Nat.log2_self_le hzero
  have hhigh : i.natAbs < 2 ^ (i.natAbs.log2 + 1) := Nat.lt_log2_self
  generalize i.natAbs = n at hlow hhigh ⊢
  have hmin : minExponent = -1074 := rfl
  have hmax : maxExponent = half + 1 := by rw [hhalf]; rfl
  obtain hless | heq | hmore := Nat.lt_trichotomy n.log2 (53 + half)
  · -- The integer lies below the largest power of two that is a number.
    have hbelow : 2 ^ (n.log2 + 1) ≤ 2 ^ (53 + half) := Nat.pow_le_pow_right Nat.two_pos hless
    rw [Nat.pow_add 2 53] at hbelow
    refine iff_of_false ?_ (by omega)
    rintro ⟨exponent, hexponent, h⟩
    split at h <;> omega
  · -- It is rounded in the last place of the largest number.
    have hexponent : max ((n.log2 : Int) - 52) minExponent = (half + 1 : Nat) := by omega
    have hsmall : n < 2 ^ 54 * 2 ^ half := by
      rwa [heq, show 53 + half + 1 = 54 + half by omega, Nat.pow_add] at hhigh
    have hup : divRound n (2 * 2 ^ half) = 2 ^ 53 - 1 + 1 ↔
        (2 * (2 ^ 53 - 1) + 1) * 2 ^ half ≤ n := divRound_eq_succ_iff hpos (by decide) (by omega)
    have hnum : n * Nat.pow 2 (-((half + 1 : Nat) : Int)).toNat = n := by
      rw [Int.toNat_neg_natCast]
      exact Nat.mul_one n
    have hden : 1 * Nat.pow 2 ((half + 1 : Nat) : Int).toNat = 2 * 2 ^ half := by
      rw [Int.toNat_natCast, Nat.one_mul]
      exact Nat.pow_succ'
    have hwhole : 2 ^ 53 - 1 + 1 = Nat.pow 2 53 := rfl
    rw [exists_eq_left, hexponent, hnum, hden, hmax, ← hwhole]
    by_cases hrounds : divRound n (2 * 2 ^ half) = 2 ^ 53 - 1 + 1
    · rw [if_pos hrounds]
      exact iff_of_true (by omega) (by have := hup.1 hrounds; omega)
    · rw [if_neg hrounds]
      exact iff_of_false (by omega) (by have := mt hup.2 hrounds; omega)
  · -- It lies above all powers of two that are numbers.
    have habove : 2 ^ (54 + half) ≤ 2 ^ n.log2 := Nat.pow_le_pow_right Nat.two_pos (by omega)
    rw [Nat.pow_add 2 54] at habove
    refine iff_of_true ⟨_, rfl, ?_⟩ (by omega)
    split <;> omega

/-- A natural number of at most 53 binary digits is a floating point number: its digits fit into
a significand, and nothing is rounded. -/
theorem exists_ofInt?_of_lt {n : Nat} (h : n < 2 ^ 53) : ∃ significand exponent,
    ofInt? n = some (.finite false significand exponent) ∧
      numerator significand exponent = n * denominator exponent := by
  by_cases hzero : n = 0
  · subst hzero
    exact ⟨0, minExponent, rfl, by simp [numerator]⟩
  -- The significand is filled up with zeros behind the digits of the number.
  obtain ⟨zeros, hzeros⟩ : ∃ zeros, n.log2 + zeros = 52 := by
    have hlog : n.log2 < 53 := (Nat.log2_lt hzero).2 h
    exact ⟨52 - n.log2, by omega⟩
  have hexponent : max ((n.log2 : Int) - 52) minExponent = -(zeros : Int) := by
    have hmin : minExponent = -1074 := rfl
    omega
  have hrounded : divRound (n * Nat.pow 2 (- -(zeros : Int)).toNat)
      (1 * Nat.pow 2 (-(zeros : Int)).toNat) = n * 2 ^ zeros := by
    have hone : 1 * Nat.pow 2 (-(zeros : Int)).toNat = 1 := by rw [Int.toNat_neg_natCast]
    rw [hone, Int.neg_neg, Int.toNat_natCast]
    simpa using divRound_mul (n * 2 ^ zeros) Nat.one_pos
  have hcarry : n * 2 ^ zeros ≠ Nat.pow 2 53 := by
    have hpow : 2 ^ (n.log2 + 1) * 2 ^ zeros = Nat.pow 2 53 := by
      rw [← Nat.pow_add, show n.log2 + 1 + zeros = 53 by omega]
    rw [← hpow]
    exact Nat.ne_of_lt (Nat.mul_lt_mul_of_pos_right Nat.lt_log2_self (Nat.two_pow_pos _))
  have hmax : ¬-(zeros : Int) > maxExponent := by
    have hmax : maxExponent = 971 := rfl
    omega
  refine ⟨n * 2 ^ zeros, -zeros, ?_, ?_⟩
  · have hnegative : decide ((n : Int) < 0) = false := by simp
    rw [ofInt?, nearest, Int.natAbs_natCast, if_neg hzero, leadingExponent_one hzero, hexponent]
    dsimp only
    rw [hrounded, if_neg hcarry, if_neg hmax, hnegative]
  · rw [numerator, denominator, Int.toNat_neg_natCast, Int.neg_neg, Int.toNat_natCast]
    exact Nat.mul_one _

/-! ## Numbers that are integers -/

theorem denominator_ne_zero (exponent : Int) : denominator exponent ≠ 0 :=
  Nat.ne_of_gt (Nat.two_pow_pos _)

/-- A quotient of natural numbers is an integer if the division leaves no rest. -/
theorem mkRat_eq_intCast_iff {num den : Nat} (h : den ≠ 0) {i : Int} :
    mkRat num den = (i : Rat) ↔ num % den = 0 ∧ (num : Int) / den = i := by
  have hden : (den : Int) ≠ 0 := by exact_mod_cast h
  rw [Rat.mkRat_eq_div, div_eq_iff (by exact_mod_cast h)]
  constructor
  · intro hmul
    have hmul : (num : Int) = i * den := by exact_mod_cast hmul
    refine ⟨?_, by rw [hmul, Int.mul_ediv_cancel _ hden]⟩
    have hmod : (num : Int) % den = 0 := by rw [hmul, Int.mul_emod_left]
    exact_mod_cast hmod
  · rintro ⟨hmod, rfl⟩
    have hmod : (num : Int) % den = 0 := by exact_mod_cast hmod
    exact_mod_cast (Int.ediv_mul_cancel (Int.dvd_of_emod_eq_zero hmod)).symm

/-- A floating point number is an integer if its value is. -/
theorem toInt?_eq_some_iff {x : Binary64} {i : Int} :
    x.toInt? = some i ↔ x.value? = some (i : Rat) := by
  cases x with
  | nan => exact ⟨nofun, nofun⟩
  | infinite => exact ⟨nofun, nofun⟩
  | finite negative significand exponent =>
    have hden := denominator_ne_zero exponent
    cases negative with
    | false =>
      simp [toInt?, value?, mkRat_eq_intCast_iff hden]
    | true =>
      have hmagnitude : mkRat (numerator significand exponent) (denominator exponent) =
          ((-i : Int) : Rat) ↔ _ := mkRat_eq_intCast_iff hden
      rw [Int.cast_neg] at hmagnitude
      simp [toInt?, value?, neg_eq_iff_eq_neg, hmagnitude]

end Binary64

namespace Number

/-- An integer beyond all floating point numbers does not become one. -/
theorem toFloat_eq_error_iff {n : Number} : (∃ fault, n.toFloat = .error fault) ↔
    ∃ i : Int, n = .int i ∧ Binary64.limit ≤ i.natAbs := by
  cases n with
  | float x => exact iff_of_false (fun ⟨_, h⟩ => nomatch h) fun ⟨_, h, _⟩ => nomatch h
  | int i =>
    simp only [int.injEq, exists_eq_left', ← Binary64.ofInt?_eq_none_iff, toFloat]
    cases Binary64.ofInt? i <;> simp

/-- A number is an integer if its value is. -/
theorem toInt?_eq_some_iff {n : Number} {i : Int} :
    n.toInt? = some i ↔ n.extended? = some (.exact i) := by
  cases n with
  | int j => simp [toInt?, extended?]
  | float x =>
    rw [toInt?, Binary64.toInt?_eq_some_iff, extended?]
    cases x with
    | nan => exact ⟨nofun, nofun⟩
    | infinite negative => cases negative <;> exact ⟨nofun, nofun⟩
    | finite => simp [Binary64.extended?, Binary64.value?]

end Number

end Rune
