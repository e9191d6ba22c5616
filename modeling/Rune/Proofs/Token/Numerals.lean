import Mathlib.Data.List.TakeWhile
import Rune.Number.Numeral
import Rune.Proofs.Token.Literals

/-!
# Rune - numerals with a point

A numeral with a point stands for a floating point number.  Because of its point it is not the
word for what is no number, and rounding a decimal number always gives a number.

Main results:

- Theorem {lit}`Source.dot_mem_of_tokens`: the floating point numerals of a text have a point.
- Theorem {lit}`Numeral.readFloat?_ne_nan`: a text with a point is read as a number.
-/

namespace Rune

/-! ## Rounding -/

namespace Binary64

theorem nearest_ne_nan (negative : Bool) (num den : Nat) : nearest negative num den ≠ .nan := by
  unfold nearest
  split
  · exact nofun
  dsimp only
  split <;> split <;> exact nofun

theorem ofDecimal_ne_nan (negative : Bool) (digits : Nat) (exponent : Int) :
    ofDecimal negative digits exponent ≠ .nan := by
  unfold ofDecimal
  dsimp only
  split
  · exact nofun
  split
  · exact nofun
  · exact nearest_ne_nan negative _ _

end Binary64

/-! ## Reading -/

namespace Numeral

theorem mem_dropWhile {c : Char} {chars : List Char} {p : Char → Bool} (h : c ∈ chars)
    (hc : p c = false) : c ∈ chars.dropWhile p := by
  rw [← chars.takeWhile_append_dropWhile (p := p), List.mem_append] at h
  refine h.resolve_left fun htake => ?_
  exact Bool.false_ne_true (hc.symm.trans (List.mem_takeWhile_imp htake))

/-- What is neither padding nor a sign is left after both are taken off. -/
theorem mem_readSign_unpad {c : Char} {chars : List Char} (h : c ∈ chars)
    (hpadding : isPadding c = false) (hminus : c ≠ '-') (hplus : c ≠ '+') :
    c ∈ (readSign (unpad chars)).2 := by
  have hleft : c ∈ (chars.dropWhile isPadding).reverse :=
    List.mem_reverse.2 (mem_dropWhile h hpadding)
  have hunpad : c ∈ unpad chars := List.mem_reverse.2 (mem_dropWhile hleft hpadding)
  unfold readSign
  split
  · rename_i hsign
    rw [hsign] at hunpad
    exact (List.mem_cons.1 hunpad).resolve_left hminus
  · rename_i hsign
    rw [hsign] at hunpad
    exact (List.mem_cons.1 hunpad).resolve_left hplus
  · exact hunpad

/-- The word for what is no number has no point. -/
theorem ofWord?_ne_nan {word : List Char} (h : '.' ∈ word) (negative : Bool) :
    ofWord? negative word ≠ some .nan := by
  unfold ofWord?
  dsimp only
  split
  · exact nofun
  split
  · rename_i hlower
    have hdot : '.'.toLower ∈ "nan".toList := hlower ▸ List.mem_map_of_mem h
    exact absurd hdot (by decide)
  · exact nofun

/-- A text with a point is read as a number, if it is read. -/
theorem readFloat?_ne_nan {text : String} (h : '.' ∈ text.toList) :
    readFloat? text ≠ some .nan := by
  have hword := mem_readSign_unpad h (by decide +kernel) (by decide) (by decide)
  unfold readFloat?
  dsimp only
  split
  · rename_i x hx
    rintro ⟨⟩
    exact ofWord?_ne_nan hword _ hx
  split
  · exact nofun
  split
  · intro hnan
    exact Binary64.ofDecimal_ne_nan _ _ _ (Option.some.inj hnan)
  · exact nofun

end Numeral

/-! ## Scanning -/

/-- A point that digits were read with is among them, unless it was met before. -/
theorem dot_mem_of_readDigits {sawDot : Bool} {rest : List Char}
    (h : (readDigits sawDot rest).2 = true) :
    sawDot = true ∨ '.' ∈ rest.take (readDigits sawDot rest).1 := by
  induction rest generalizing sawDot with
  | nil => exact .inl h
  | cons c rest ih =>
    unfold readDigits at h ⊢
    by_cases hdigit : Unicode.isDigit c
    · rw [if_pos hdigit] at h ⊢
      exact (ih h).imp_right fun hdot => by simp [hdot]
    · rw [if_neg hdigit] at h ⊢
      by_cases hpoint : (c = '.' && !sawDot && rest.head?.any Unicode.isDigit) = true
      · rw [if_pos hpoint]
        have hc : c = '.' := by
          simp only [Bool.and_eq_true, decide_eq_true_eq] at hpoint
          exact hpoint.1.1
        exact .inr (by simp [hc])
      · rw [if_neg hpoint] at h
        exact .inl h

/-- The floating point numerals of a text have a point. -/
theorem Source.dot_mem_of_tokens {source : Source} {tokens : List Token}
    (h : source.tokens = .ok tokens) {token : Token} (hmem : token ∈ tokens)
    (hkind : token.kind = .float) : '.' ∈ token.text.toList := by
  obtain ⟨here, first, rest, lexeme, hrest, hscan, rfl⟩ :=
    (Lexer.gives_of_tokens h).exists_scan hmem (by rw [hkind]; exact nofun)
  obtain ⟨found, hbegins⟩ := begins_of_scan hscan
  have hfound := hbegins.scan_eq
  rw [hfound] at hscan ⊢
  obtain ⟨hdot, rfl⟩ : (readDigits false rest).2 = true ∧ found = scanNumber first rest := by
    rcases hbegins.kind_cases hscan with ⟨hstring, -⟩ | ⟨hword, -⟩ | ⟨-, hnumber⟩ | hother
    · exact absurd (hkind.symm.trans hstring) (by decide)
    · exact absurd (hkind.symm.trans hword) (by decide)
    · exact hnumber
    · exact absurd hkind hother.2.2
  have hbeyond : (scanNumber first rest).beyond = (readDigits false rest).1 := by
    unfold scanNumber at hscan ⊢
    dsimp only at hscan ⊢
    split at hscan
    · cases hscan
    · rename_i hends
      rw [if_neg hends]
  have hmem := (dot_mem_of_readDigits hdot).resolve_left Bool.false_ne_true
  simp [Lexer.tokenOf, hrest, Scan.consumed, hbeyond, hmem]

end Rune
