import Rune.Proofs.Failure
import Rune.Proofs.Tree.Parallel
import Rune.Proofs.Tree.Progress

/-!
# Rune - comments and spacing carry no meaning

Of what stands between two tokens only one thing is read: whether there is a line break.
Writing the tokens of a text again, each behind one line feed or one space, gives the same
tokens at other places, and so the same document at other places or the same complaint
about another place.

Main results:

- Theorem {lit}`Source.parse_respaced`: the tokens of a text, written again, are lexed and
  parsed as before.
-/

namespace Rune

/-- A numeral that stands for no number is told from a loop that stands still. -/
theorem Grammar.scalarOf_ne_stalled (token : Token) (found : String) (range : TextRange) :
    scalarOf token ≠ .error (.stalled found range) := by
  have hint : Numeral.readInt token.text ≠ .error (.stalled found range) := by
    unfold Numeral.readInt
    dsimp only
    split
    · exact nofun
    · split <;> exact nofun
  have hfloat : Numeral.readFloat token.text ≠ .error (.stalled found range) := by
    unfold Numeral.readFloat
    split <;> exact nofun
  unfold scalarOf
  split
  · cases hread : Numeral.readInt token.text with
    | ok => exact nofun
    | error fault => exact fun h => hint (by cases h; exact hread)
  · cases hread : Numeral.readFloat token.text with
    | ok => exact nofun
    | error fault => exact fun h => hfloat (by cases h; exact hread)
  all_goals exact nofun

namespace Source

variable {tokens tokens' : List Token}

/-- Two tokens of one text stand in the order of the tokens that correspond to them. -/
theorem start_lt_iff_of_mem_zip (h : tokens.Pairwise fun a b => a.range.start < b.range.start)
    (h' : tokens'.Pairwise fun a b => a.range.start < b.range.start) {a b : Token × Token}
    (ha : a ∈ tokens.zip tokens') (hb : b ∈ tokens.zip tokens') :
    a.1.range.start < b.1.range.start ↔ a.2.range.start < b.2.range.start := by
  have hzip : (tokens.zip tokens').Pairwise fun a b =>
      a.1.range.start < b.1.range.start ∧ a.2.range.start < b.2.range.start := by
    rw [List.pairwise_iff_getElem] at h h' ⊢
    intro i j hi hj hij
    simp only [List.length_zip, Nat.lt_min] at hi hj
    simp only [List.getElem_zip]
    exact ⟨h i j hi.1 hj.1 hij, h' i j hi.2 hj.2 hij⟩
  obtain ⟨i, hi, rfl⟩ := List.getElem_of_mem ha
  obtain ⟨j, hj, rfl⟩ := List.getElem_of_mem hb
  rw [List.pairwise_iff_getElem] at hzip
  rcases Nat.lt_trichotomy i j with hlt | rfl | hgt
  · exact iff_of_true (hzip i j hi hj hlt).1 (hzip i j hi hj hlt).2
  · exact iff_of_false (Nat.lt_irrefl _) (Nat.lt_irrefl _)
  · exact iff_of_false (Nat.lt_asymm (hzip j i hj hi hgt).1) (Nat.lt_asymm (hzip j i hj hi hgt).2)

/-- The tokens of two sources correspond one by one. -/
def matching {source source' : Source} (h : source.tokens = .ok tokens)
    (h' : source'.tokens = .ok tokens') : Pairing where
  source := source
  source' := source'
  tokens a b := ∃ pair ∈ tokens.zip tokens', pair.1.range = a ∧ pair.2.range = b
  places _ _ := True
  places_of_tokens _ := trivial
  start_lt_iff := by
    rintro _ _ _ _ ⟨a, ha, rfl, rfl⟩ ⟨b, hb, rfl, rfl⟩
    exact start_lt_iff_of_mem_zip (pairwise_of_tokens h) (pairwise_of_tokens h') ha hb
  cover _ _ := trivial

/-- The tokens of a text, each written behind one line feed or space as there was a line
break before it or not, are the same tokens at other places.  They are parsed to the same
document at other places, or to a failure of the same kind and in the same words. -/
theorem parse_respaced {source : Source} (h : source.tokens = .ok tokens) (path : Option String) :
    ∃ tokens', (ofText (respaced tokens) path).tokens = .ok tokens' ∧
      List.Forall₂ (Token.Like fun _ _ => True) tokens tokens' ∧
      ((∃ document document', source.parse = .ok document ∧
          (ofText (respaced tokens) path).parse = .ok document' ∧
          Document.Like (.placed fun _ _ => True) document document') ∨
        ∃ failure failure', source.parse = .error failure ∧
          (ofText (respaced tokens) path).parse = .error failure' ∧
          failure.Alike Diagnostic.SameWords failure') := by
  obtain ⟨tokens', hlike, htokens'⟩ := tokens_respaced h path
  refine ⟨tokens', htokens', hlike, ?_⟩
  have hpaired : List.Forall₂ (matching h htokens').Tokens tokens tokens' := by
    rw [List.forall₂_iff_zip] at hlike ⊢
    exact ⟨hlike.1, fun hmem => { hlike.2 hmem with range := ⟨_, hmem, rfl, rfl⟩ }⟩
  refine ((matching h htokens').parse_cases h htokens' hpaired).imp_right ?_
  rintro ⟨failure, failure', hfailure, hfailure', hsame⟩
  refine ⟨failure, failure', hfailure, hfailure', ?_⟩
  cases hsame with
  | grammatical complaint _ => exact .grammatical ⟨rfl, rfl⟩
  | fault fault => exact .fault fault
  | stalled found range range' =>
    -- Every loop of the grammar takes a token, so none of them stands still.
    obtain hplaced | ⟨_, _, habout⟩ := isAbout_of_parse hfailure
    · cases hplaced
    · obtain hplaced | ⟨token, _, _, hscalar, hfault⟩ := habout
      · cases hplaced
      · cases hfault
        exact absurd hscalar (Grammar.scalarOf_ne_stalled token found range)

/-- A comment, an empty line and a second space go; the line break stays. -/
theorem parse_respaced_comment : ∃ tokens tokens',
    (ofText "x  1 # one\n\ny -2").tokens = .ok tokens ∧ respaced tokens = " x 1\ny -2 " ∧
      (ofText " x 1\ny -2 ").tokens = .ok tokens' ∧
      List.Forall₂ (Token.Like fun _ _ => True) tokens tokens' ∧
      ((∃ document document', (ofText "x  1 # one\n\ny -2").parse = .ok document ∧
          (ofText " x 1\ny -2 ").parse = .ok document' ∧
          Document.Like (.placed fun _ _ => True) document document') ∨
        ∃ failure failure', (ofText "x  1 # one\n\ny -2").parse = .error failure ∧
          (ofText " x 1\ny -2 ").parse = .error failure' ∧
          failure.Alike Diagnostic.SameWords failure') := by
  have hrun : (ofText "x  1 # one\n\ny -2").tokens.toOption.map respaced =
      some " x 1\ny -2 " := by decide +kernel
  cases h : (ofText "x  1 # one\n\ny -2").tokens with
  | error => simp [h, Except.toOption] at hrun
  | ok tokens =>
    have hrespaced : respaced tokens = " x 1\ny -2 " := by simpa [h, Except.toOption] using hrun
    obtain ⟨tokens', hagain⟩ := parse_respaced h none
    rw [hrespaced] at hagain
    exact ⟨tokens, tokens', rfl, hrespaced, hagain⟩

end Source

end Rune
