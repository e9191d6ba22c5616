import Rune.Proofs.Tree.Stepwise

/-!
# Rune - how parsing fails

Reading the tokens and the tree of a document fails with a complaint about a token, with
a complaint about the grammar, or with a fault, and in no other way.

Main results:

- Definition {lit}`Parse.Complains` says that a step of the grammar fails in no other way.
- Theorem {lit}`Source.isSyntactic_of_parse`: parsing a document fails in no other way.
-/

namespace Rune

/-- A failure is a complaint about a token, one about the grammar, or a fault. -/
def Failure.IsSyntactic : Failure → Prop
  | .lexical _ | .grammatical _ | .fault _ => True
  | _ => False

/-! ## Tokens -/

/-- Reading a token fails with a complaint about it. -/
theorem Lexer.isSyntactic_of_next {lexer : Lexer} {failure : Failure}
    (h : lexer.next.1 = .error failure) : failure.IsSyntactic := by
  unfold next at h
  dsimp only at h
  split at h
  · cases h
  · split at h
    · cases h
    · cases h
      trivial

/-- Reading the tokens of a source fails with a complaint about one of them. -/
theorem Source.isSyntactic_of_tokens {source : Source} {failure : Failure}
    (h : source.tokens = .error failure) : failure.IsSyntactic := by
  unfold tokens at h
  generalize Lexer.ofSource source = lexer at h
  fun_induction Lexer.tokens lexer with
  | case1 lexer other after hnext =>
    cases h
    exact Lexer.isSyntactic_of_next (by rw [hnext])
  | case2 => cases h
  | case3 => cases h
  | case4 lexer token after _ _ _ other hrest ih =>
    cases h
    exact ih hrest

/-! ## Steps of the grammar -/

namespace Parse

/-- A step of the grammar fails with a complaint or a fault, and in no other way. -/
def Complains {α : Type} (x : Parse α) : Prop :=
  ∀ cursor failure after, x cursor = .error failure after → failure.IsSyntactic

/-- The grammar complains, since all that it is made of does. -/
theorem Stepwise.complains {α : Type} {x : Parse α} (h : Stepwise x) : Complains x := by
  intro cursor failure after hrun
  rcases h.failure_cases hrun with ⟨d, rfl⟩ | ⟨fault, rfl⟩ <;> trivial

end Parse

/-! ## Documents -/

/-- Parsing a document fails with a complaint about a token or about the grammar, or
with a fault. -/
theorem Source.isSyntactic_of_parse {source : Source} {failure : Failure}
    (h : source.parse = .error failure) : failure.IsSyntactic := by
  simp only [parse, bind, Except.bind] at h
  split at h
  · rename_i htokens
    cases h
    exact isSyntactic_of_tokens htokens
  · split at h
    · rename_i hcursor
      cases h
      unfold Cursor.ofTokens at hcursor
      split at hcursor
      · cases hcursor
        trivial
      · split at hcursor <;> cases hcursor
        trivial
    · split at h
      · cases h
      · rename_i hdocument
        cases h
        exact (Grammar.statementsWith_stepwise _ _).complains _ _ _ hdocument

end Rune
