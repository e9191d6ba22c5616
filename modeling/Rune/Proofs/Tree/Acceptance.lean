import Rune.Proofs.Tree.Completeness
import Rune.Proofs.Tree.Soundness

/-!
# Rune - what the parser accepts

The tokens of a source lie one after another, and only the last one is an end.  On such
tokens the grammar reads exactly the documents of the language: whatever it reads is spelled
by the tokens, and what the tokens spell is read.  A numeral is a token of the language
however it is written, but the parser wants a number for it, and not every numeral has one.

Main results:

- Theorem {lit}`Source.areTokens_of_tokens`: the order of the tokens of a source.
- Theorem {lit}`Source.parse_eq_ok_iff`: what the parser accepts, and the tree that it gives.
- Theorem {lit}`Sentence.IsDocument.unique`: tokens spell no two documents.
-/

namespace Rune

/-! ## The tokens of a source -/

/-- Tokens from a place on: they begin one after another, and the one that ends them is
the only end. -/
structure AreTokens (position : Nat) (word : List Token) (finish : Token) : Prop where
  kind_finish : finish.kind = .eof
  kind_ne : ∀ token ∈ word, token.kind ≠ .eof
  start_le : ∀ token ∈ word, position ≤ token.range.start
  inOrder : word.Pairwise fun a b => a.range.start < b.range.start

/-- A token begins at the place of the lexer or after it, and the next one begins behind
it. -/
theorem Lexer.start_of_next {lexer after : Lexer} {token : Token}
    (h : lexer.next = (.ok token, after)) (hkind : token.kind ≠ .eof) :
    lexer.position ≤ token.range.start ∧ token.range.start < after.position := by
  unfold next at h
  dsimp only at h
  split at h
  · cases h
    exact absurd rfl hkind
  · rename_i first rest _
    split at h <;> cases h
    have hpos := (scan first rest).consumed_pos
    simp only [tokenOf, TextRange.ofLength, advance, skipTrivia]
    omega

theorem Lexer.areTokens_of_tokens (lexer : Lexer) {tokens : List Token}
    (h : lexer.tokens = .ok tokens) :
    ∃ word finish, tokens = word ++ [finish] ∧ AreTokens lexer.position word finish := by
  fun_induction Lexer.tokens lexer generalizing tokens with
  | case1 => cases h
  | case2 lexer token after _ hkind =>
    cases h
    exact ⟨[], token, rfl, hkind, by simp, by simp, .nil⟩
  | case3 lexer token after hnext hkind _ rest hrest ih =>
    cases h
    obtain ⟨word, finish, rfl, hfinish, hne, hle, horder⟩ := ih hrest
    obtain ⟨hstart, hafter⟩ := start_of_next hnext hkind
    have hlt : ∀ other ∈ word, token.range.start < other.range.start := fun other hother =>
      Nat.lt_of_lt_of_le hafter (hle other hother)
    refine ⟨token :: word, finish, rfl, hfinish, ?_, ?_, .cons hlt horder⟩
    · simpa using ⟨hkind, hne⟩
    · simpa using ⟨hstart, fun other hother =>
        Nat.le_of_lt (Nat.lt_of_le_of_lt hstart (hlt other hother))⟩
  | case4 => cases h

/-- The tokens of a source begin one after another, and only the last one is an end. -/
theorem Source.areTokens_of_tokens {source : Source} {tokens : List Token}
    (h : source.tokens = .ok tokens) :
    ∃ word finish, tokens = word ++ [finish] ∧ AreTokens 0 word finish :=
  Lexer.areTokens_of_tokens _ h

/-! ## What the parser reads -/

section

variable {source : Source} {word : List Token} {finish : Token} {document : Document}
  {failure : Failure}

/-- A source without tokens is not parsed. -/
theorem Source.parse_of_tokens_error (htokens : source.tokens = .error failure) :
    source.parse = .error failure := by
  rw [parse, htokens]
  rfl

/-- A source that is parsed has tokens. -/
theorem Source.exists_tokens_of_parse (h : source.parse = .ok document) :
    ∃ tokens, source.tokens = .ok tokens := by
  cases htokens : source.tokens with
  | error failure => cases h.symm.trans (parse_of_tokens_error htokens)
  | ok tokens => exact ⟨tokens, rfl⟩

/-- A source is parsed by reading its tokens from the first one on. -/
theorem Source.parse_of_tokens (htokens : source.tokens = .ok (word ++ [finish]))
    (hfinish : finish.kind = .eof) :
    source.parse = match Grammar.document ⟨source, [], word, finish⟩ with
      | .ok document _ => .ok document
      | .error failure _ => .error failure := by
  have hcursor : Cursor.ofTokens source (word ++ [finish]) = .ok ⟨source, [], word, finish⟩ := by
    simp [Cursor.ofTokens, hfinish]
  simp only [parse, htokens, hcursor, bind, Except.bind]
  cases Grammar.document ⟨source, [], word, finish⟩ <;> rfl

/-- The document that is parsed is the one that is read. -/
theorem Source.parse_eq_ok (htokens : source.tokens = .ok (word ++ [finish]))
    (hfinish : finish.kind = .eof) :
    source.parse = .ok document ↔
      ∃ after, Grammar.document ⟨source, [], word, finish⟩ = .ok document after := by
  rw [parse_of_tokens htokens hfinish]
  cases Grammar.document ⟨source, [], word, finish⟩ <;> simp

/-- Parsing fails as reading does. -/
theorem Source.parse_eq_error (htokens : source.tokens = .ok (word ++ [finish]))
    (hfinish : finish.kind = .eof) :
    source.parse = .error failure ↔
      ∃ after, Grammar.document ⟨source, [], word, finish⟩ = .error failure after := by
  rw [parse_of_tokens htokens hfinish]
  cases Grammar.document ⟨source, [], word, finish⟩ <;> simp

/-- A document that is read is spelled by the tokens before the end, and they are readable. -/
theorem AreTokens.document_sound (h : AreTokens 0 word finish) {after : Cursor}
    (hread : Grammar.document ⟨source, [], word, finish⟩ = .ok document after) :
    (∀ token ∈ word, token.Readable) ∧ Sentence.AreStatements word document := by
  obtain ⟨taken, htakes, heof, hword⟩ :=
    Grammar.statementsWith_sound _ _ _ h.kind_finish _ _ hread
  have hahead : word = taken ++ after.ahead := htakes.ahead
  -- No end lies among the tokens before the last one, so nothing is left ahead.
  have hnone : after.ahead = [] := by
    cases hrest : after.ahead with
    | nil => rfl
    | cons token rest =>
      have hkind : after.kind = token.kind := by simp [Cursor.kind, Cursor.current, hrest]
      exact absurd (hkind ▸ heof) (h.kind_ne token (by simp [hahead, hrest]))
  obtain rfl : word = taken := by simpa [hnone] using hahead
  exact ⟨htakes.readable, hword⟩

/-- A document that readable tokens spell is read from them. -/
theorem AreTokens.document_complete (h : AreTokens 0 word finish)
    (hreadable : ∀ token ∈ word, token.Readable)
    (hword : Sentence.AreStatements word document) :
    ∃ after, Grammar.document ⟨source, [], word, finish⟩ = .ok document after := by
  have htakes : Takes ⟨source, [], word, finish⟩ word ⟨source, word.reverse, [], finish⟩ :=
    ⟨by simp, by simp, rfl, rfl, hreadable⟩
  have hfuel : word.length < 3 * word.length + 3 := by omega
  exact ⟨_, Grammar.statementsWith_complete hword hfuel htakes h.inOrder
    (Progress.start_isBefore _) h.kind_finish⟩

/-- A document that the readable tokens of a source spell is the one that is parsed. -/
theorem Sentence.IsDocument.parse_eq_ok {tokens : List Token} (h : IsDocument tokens document)
    (htokens : source.tokens = .ok tokens) (hreadable : ∀ token ∈ tokens, token.Readable) :
    source.parse = .ok document := by
  obtain ⟨word, finish, rfl, hfinish, hword⟩ := h
  obtain ⟨word', finish', heq, htokens'⟩ := Source.areTokens_of_tokens htokens
  obtain ⟨rfl, hlast⟩ := List.append_inj' heq rfl
  obtain rfl : finish = finish' := List.singleton_inj.1 hlast
  exact (Source.parse_eq_ok htokens hfinish).2 (htokens'.document_complete (fun token htoken =>
    hreadable token (List.mem_append_left _ htoken)) hword)

/-- The tokens of a source spell no two documents. -/
theorem Sentence.IsDocument.unique {document' : Document} {tokens : List Token}
    (h : IsDocument tokens document) (h' : IsDocument tokens document')
    (htokens : source.tokens = .ok tokens) (hreadable : ∀ token ∈ tokens, token.Readable) :
    document = document' :=
  Except.ok.inj ((h.parse_eq_ok htokens hreadable).symm.trans (h'.parse_eq_ok htokens hreadable))

end

/-- The document of a source is spelled by its tokens, and they are readable. -/
theorem Source.spelled_of_parse {source : Source} {document : Document}
    (h : source.parse = .ok document) :
    ∃ tokens, source.tokens = .ok tokens ∧ (∀ token ∈ tokens, token.Readable) ∧
      Sentence.IsDocument tokens document := by
  obtain ⟨tokens, htokens⟩ := exists_tokens_of_parse h
  obtain ⟨word, finish, rfl, hword⟩ := areTokens_of_tokens htokens
  obtain ⟨after, hread⟩ := (parse_eq_ok htokens hword.kind_finish).1 h
  obtain ⟨hreadable, hstatements⟩ := hword.document_sound hread
  have hfinish : finish.Readable :=
    ⟨.text finish.value, by simp [Grammar.scalarOf, hword.kind_finish]⟩
  refine ⟨_, htokens, ?_, word, finish, rfl, hword.kind_finish, hstatements⟩
  simpa [or_imp, forall_and] using ⟨hreadable, hfinish⟩

/-- The parser accepts exactly the tokens that spell a document, as long as each numeral
among them stands for a number; the tree is the one that they spell. -/
theorem Source.parse_eq_ok_iff (source : Source) (document : Document) :
    source.parse = .ok document ↔ ∃ tokens, source.tokens = .ok tokens ∧
      (∀ token ∈ tokens, token.Readable) ∧ Sentence.IsDocument tokens document := by
  constructor
  · exact spelled_of_parse
  · rintro ⟨tokens, htokens, hreadable, hdocument⟩
    exact hdocument.parse_eq_ok htokens hreadable

end Rune
