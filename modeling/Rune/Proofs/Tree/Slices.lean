import Rune.Proofs.Token.Slices
import Rune.Proofs.Tree.Concatenation
import Rune.Proofs.Tree.Nesting

/-!
# Rune - ranges are exact

The range of a node holds the ranges of its parts, in their order.  The range of a statement
holds everything that the statement was read from, and nothing else: the slice of the text
in that range is a text of its own, which is read as that one statement.

Main results:

- Theorem {lit}`Source.parse_slice`: what the slice of a statement is read as.
- Theorem {lit}`Source.parse_exact`: the ranges of a document that was read.
-/

namespace Rune

/-- Each of some statements is spelled by tokens of its own. -/
theorem Sentence.AreStatements.exists_word {word : List Token} {document : Document}
    (h : AreStatements word document) {statement : Statement} (hmem : statement ∈ document) :
    ∃ before word' behind, word = before ++ (word' ++ behind) ∧ IsStatement word' statement := by
  induction h with
  | nil => cases hmem
  | @cons word rest other document hother _ ih =>
    rcases List.mem_cons.mp hmem with rfl | hmem
    · exact ⟨[], word, rest, rfl, hother⟩
    · obtain ⟨before, word', behind, rfl, hstatement⟩ := ih hmem
      exact ⟨word ++ before, word', behind, by rw [List.append_assoc], hstatement⟩

/-- Some tokens of a text are tokens in order with any end behind them, and a line break
before the first of them does not matter. -/
theorem AreTokens.of_sublist {word others : List Token} {first finish finish' : Token}
    (h : AreTokens 0 word finish) (hsub : (first :: others).Sublist word) (lineBreak : Bool)
    (hfinish : finish'.kind = .eof) :
    AreTokens 0 ({ first with lineBreakBefore := lineBreak } :: others) finish' where
  kind_finish := hfinish
  kind_ne := by
    have hkinds : ∀ token ∈ first :: others, token.kind ≠ .eof := fun token htoken =>
      h.kind_ne token (hsub.subset htoken)
    rw [List.forall_mem_cons] at hkinds ⊢
    exact hkinds
  start_le _ _ := Nat.zero_le _
  inOrder := by
    have horder := h.inOrder.sublist hsub
    rw [List.pairwise_cons] at horder ⊢
    exact horder

namespace Source

variable {text : String} {path : Option String} {statement : Statement} {document : Document}

/-- The slice of a text that the tokens of a statement reach over is read as that statement,
nearer to the beginning of the text. -/
theorem parse_slice {before word behind : List Token} {finish : Token}
    (htokens : (ofText text path).tokens = .ok (before ++ (word ++ (behind ++ [finish]))))
    (hreadable : ∀ token ∈ word, token.Readable) (hword : Sentence.IsStatement word statement)
    (path' : Option String) :
    ∃ statement', (ofText (sliceOf text statement.range) path').parse = .ok [statement'] ∧
      statement = statement'.relocate (TextRange.shift statement.range.start) := by
  obtain ⟨first, others, rfl, hrange⟩ := hword.range_eq
  have hsub : (first :: others).Sublist (before ++ (first :: others ++ behind)) :=
    (List.sublist_append_left _ behind).trans (List.sublist_append_right before _)
  have hall : AreTokens 0 (before ++ (first :: others ++ behind)) finish := by
    obtain ⟨words, end', hwords, hall⟩ := areTokens_of_tokens htokens
    rw [← List.append_assoc (first :: others), ← List.append_assoc] at hwords
    obtain ⟨rfl, hend⟩ := List.append_inj' hwords rfl
    rwa [List.singleton_inj.mp hend]
  have horder : InOrder (first :: others) := by
    rw [← List.append_assoc (first :: others), ← List.append_assoc] at htokens
    exact (inOrder_of_tokens htokens).sublist (hsub.trans (List.sublist_append_left _ _))
  obtain ⟨last, hlast, hstart, hstop, _⟩ := Sentence.rangeFrom_of_inOrder horder
  rw [← hrange] at hstart hstop
  obtain ⟨word', finish', hfinish', hlike, htokens'⟩ :=
    tokens_slice htokens (by simp) rfl hlast hstart hstop path'
  -- Behind the tokens of the statement alone there is an end, which may stand anywhere.
  let p := shifting (ofText (sliceOf text statement.range) path') (ofText text path)
    statement.range.start
  let finish₀ := { finish' with range := finish'.range.shift statement.range.start }
  have hword₀ : AreTokens 0 ({ first with lineBreakBefore := false } :: others) finish₀ :=
    hall.of_sublist hsub false hfinish'
  have hreadable₀ : ∀ token ∈ { first with lineBreakBefore := false } :: others,
      token.Readable := by
    rw [List.forall_mem_cons] at hreadable ⊢
    exact hreadable
  have hstatements : Sentence.AreStatements
      ({ first with lineBreakBefore := false } :: others) [statement] := by
    simpa using Sentence.AreStatements.cons (hword.withLineBreak false) .nil
  obtain ⟨after, hread⟩ := @AreTokens.document_complete (ofText text path) _ _ _ hword₀ hreadable₀
    hstatements
  have hmatching := p.document_matching hlike
    (show p.Tokens finish' finish₀ from ⟨rfl, rfl, rfl, rfl, rfl, rfl, rfl, rfl⟩)
  change Matching _ _ _ _ (Grammar.document
    ⟨ofText text path, [], { first with lineBreakBefore := false } :: others, finish₀⟩) at hmatching
  rw [hread] at hmatching
  generalize hread' : Grammar.document ⟨p.source, [], word', finish'⟩ = result at hmatching
  cases hmatching with
  | @ok document' _ after' _ hdocument _ =>
    have hsame : [statement] = document'.map
        (Statement.relocate (TextRange.shift statement.range.start)) := hdocument.eq_relocate
    obtain ⟨statement', rfl, hstatement⟩ := List.map_eq_singleton_iff.mp hsame.symm
    exact ⟨statement', (parse_eq_ok htokens' hfinish').mpr ⟨after', hread'⟩, hstatement.symm⟩

/-- The ranges of a document are exact.  The parts of every node lie inside the node, one
behind the other, and the statements so inside the text; and the slice of the text in the
range of a statement is a text that is read as this statement alone, with all its ranges
nearer to the beginning by the start of the slice. -/
theorem parse_exact (h : (ofText text path).parse = .ok document) :
    document.Nested ⟨0, text.length, Nat.zero_le _⟩ ∧
      ∀ statement ∈ document, ∀ path', ∃ statement',
        (ofText (sliceOf text statement.range) path').parse = .ok [statement'] ∧
          statement = statement'.relocate (TextRange.shift statement.range.start) := by
  obtain ⟨tokens, htokens, hreadable, word, finish, rfl, _, hword⟩ :=
    spelled_of_parse h
  have horder : InOrder word :=
    (List.pairwise_append.mp (inOrder_of_tokens htokens)).1
  constructor
  · obtain ⟨hnested, hframes⟩ := hword.nested horder
    refine ⟨hnested, fun range hrange => ⟨Nat.zero_le _, ?_⟩, hframes.inOrder⟩
    obtain ⟨_, _, b, hb, _, hstop⟩ := hframes.between range hrange
    have hinside := stop_le_of_tokens htokens b (List.mem_append_left _ hb)
    exact Nat.le_trans hstop (by
      simpa [ofText, LineIndex.ofText, LineIndex.ofChars, String.length_toList] using hinside)
  · intro statement hstatement path'
    obtain ⟨before, word', behind, rfl, hword'⟩ := hword.exists_word hstatement
    refine parse_slice (by simpa using htokens) (fun token htoken => ?_) hword' path'
    exact hreadable token (by simp [htoken])

/-- The slices of the two bindings of a text, without the comments around them, and what they
are read as. -/
theorem parse_exact_choices : ∃ document : Document,
    (ofText "# a\nx if (a) \"$env.A\" else b # c\ny [1, w]\n").parse = .ok document ∧
      document.map (fun statement => sliceOf
        "# a\nx if (a) \"$env.A\" else b # c\ny [1, w]\n" statement.range) =
        ["x if (a) \"$env.A\" else b", "y [1, w]"] ∧
      document.Nested ⟨0, 42, by decide⟩ ∧
      ∀ statement ∈ document, ∃ statement', (ofText (sliceOf
          "# a\nx if (a) \"$env.A\" else b # c\ny [1, w]\n" statement.range)).parse =
            .ok [statement'] ∧
        statement = statement'.relocate (TextRange.shift statement.range.start) := by
  have hslices : (ofText
      "# a\nx if (a) \"$env.A\" else b # c\ny [1, w]\n").parse.toOption.map
        (List.map fun statement => sliceOf
          "# a\nx if (a) \"$env.A\" else b # c\ny [1, w]\n" statement.range) =
      some ["x if (a) \"$env.A\" else b", "y [1, w]"] := by
    decide +kernel
  cases h : (ofText "# a\nx if (a) \"$env.A\" else b # c\ny [1, w]\n").parse with
  | error => simp [h, Except.toOption] at hslices
  | ok document =>
    rw [h] at hslices
    obtain ⟨hnested, hexact⟩ := parse_exact h
    exact ⟨document, rfl, Option.some.inj hslices, hnested,
      fun statement hmem => hexact statement hmem none⟩

end Source

end Rune
