import Rune.Proofs.Tree.Parallel

/-!
# Rune - documents put together

Two texts that are put together with a line feed between them are read as the one
document and then the other.  No construct at the end of the first text takes a token of
the second: a statement begins with a token that continues nothing, and the line feed
ends a comment, a word and a number alike.

Main results:

- Theorem {lit}`Sentence.AreStatements.append`: statements behind statements.
- Theorem {lit}`Pairing.isDocument_of_parse`: what tokens of one source spell, the
  tokens that correspond to them spell in another.
- Theorem {lit}`Source.parse_append`: parsing texts that are put together.
-/

namespace Rune

/-! ## Words put together -/

namespace Sentence

variable {first : Token} {word word' : List Token} {document document' : Document}

/-- Statements behind statements. -/
theorem AreStatements.append (h : AreStatements word document)
    (h' : AreStatements word' document') :
    AreStatements (word ++ word') (document ++ document') := by
  induction h with
  | nil => exact h'
  | cons hstatement _ ih =>
    rw [List.append_assoc]
    exact .cons hstatement ih

/-- The first token as it is after a line break. -/
def broken (first : Token) : Token := { first with lineBreakBefore := true }

section LineBreak

variable (lineBreak : Bool)

theorem IsBinding.withLineBreak {binding : String × ValueExpr × TextRange}
    (h : IsBinding (first :: word) binding) :
    IsBinding ({ first with lineBreakBefore := lineBreak } :: word) binding := by
  cases h with
  | plain hname hline hvalue =>
    exact @IsBinding.plain { first with lineBreakBefore := lineBreak } _ _ _ hname hline hvalue
  | assigned hname hequal hline hvalue =>
    exact @IsBinding.assigned { first with lineBreakBefore := lineBreak } _ _ _ _ hname hequal
      hline hvalue

theorem IsBlock.withLineBreak {block : String × List Member × TextRange}
    (h : IsBlock (first :: word) block) :
    IsBlock ({ first with lineBreakBefore := lineBreak } :: word) block := by
  cases h with
  | mk hname hcolon hchildren hclosing =>
    exact @IsBlock.mk { first with lineBreakBefore := lineBreak } _ _ _ _ hname hcolon hchildren
      hclosing

/-- Whether a line break lies before a statement is no part of it. -/
theorem IsStatement.withLineBreak {statement : Statement}
    (h : IsStatement (first :: word) statement) :
    IsStatement ({ first with lineBreakBefore := lineBreak } :: word) statement := by
  cases h with
  | metadata hmarker hkey hline hvalue =>
    exact @IsStatement.metadata { first with lineBreakBefore := lineBreak } _ _ _ _ hmarker hkey
      hline hvalue
  | gather hkeyword hpath =>
    exact @IsStatement.gather { first with lineBreakBefore := lineBreak } _ hkeyword hpath
  | gatherAs hkeyword hpath has hname =>
    exact @IsStatement.gatherAs { first with lineBreakBefore := lineBreak } _ _ _ hkeyword hpath
      has hname
  | block hblock => exact .block (hblock.withLineBreak lineBreak)
  | global hbinding => exact .global (hbinding.withLineBreak lineBreak)

end LineBreak

/-- A line break before a document is no part of it. -/
theorem AreStatements.broken (h : AreStatements (first :: word) document) :
    AreStatements (Sentence.broken first :: word) document := by
  generalize htokens : first :: word = tokens at h
  cases h with
  | nil => cases htokens
  | @cons left right _ _ hstatement hrest =>
    obtain ⟨token, others, rfl, -⟩ := hstatement.starts
    obtain ⟨rfl, rfl⟩ := List.cons.inj htokens
    exact .cons (hstatement.withLineBreak true) hrest

/-- A line break before a document is no part of it, also if there are no statements. -/
theorem IsDocument.broken (h : IsDocument (first :: word) document) :
    IsDocument (Sentence.broken first :: word) document := by
  obtain ⟨words, finish, heq, hfinish, hwords⟩ := h
  cases words with
  | nil =>
    obtain ⟨rfl, rfl⟩ := List.cons.inj heq
    exact ⟨[], Sentence.broken first, rfl, hfinish, hwords⟩
  | cons token others =>
    obtain ⟨rfl, rfl⟩ := List.cons.inj heq
    exact ⟨Sentence.broken first :: others, finish, rfl, hfinish, hwords.broken⟩

/-- A document behind statements. -/
theorem IsDocument.append (h : AreStatements word document) (h' : IsDocument word' document') :
    IsDocument (word ++ word') (document ++ document') := by
  obtain ⟨words, finish, rfl, hfinish, hwords⟩ := h'
  exact ⟨word ++ words, finish, by rw [List.append_assoc], hfinish, h.append hwords⟩

end Sentence

/-! ## Words of sources that correspond -/

namespace Pairing

variable {p : Pairing} {word word' : List Token} {finish finish' : Token}

/-- Tokens that correspond to tokens in order are in order. -/
theorem areTokens (h : AreTokens 0 word finish) (hword : List.Forall₂ p.Tokens word word')
    (hfinish : p.Tokens finish finish') : AreTokens 0 word' finish' where
  kind_finish := hfinish.kind_eq.trans h.kind_finish
  kind_ne := hword.forall_mem (fun _ _ hlike hne => hlike.kind_eq ▸ hne) h.kind_ne
  start_le _ _ := Nat.zero_le _
  inOrder := hword.pairwise (fun hab hcd hlt => (p.start_lt_iff hab.range hcd.range).mp hlt)
    h.inOrder

/-- What the tokens of a source spell, the tokens that correspond to them spell, at the
places that correspond. -/
theorem isDocument_of_parse {document : Document} {tokens tokens' : List Token}
    (hparse : p.source.parse = .ok document) (htokens : p.source.tokens = .ok tokens)
    (hlike : List.Forall₂ p.Tokens tokens tokens') :
    ∃ document', Document.Like p.like document document' ∧
      (∀ token ∈ tokens', token.Readable) ∧ Sentence.IsDocument tokens' document' := by
  obtain ⟨word, finish, rfl, hword⟩ := Source.areTokens_of_tokens htokens
  obtain ⟨word', finish', rfl, hwords, hfinish⟩ := hlike.concat_left
  obtain ⟨after, hread⟩ := (Source.parse_eq_ok htokens hword.kind_finish).1 hparse
  have hmatching := p.document_matching hwords hfinish
  rw [hread] at hmatching
  generalize hread' : Grammar.document ⟨p.source', [], word', finish'⟩ = result at hmatching
  cases hmatching with
  | ok hdocument _ =>
    have hword' := areTokens hword hwords hfinish
    obtain ⟨hreadable, hstatements⟩ := hword'.document_sound hread'
    have hend : finish'.Readable :=
      ⟨.text finish'.value, by simp [Grammar.scalarOf, hword'.kind_finish]⟩
    refine ⟨_, hdocument, ?_, word', finish', rfl, hword'.kind_finish, hstatements⟩
    simpa [or_imp, forall_and] using ⟨hreadable, hend⟩

end Pairing

/-! ## Texts put together -/

namespace Source

variable {text text' : String} {document document' : Document} {path path' : Option String}

/-- A text stays where it is. -/
def staying (source source' : Source) : Pairing where
  source := source
  source' := source'
  tokens a b := b = a
  places a b := b = a
  places_of_tokens h := h
  start_lt_iff := by rintro _ _ _ _ rfl rfl; rfl
  cover := by rintro _ _ _ _ rfl rfl; rfl

/-- A text begins `n` characters further on. -/
def shifting (source source' : Source) (n : Nat) : Pairing where
  source := source
  source' := source'
  tokens a b := b = a.shift n
  places a b := b = a.shift n
  places_of_tokens h := h
  start_lt_iff := by rintro a _ c _ rfl rfl; simp [TextRange.shift]
  cover := by
    rintro a _ c _ rfl rfl
    ext <;> simp [TextRange.cover, TextRange.shift, Nat.add_min_add_right, Nat.add_max_add_right]

/-- Texts that are put together with a line feed between them are read as the one document
and then the other, further on by the length of the first text and the line feed. -/
theorem parse_append (h : (ofText text path).parse = .ok document)
    (h' : (ofText text' path').parse = .ok document') (path'' : Option String) :
    (ofText (text ++ "\n" ++ text') path'').parse =
      .ok (document ++ document'.map (Statement.relocate (TextRange.shift (text.length + 1)))) := by
  obtain ⟨tokens, htokens⟩ := exists_tokens_of_parse h
  obtain ⟨tokens', htokens'⟩ := exists_tokens_of_parse h'
  obtain ⟨word, finish, rfl, -⟩ := areTokens_of_tokens htokens
  obtain ⟨before, token, others, hbefore, hbehind, hjoined⟩ :=
    tokens_append htokens htokens' path''
  -- The tokens of the first text keep their places, the end apart, which is not among them.
  obtain ⟨document₁, hlike₁, hreadable₁, word₁, finish₁, heq, -, hword₁⟩ :=
    (staying _ (ofText (text ++ "\n" ++ text') path'')).isDocument_of_parse h htokens
      (List.rel_append hbefore (.cons ⟨rfl, rfl, rfl, rfl, rfl, rfl, rfl, rfl⟩ .nil) :
        List.Forall₂ _ _ (before ++ [finish]))
  obtain ⟨rfl, -⟩ := List.append_inj' heq rfl
  obtain rfl : document₁ = document := hlike₁.eq
  -- Those of the second text move, and the first of them stands behind a line break.
  obtain ⟨document₂, hlike₂, hreadable₂, hdocument₂⟩ :=
    (shifting _ (ofText (text ++ "\n" ++ text') path'') (text.length + 1)).isDocument_of_parse
      h' htokens' hbehind
  rw [← hlike₂.eq_relocate]
  refine (hdocument₂.broken.append hword₁).parse_eq_ok hjoined fun token' htoken' => ?_
  obtain hmem | hmem := List.mem_append.mp htoken'
  · exact hreadable₁ _ (List.mem_append_left _ hmem)
  · obtain rfl | hmem := List.mem_cons.mp hmem
    · exact hreadable₂ token List.mem_cons_self
    · exact hreadable₂ _ (List.mem_cons_of_mem _ hmem)

/-- A choice without a second value and a comment without a line feed end the first text;
nothing of the second one is taken into them. -/
theorem parse_append_choice : ∃ document document',
    (ofText "x if a 1 # or else").parse = .ok document ∧ document.globalNames = ["x"] ∧
      (ofText "gather \"b\"\ny 2").parse = .ok document' ∧ document'.globalNames = ["y"] ∧
      (ofText "x if a 1 # or else\ngather \"b\"\ny 2").parse =
        .ok (document ++ document'.map (Statement.relocate (TextRange.shift 19))) := by
  have hfirst : (ofText "x if a 1 # or else").parse.toOption.map Document.globalNames =
      some ["x"] := by decide +kernel
  have hsecond : (ofText "gather \"b\"\ny 2").parse.toOption.map Document.globalNames =
      some ["y"] := by decide +kernel
  cases h : (ofText "x if a 1 # or else").parse with
  | error => simp [h, Except.toOption] at hfirst
  | ok document =>
    cases h' : (ofText "gather \"b\"\ny 2").parse with
    | error => simp [h', Except.toOption] at hsecond
    | ok document' =>
      refine ⟨document, document', rfl, ?_, rfl, ?_, parse_append h h' none⟩
      · simpa [h, Except.toOption] using hfirst
      · simpa [h', Except.toOption] using hsecond

end Source

end Rune
