import Rune.Proofs.Token.Coverage

/-!
# Rune - tokens of a slice

A text may be cut out of another one: from the first character of a token to the last
character of a later one.  What stands outside the slice is not missed.  A token depends on
its own characters, and the end of the slice goes on with none; the trivia between two
tokens lie inside the slice with them.

Main results:

- Relation {lit}`Lexer.Passes` says that a lexer gives some tokens and stands behind them.
- Theorem {lit}`Lexer.Gives.inOrder`: every token ends before the next one begins.
- Theorem {lit}`Source.tokens_slice`: the tokens of a slice are those that it was cut from,
  nearer to the beginning of the text.
-/

namespace Rune

/-! ## The end of a slice -/

/-- Trivia before a token end where they ended, also if the text behind the token is cut
off. -/
theorem Trivia.skip_of_append {inComment : Bool} {chars behind rest : List Char} {first : Char}
    (h : (skip inComment (chars ++ behind)).rest = first :: (rest ++ behind)) :
    skip inComment chars = { skip inComment (chars ++ behind) with rest := first :: rest } := by
  fun_induction skip inComment chars with
  | case1 inComment =>
    -- nothing lies ahead before the cut, so the token cannot begin there
    have hle := skip_rest_length_le inComment behind
    rw [List.nil_append] at h
    rw [h, List.length_cons, List.length_append] at hle
    omega
  | case2 inComment chars after ih =>
    have htail : (skip false (chars ++ behind)).rest = first :: (rest ++ behind) := by
      simpa [skip] using h
    simp only [List.cons_append, skip, ih htail, after]
    rfl
  | case3 inComment c chars hfeed hcomment after ih =>
    have htail : (skip true (chars ++ behind)).rest = first :: (rest ++ behind) := by
      simpa [skip, hfeed, hcomment] using h
    simp only [List.cons_append, skip, if_neg hfeed, hcomment, ih htail, after]
    rfl
  | case4 inComment c chars hfeed hcomment hblank after ih =>
    have htail : (skip false (chars ++ behind)).rest = first :: (rest ++ behind) := by
      simpa [skip, hfeed, hcomment, hblank] using h
    simp only [List.cons_append, skip, if_neg hfeed, hcomment, hblank, ih htail, after]
    rfl
  | case5 inComment c chars hfeed hcomment hblank =>
    have hsame : c = first ∧ chars = rest := by
      simpa [skip, hfeed, hcomment, hblank] using h
    rcases hsame with ⟨rfl, rfl⟩
    simp [skip, hfeed, hcomment, hblank]

/-- A token is found again where the text ends behind it. -/
theorem scan_of_append {first : Char} {rest behind : List Char} {lexeme : Lexeme}
    (hscan : (scan first (rest ++ behind)).outcome = .ok lexeme)
    (hinside : (scan first (rest ++ behind)).beyond ≤ rest.length) :
    scan first rest = scan first (rest ++ behind) := by
  have hnext : StandsFor (rest.drop (scan first (rest ++ behind)).beyond)
      ((rest ++ behind).drop (scan first (rest ++ behind)).beyond) := by
    intro c hc
    rw [List.drop_append_of_le_length hinside, List.head?_append, hc]
    exact .inl rfl
  have hsame := scan_replace hscan hnext
  rwa [List.take_append_of_le_length hinside, List.take_append_drop] at hsame

namespace Lexer

/-! ## Passing tokens -/

/-- A lexer passes tokens: it gives them one after another and stands behind the last of
them. -/
inductive Passes : Lexer → List Token → Lexer → Prop where
  | nil (lexer : Lexer) : Passes lexer [] lexer
  | cons {lexer behind : Lexer} {first : Char} {rest : List Char} {lexeme : Lexeme}
      {word : List Token} (hrest : lexer.skipTrivia.rest = first :: rest)
      (hscan : (scan first rest).outcome = .ok lexeme)
      (hword : Passes (lexer.after (scan first rest).consumed) word behind) :
    Passes lexer (lexer.skipTrivia.tokenOf lexeme (scan first rest).consumed :: word) behind

/-- Tokens before others are passed. -/
theorem Gives.split {lexer : Lexer} {word others : List Token}
    (h : Gives lexer (word ++ others)) (hothers : others ≠ []) :
    ∃ behind, Passes lexer word behind ∧ Gives behind others := by
  induction word generalizing lexer with
  | nil => exact ⟨lexer, .nil lexer, h⟩
  | cons token word ih =>
    generalize htokens : token :: word ++ others = tokens at h
    cases h with
    | finish _ =>
      -- the end is the last token, and others follow the word
      have hempty : word ++ others = [] := (List.cons.inj htokens).2
      exact absurd (List.append_eq_nil_iff.mp hempty).2 hothers
    | token hrest hscan hgives =>
      obtain ⟨rfl, rfl⟩ := List.cons.inj htokens
      obtain ⟨behind, hword, hbehind⟩ := ih hgives
      exact ⟨behind, .cons hrest hscan hword, hbehind⟩

namespace Passes

variable {lexer behind : Lexer} {word : List Token}

/-- Where nothing lies behind the tokens, the end follows them. -/
theorem gives (h : Passes lexer word behind) (hrest : behind.rest = []) :
    ∃ finish, finish.kind = .eof ∧ Gives lexer (word ++ [finish]) := by
  induction h with
  | nil lexer =>
    have hskip : lexer.skipTrivia.rest = [] := by simp [skipTrivia, hrest, Trivia.skip]
    exact ⟨_, rfl, .finish hskip⟩
  | cons hahead hscan _ ih =>
    obtain ⟨finish, hfinish, hgives⟩ := ih hrest
    exact ⟨finish, hfinish, .token hahead hscan hgives⟩

/-- Passing tokens, a lexer stays inside its text. -/
theorem inside {chars : List Char} (h : Passes lexer word behind) (hlexer : lexer.Inside chars) :
    behind.Inside chars := by
  induction h with
  | nil => exact hlexer
  | cons hrest _ _ ih => exact ih (hlexer.skipTrivia.advance hrest false)

/-- Passing tokens, a lexer takes the characters ahead of it. -/
theorem exists_taken (h : Passes lexer word behind) :
    ∃ taken, lexer.rest = taken ++ behind.rest := by
  induction h with
  | nil => exact ⟨[], rfl⟩
  | @cons lexer behind first rest lexeme word hrest _ _ ih =>
    obtain ⟨taken, htaken⟩ := ih
    refine ⟨lexer.rest.take (Trivia.skip false lexer.rest).length ++
      (lexer.skipTrivia.rest.take (scan first rest).consumed ++ taken), ?_⟩
    calc lexer.rest
        = lexer.rest.take (Trivia.skip false lexer.rest).length ++ lexer.skipTrivia.rest := by
          rw [skipTrivia, Trivia.rest_skip, List.take_append_drop]
      _ = lexer.rest.take (Trivia.skip false lexer.rest).length ++
            (lexer.skipTrivia.rest.take (scan first rest).consumed ++
              lexer.skipTrivia.rest.drop (scan first rest).consumed) := by
          rw [List.take_append_drop]
      _ = _ := by
          change lexer.skipTrivia.rest.drop (scan first rest).consumed = _ at htaken
          rw [htaken]
          simp only [List.append_assoc]

/-- A lexer stands where the last token that it passed ends. -/
theorem stop_eq {last : Token} (h : Passes lexer (word ++ [last]) behind) :
    last.range.stop = behind.position := by
  induction word generalizing lexer with
  | nil =>
    cases h with
    | cons hrest hscan hword =>
      cases hword
      rfl
  | cons token word ih =>
    cases h with
    | cons _ _ hword => exact ih hword

/-- The first token is found at its first character, where no line break was passed. -/
theorem atFirst {first : Token} (h : Passes lexer (first :: word) behind) :
    Passes { lexer.skipTrivia with lineBreak := false }
        ({ first with lineBreakBefore := false } :: word) behind ∧
      lexer.skipTrivia.position = first.range.start := by
  cases h with
  | @cons _ _ c rest lexeme _ hrest hscan hword =>
    have hblank : Trivia.isBlank c = false := Trivia.not_isBlank_of_skip hrest
    have hskip : Trivia.skip false lexer.skipTrivia.rest = ⟨0, false, lexer.skipTrivia.rest⟩ := by
      rw [hrest]
      exact Trivia.skip_of_not_isBlank hblank rest
    have hhere : ({ lexer.skipTrivia with lineBreak := false } : Lexer).skipTrivia =
        { lexer.skipTrivia with lineBreak := false } := by
      simp only [skipTrivia] at hskip ⊢
      simp [hskip]
    refine ⟨?_, rfl⟩
    have hpasses : Passes { lexer.skipTrivia with lineBreak := false }
        (({ lexer.skipTrivia with lineBreak := false } : Lexer).skipTrivia.tokenOf lexeme
          (scan c rest).consumed :: word) behind := by
      refine .cons (by rw [hhere]; exact hrest) hscan ?_
      rw [after, hhere]
      exact hword
    rw [hhere] at hpasses
    exact hpasses

/-- The tokens that a lexer passes are passed as well in a text that ends behind them and
begins `n` characters later. -/
theorem cut (h : Passes lexer word behind) {inner : List Char}
    (hinner : lexer.rest = inner ++ behind.rest) (lexer' : Lexer) {n : Nat}
    (hrest' : lexer'.rest = inner) (hposition : lexer.position = lexer'.position + n)
    (hbreak : lexer'.lineBreak = lexer.lineBreak) :
    ∃ word' behind', behind'.rest = [] ∧ Passes lexer' word' behind' ∧
      List.Forall₂ (Token.Like fun a b => b = a.shift n) word' word := by
  induction h generalizing inner lexer' with
  | nil lexer =>
    have hempty : inner = [] := List.append_left_eq_self.mp hinner.symm
    exact ⟨[], lexer', by rw [hrest', hempty], .nil lexer', .nil⟩
  | @cons lexer behind first rest lexeme word hrest hscan hword ih =>
    -- the characters of the token and those of the tokens after it lie before the cut
    obtain ⟨taken, htaken⟩ := hword.exists_taken
    have hle := beyond_scan_le first rest
    have hdrop : rest.drop (scan first rest).beyond = taken ++ behind.rest := by
      simpa [after, advance, hrest, Scan.consumed] using htaken
    have hsplit : rest = rest.take (scan first rest).beyond ++ taken ++ behind.rest := by
      rw [List.append_assoc, ← hdrop, List.take_append_drop]
    generalize hbefore : rest.take (scan first rest).beyond ++ taken = before at hsplit
    have hlength : (scan first rest).beyond ≤ before.length := by
      rw [← hbefore, List.length_append, List.length_take_of_le hle]
      exact Nat.le_add_right _ _
    have hskip : Trivia.skip false inner =
        { Trivia.skip false lexer.rest with rest := first :: before } := by
      rw [hinner]
      apply Trivia.skip_of_append
      rw [← hsplit, ← hinner]
      exact hrest
    have hhere : lexer'.skipTrivia = { lexer' with
        rest := first :: before
        position := lexer'.position + (Trivia.skip false lexer.rest).length
        lineBreak := lexer.skipTrivia.lineBreak } := by
      simp only [skipTrivia, hrest', hskip, hbreak]
    have hscan' : scan first before = scan first rest := by
      have hfound : (scan first (before ++ behind.rest)).outcome = .ok lexeme := hsplit ▸ hscan
      have hwithin : (scan first (before ++ behind.rest)).beyond ≤ before.length := hsplit ▸ hlength
      rw [scan_of_append hfound hwithin, ← hsplit]
    have htail : (lexer'.after (scan first before).consumed).rest = taken := by
      rw [after, advance, hhere, hscan']
      simp only [Scan.consumed, List.drop_succ_cons]
      rw [← hbefore, List.drop_left' (List.length_take_of_le hle)]
    have hfurther : (lexer.after (scan first rest).consumed).position =
        (lexer'.after (scan first before).consumed).position + n := by
      rw [after, advance, after, advance, hhere, hscan']
      simp only [skipTrivia]
      omega
    obtain ⟨word', behind', hend, hpasses, hlike⟩ := ih htaken _ htail hfurther rfl
    refine ⟨_ :: word', behind', hend, .cons (by rw [hhere]) (hscan' ▸ hscan) hpasses,
      .cons ?_ hlike⟩
    have htext : (first :: before).take (scan first rest).consumed =
        (first :: rest).take (scan first rest).consumed := by
      simp only [Scan.consumed, List.take_succ_cons]
      rw [← hbefore, List.take_left' (List.length_take_of_le hle)]
    rw [hhere, hscan']
    constructor <;> simp only [tokenOf, hrest, htext]
    rw [TextRange.ofLength, TextRange.ofLength, TextRange.shift]
    simp only [skipTrivia, TextRange.mk.injEq]
    omega

end Passes

/-! ## The order of tokens -/

/-- Tokens lie behind the place of the lexer, and every one ends before the next ones
begin. -/
theorem Gives.inOrder {lexer : Lexer} {tokens : List Token} (h : Gives lexer tokens) :
    (∀ token ∈ tokens, lexer.position ≤ token.range.start) ∧
      tokens.Pairwise fun a b => a.range.stop ≤ b.range.start := by
  have hskip (lexer : Lexer) : lexer.position ≤ lexer.skipTrivia.position :=
    Nat.le_add_right _ _
  induction h with
  | @finish lexer hrest =>
    refine ⟨fun token htoken => ?_, List.pairwise_singleton _ _⟩
    rw [List.mem_singleton.mp htoken]
    exact hskip lexer
  | @token lexer first rest lexeme tokens hrest hscan _ ih =>
    obtain ⟨hbehind, horder⟩ := ih
    refine ⟨fun token htoken => ?_, List.pairwise_cons.mpr ⟨hbehind, horder⟩⟩
    rcases List.mem_cons.mp htoken with rfl | hmem
    · exact hskip lexer
    · have hafter : lexer.skipTrivia.position ≤
          (lexer.after (scan first rest).consumed).position := Nat.le_add_right _ _
      exact Nat.le_trans (hskip lexer) (Nat.le_trans hafter (hbehind token hmem))

end Lexer

/-- The tokens of a text lie one behind the other. -/
theorem Source.inOrder_of_tokens {source : Source} {tokens : List Token}
    (h : source.tokens = .ok tokens) :
    tokens.Pairwise fun a b => a.range.stop ≤ b.range.start :=
  (Lexer.gives_of_tokens h).inOrder.2

/-! ## Slices -/

/-- The part of a text that lies in a range. -/
def sliceOf (text : String) (range : TextRange) : String :=
  String.ofList (slice text.toList range.start range.stop)

/-- The lexer at the beginning of a text is inside it. -/
theorem Source.inside_ofText (text : String) (path : Option String) :
    (Lexer.ofSource (ofText text path)).Inside text.toList :=
  ⟨rfl, rfl, Nat.zero_le _⟩

/-- The tokens of a slice that reaches from the first to the last of some tokens of a text
are these tokens, without the line break before the first of them, and the end. -/
theorem Source.tokens_slice {text : String} {path : Option String} {before word behind : List Token}
    {first last : Token} {range : TextRange}
    (htokens : (ofText text path).tokens = .ok (before ++ (word ++ behind)))
    (hbehind : behind ≠ []) (hfirst : word.head? = some first) (hlast : word.getLast? = some last)
    (hstart : range.start = first.range.start) (hstop : range.stop = last.range.stop)
    (path' : Option String) :
    ∃ word' finish, finish.kind = .eof ∧
      List.Forall₂ (Token.Like fun a b => b = a.shift range.start) word'
        ({ first with lineBreakBefore := false } :: word.tail) ∧
      (ofText (sliceOf text range) path').tokens = .ok (word' ++ [finish]) := by
  obtain ⟨others, rfl⟩ := List.head?_eq_some_iff.mp hfirst
  have hgives := Lexer.gives_of_tokens htokens
  obtain ⟨mid, hbefore, hmid⟩ := hgives.split (by simp)
  obtain ⟨after, hword, -⟩ := hmid.split hbehind
  have hmidInside := hbefore.inside (inside_ofText text path)
  have hafterInside := hword.inside hmidInside
  have hafterStop : after.position = range.stop := by
    obtain ⟨initial, hinitial⟩ := List.getLast?_eq_some_iff.mp hlast
    rw [hinitial] at hword
    rw [hstop]
    exact hword.stop_eq.symm
  obtain ⟨hpasses, hposition⟩ := hword.atFirst
  -- what lies ahead at the first token is the slice and what follows it
  have hinner : mid.skipTrivia.rest = slice text.toList range.start range.stop ++ after.rest := by
    have hrange := range.start_le_stop
    rw [hmidInside.skipTrivia.rest_eq, hafterInside.rest_eq, hposition, hafterStop, ← hstart,
      slice]
    conv_rhs => rw [← Nat.add_sub_cancel' hrange, ← List.drop_drop]
    rw [Nat.add_sub_cancel_left, List.take_append_drop]
  obtain ⟨word', behind', hend, hcut, hlike⟩ := hpasses.cut hinner
    (Lexer.ofSource (ofText (sliceOf text range) path')) (n := range.start)
    (by simp [Lexer.ofSource, ofText, LineIndex.ofText, LineIndex.ofChars, sliceOf])
    (by simp [Lexer.ofSource, hposition, hstart]) rfl
  obtain ⟨finish, hfinish, hfound⟩ := hcut.gives hend
  exact ⟨word', finish, hfinish, hlike, hfound.tokens_eq⟩

end Rune
