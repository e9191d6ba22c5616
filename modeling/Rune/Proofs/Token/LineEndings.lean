import Rune.Proofs.SideBySide
import Rune.Proofs.Failure
import Rune.Proofs.Text.LineEndings
import Rune.Proofs.Token.Coverage

/-!
# Rune - carriage returns between tokens

A carriage return before a line feed is passed over as a space, or belongs to a comment.
No token holds one, since no token goes on over a line feed, unless a backslash stands
directly before it.

Main results:

- Theorem {lit}`scan_crlf`: one token is taken as before.
- Theorem {lit}`Source.Returns.tokens`: the tokens of a text with carriage returns are
  those of the text, their ranges apart, or the complaint is the same.
-/

namespace Rune

/-- A backslash stands directly before a line feed. -/
def EscapesLineFeed (chars : List Char) : Prop := ['\\', '\n'] <:+: chars

namespace EscapesLineFeed

variable {c d : Char} {chars rest : List Char}

theorem of_suffix (h : rest <:+ chars) (hrest : EscapesLineFeed rest) : EscapesLineFeed chars :=
  hrest.trans h.isInfix

theorem cons (c : Char) (h : EscapesLineFeed rest) : EscapesLineFeed (c :: rest) :=
  of_suffix (List.suffix_cons c rest) h

/-- What a backslash takes along is no line feed. -/
theorem ne_lineFeed (h : ¬EscapesLineFeed ('\\' :: d :: rest)) : d ≠ '\n' := by
  rintro rfl
  exact h ⟨[], rest, rfl⟩

end EscapesLineFeed

/-! ## Runs of characters -/

section Runs

variable {p : Char → Bool}

/-- What is asked of the first character is not answered by a line feed, nor by a carriage
return. -/
theorem any_head?_crlf (hreturn : p '\r' = false) (hfeed : p '\n' = false) (rest : List Char) :
    (crlf rest).head?.any p = rest.head?.any p := by
  cases rest with
  | nil => rfl
  | cons c rest =>
    by_cases hc : c = '\n'
    · subst hc
      simp [hreturn, hfeed]
    · simp [crlf_cons hc]

/-- A run ends before a line feed. -/
theorem takeWhile_crlf (hreturn : p '\r' = false) (hfeed : p '\n' = false) (rest : List Char) :
    (crlf rest).takeWhile p = rest.takeWhile p := by
  induction rest with
  | nil => rfl
  | cons c rest ih =>
    by_cases hc : c = '\n'
    · subst hc
      simp [hreturn, hfeed]
    · simp [crlf_cons hc, List.takeWhile_cons, ih]

theorem not_mem_take_takeWhile (hfeed : p '\n' = false) (rest : List Char) :
    '\n' ∉ rest.take (rest.takeWhile p).length := by
  rw [← List.prefix_iff_eq_take.mp (List.takeWhile_prefix p)]
  intro h
  simpa [hfeed] using List.mem_takeWhile_imp h

end Runs

/-! ## Numbers -/

theorem isDigit_return : Unicode.isDigit '\r' = false := by decide +kernel

theorem spoilsNumber_return : spoilsNumber '\r' = false := by decide +kernel

theorem trailsNumber_return : trailsNumber '\r' = false := by decide +kernel

theorem trailsNumber_lineFeed : trailsNumber '\n' = false := by decide +kernel

/-- The digits of a number end before a line feed. -/
theorem readDigits_crlf (sawDot : Bool) (rest : List Char) :
    readDigits sawDot (crlf rest) = readDigits sawDot rest ∧
      '\n' ∉ rest.take (readDigits sawDot rest).1 := by
  fun_induction readDigits sawDot rest with
  | case1 sawDot => exact ⟨rfl, by simp⟩
  | case2 sawDot c rest hc count dot heq ih =>
    have hfeed : c ≠ '\n' := by rintro rfl; simp [isDigit_lineFeed] at hc
    rw [heq] at ih
    rw [crlf_cons hfeed, readDigits, if_pos hc, ih.1]
    exact ⟨rfl, by simpa using ⟨hfeed.symm, ih.2⟩⟩
  | case3 sawDot c rest hc hdot count dot heq ih =>
    have hfeed : c ≠ '\n' := by rintro rfl; simp at hdot
    rw [heq] at ih
    rw [crlf_cons hfeed, readDigits, if_neg hc,
      if_pos (by rwa [any_head?_crlf isDigit_return isDigit_lineFeed]), ih.1]
    exact ⟨rfl, by simpa using ⟨hfeed.symm, ih.2⟩⟩
  | case4 sawDot c rest hc hdot =>
    refine ⟨?_, by simp⟩
    by_cases hfeed : c = '\n'
    · subst hfeed
      simp [readDigits, isDigit_return]
    · rw [crlf_cons hfeed, readDigits, if_neg hc,
        if_neg (by rwa [any_head?_crlf isDigit_return isDigit_lineFeed])]

/-! ## Strings -/

namespace StringBody

/-- A line feed leaves a string open. -/
theorem read_lineFeed {quote : Char} (hfeed : quote ≠ '\n') (body : StringBody)
    (rest : List Char) : read quote body ('\n' :: rest) = body := by
  rw [read.eq_def]
  simp [hfeed.symm]

/-- A string that is closed is read as before, and holds no line feed as it is written. -/
theorem read_crlf {quote : Char} (hreturn : quote ≠ '\r') (hfeed : quote ≠ '\n')
    {body : StringBody} (hopen : body.closed = false) {rest : List Char}
    (h : ¬EscapesLineFeed rest) :
    ((read quote body rest).closed = false ∧ (read quote body (crlf rest)).closed = false) ∨
      read quote body (crlf rest) = read quote body rest ∧
        ∃ n, (read quote body rest).taken = body.taken + n ∧ '\n' ∉ rest.take n := by
  fun_induction read quote body rest with
  | case1 body => exact .inl ⟨hopen, hopen⟩
  | case2 body rest =>
    rw [crlf_cons hfeed, read_quote]
    exact .inr ⟨rfl, 1, rfl, by simpa using hfeed.symm⟩
  | case3 body hquote =>
    refine .inl ⟨hopen, ?_⟩
    rw [crlf_cons (by decide), crlf_nil, read, if_neg hquote, if_pos rfl]
    exact hopen
  | case4 body d rest hquote ih =>
    have hd := EscapesLineFeed.ne_lineFeed h
    rw [crlf_cons (by decide), crlf_cons hd, read_escape hquote]
    obtain hleft | ⟨heq, n, htaken, hn⟩ := ih hopen fun hrest => h (.cons _ (.cons _ hrest))
    · exact .inl hleft
    · refine .inr ⟨heq, n + 2, ?_, by simpa using ⟨hd.symm, hn⟩⟩
      rw [htaken, pushEscape]
      dsimp only
      omega
  | case5 body rest hquote hslash =>
    refine .inl ⟨hopen, ?_⟩
    rw [crlf_lineFeed, read_push hreturn.symm (by decide) (by decide), read_lineFeed hfeed]
    exact hopen
  | case6 body c rest hquote hslash hc ih =>
    rw [crlf_cons hc, read_push hquote hslash hc]
    obtain hleft | ⟨heq, n, htaken, hn⟩ := ih hopen fun hrest => h (.cons _ hrest)
    · exact .inl hleft
    · refine .inr ⟨heq, n + 1, ?_, by simpa using ⟨Ne.symm hc, hn⟩⟩
      rw [htaken, push]
      dsimp only
      omega

end StringBody

/-- A line feed leaves a raw string open. -/
theorem readRaw_lineFeed (rest : List Char) : readRaw ('\n' :: rest) = ([], false) := by
  rw [readRaw.eq_def]
  simp

/-- A raw string that is closed is read as before, and holds no line feed. -/
theorem readRaw_crlf {rest : List Char} (h : ¬EscapesLineFeed rest) :
    ((readRaw rest).2 = false ∧ (readRaw (crlf rest)).2 = false) ∨
      readRaw (crlf rest) = readRaw rest ∧ '\n' ∉ rest.take ((readRaw rest).1.length + 1) := by
  fun_induction readRaw rest with
  | case1 => exact .inl ⟨rfl, rfl⟩
  | case2 rest =>
    rw [crlf_cons (by decide), readRaw_quote]
    exact .inr ⟨rfl, by simp⟩
  | case3 => exact .inl ⟨rfl, rfl⟩
  | case4 d rest contents closed heq _ ih =>
    have hd := EscapesLineFeed.ne_lineFeed h
    rw [heq] at ih
    rw [crlf_cons (by decide), crlf_cons hd]
    obtain ⟨hleft, hright⟩ | ⟨hsame, hn⟩ := ih fun hrest => h (.cons _ (.cons _ hrest))
    · exact .inl ⟨hleft, by simpa [readRaw] using hright⟩
    · exact .inr ⟨by simp [readRaw, hsame], by simpa using ⟨hd.symm, hn⟩⟩
  | case5 rest =>
    refine .inl ⟨rfl, ?_⟩
    rw [crlf_lineFeed, readRaw_cons (by decide) (by decide) (by decide), readRaw_lineFeed]
  | case6 c rest hquote hslash hc contents closed heq ih =>
    rw [heq] at ih
    rw [crlf_cons hc, readRaw_cons hquote hslash hc]
    obtain ⟨hleft, hright⟩ | ⟨hsame, hn⟩ := ih fun hrest => h (.cons _ hrest)
    · exact .inl ⟨hleft, hright⟩
    · exact .inr ⟨by simp [hsame], by simpa using ⟨Ne.symm hc, hn⟩⟩

/-! ## One token -/

/-- Two scans come to the same, the second one with carriage returns ahead.  What is taken
for a token holds no line feed. -/
structure SameScan (rest : List Char) (found found' : Scan) : Prop where
  outcome_eq : found'.outcome = found.outcome
  beyond_eq : ∀ lexeme, found.outcome = .ok lexeme → found'.beyond = found.beyond
  not_mem : ∀ lexeme, found.outcome = .ok lexeme → '\n' ∉ rest.take found.beyond

namespace SameScan

variable {rest : List Char}

theorem of_error {found found' : Scan} {fault : LexFault} (h : found.outcome = .error fault)
    (h' : found'.outcome = .error fault) : SameScan rest found found' where
  outcome_eq := h'.trans h.symm
  beyond_eq _ hok := by cases h.symm.trans hok
  not_mem _ hok := by cases h.symm.trans hok

theorem of_eq {found found' : Scan} (heq : found' = found) (h : '\n' ∉ rest.take found.beyond) :
    SameScan rest found found' where
  outcome_eq := heq ▸ rfl
  beyond_eq _ _ := heq ▸ rfl
  not_mem _ _ := h

theorem scanRawString (h : ¬EscapesLineFeed rest) :
    SameScan ('"' :: rest) (scanRawString rest) (scanRawString (crlf rest)) := by
  obtain ⟨hleft, hright⟩ | ⟨heq, hn⟩ := readRaw_crlf h
  · exact .of_error (by simp [Rune.scanRawString, hleft]; rfl)
      (by simp [Rune.scanRawString, hright])
  · refine .of_eq (by rw [Rune.scanRawString, heq, Rune.scanRawString]) ?_
    have hle : (Rune.scanRawString rest).beyond ≤ (readRaw rest).1.length + 1 + 1 := by
      rw [Rune.scanRawString]
      dsimp only
      split <;> omega
    intro hmem
    have := (List.take_prefix_take_left hle).subset hmem
    simp [hn] at this

theorem scanString {quote : Char} (hreturn : quote ≠ '\r') (hfeed : quote ≠ '\n')
    (h : ¬EscapesLineFeed rest) :
    SameScan rest (scanString quote rest) (scanString quote (crlf rest)) := by
  obtain ⟨hleft, hright⟩ | ⟨heq, n, htaken, hn⟩ :=
    @StringBody.read_crlf quote hreturn hfeed .start rfl rest h
  · exact .of_error (by simp [Rune.scanString, hleft]; rfl) (by simp [Rune.scanString, hright])
  · refine .of_eq (by rw [Rune.scanString, heq, Rune.scanString]) ?_
    rw [Rune.scanString, htaken]
    simpa [StringBody.start] using hn

theorem scanNumber (first : Char) (rest : List Char) :
    SameScan rest (scanNumber first rest) (scanNumber first (crlf rest)) := by
  obtain ⟨heq, hn⟩ := readDigits_crlf false rest
  refine .of_eq ?_ ?_
  · rw [Rune.scanNumber, Rune.scanNumber, heq]
    simp only [drop_crlf hn, take_crlf hn, any_head?_crlf spoilsNumber_return spoilsNumber_lineFeed,
      takeWhile_crlf trailsNumber_return trailsNumber_lineFeed]
  · rw [Rune.scanNumber]
    dsimp only
    split
    · rw [List.take_add, List.mem_append]
      exact not_or.mpr ⟨hn, not_mem_take_takeWhile trailsNumber_lineFeed _⟩
    · exact hn

theorem scanWord (first : Char) (rest : List Char) :
    SameScan rest (scanWord first rest) (scanWord first (crlf rest)) := by
  have hreturn : continuesWord '\r' = false := by decide +kernel
  have hfeed : continuesWord '\n' = false := by decide +kernel
  exact .of_eq (by rw [Rune.scanWord, takeWhile_crlf hreturn hfeed, Rune.scanWord])
    (not_mem_take_takeWhile hfeed rest)

theorem scanNamespace (rest : List Char) :
    SameScan rest (scanNamespace rest) (scanNamespace (crlf rest)) := by
  have hreturn : namesNamespace '\r' = false := by decide +kernel
  have hfeed : namesNamespace '\n' = false := by decide +kernel
  exact .of_eq (by rw [Rune.scanNamespace, takeWhile_crlf hreturn hfeed, Rune.scanNamespace])
    (not_mem_take_takeWhile hfeed rest)

end SameScan

/-- One token is taken as before. -/
theorem scan_crlf {first : Char} {rest : List Char} (hfirst : Trivia.isBlank first = false)
    (h : ¬EscapesLineFeed (first :: rest)) :
    SameScan rest (scan first rest) (scan first (crlf rest)) := by
  have hrest : ¬EscapesLineFeed rest := fun hrest => h (.cons _ hrest)
  by_cases hraw : NotRaw first rest
  swap
  · obtain ⟨rfl, hhead⟩ : first = 'r' ∧ rest.head? = some '"' := by simpa [NotRaw] using hraw
    obtain ⟨inside, rfl⟩ := List.head?_eq_some_iff.mp hhead
    simpa [scan, crlf_cons] using SameScan.scanRawString fun hinside => hrest (.cons _ hinside)
  have hraw' : NotRaw first (crlf rest) := by
    intro hr
    cases rest with
    | nil => exact hraw hr
    | cons c rest =>
      by_cases hc : c = '\n'
      · subst hc
        simp
      · simpa [crlf_cons hc] using hraw hr
  rw [scan, if_neg hraw.test, scan, if_neg hraw'.test,
    any_head?_crlf isDigit_return isDigit_lineFeed]
  split
  · rename_i hquote
    refine .scanString ?_ ?_ hrest <;> rintro rfl <;> simp at hquote
  split
  · exact .scanNumber first rest
  split
  · exact .of_error rfl rfl
  split
  · exact .scanWord first rest
  split
  · exact .scanNamespace rest
  split
  · exact .of_eq rfl (by simp)
  · exact .of_error rfl rfl

/-! ## Trivia -/

/-- Trivia are passed over as before, with the carriage returns among them. -/
theorem Trivia.skip_crlf (inComment : Bool) (chars : List Char) :
    skip inComment (crlf chars) =
      { length := (crlf (chars.take (skip inComment chars).length)).length
        lineBreak := (skip inComment chars).lineBreak
        rest := crlf (skip inComment chars).rest } := by
  fun_induction skip inComment chars with
  | case1 => rfl
  | case2 inComment rest after ih =>
    cases inComment <;> simp_all +zetaDelta [skip]
  | case3 inComment c rest hfeed hcomment after ih =>
    rw [crlf_cons hfeed, skip, if_neg hfeed, if_pos hcomment, ih]
    simp [crlf_cons hfeed, after]
  | case4 inComment c rest hfeed hcomment hblank after ih =>
    rw [crlf_cons hfeed, skip, if_neg hfeed, if_neg hcomment, if_pos hblank, ih]
    simp [crlf_cons hfeed, after]
  | case5 inComment c rest hfeed hcomment hblank =>
    rw [crlf_cons hfeed, skip, if_neg hfeed, if_neg hcomment, if_neg hblank]
    simp

/-! ## Lexers -/

/-- Two tokens are the same, their ranges apart. -/
def Token.Elsewhere (token token' : Token) : Prop := token' = { token with range := token'.range }

/-- Two diagnostics are the same, their ranges apart. -/
def Diagnostic.Elsewhere (d d' : Diagnostic) : Prop := d' = { d with range := d'.range }

/-- A token of a text, and the same token of the text with carriage returns. -/
structure Token.Returns (chars : List Char) (token token' : Token) : Prop where
  elsewhere : token.Elsewhere token'
  range : token.range.Returns chars token'.range

namespace Lexer

/-- A lexer inside a text, and the lexer at the same place of the text with carriage
returns. -/
structure Returns (chars : List Char) (lexer lexer' : Lexer) : Prop where
  source : Source.Returns chars lexer.source lexer'.source
  inside : lexer.Inside chars
  rest_eq : lexer'.rest = crlf lexer.rest
  position_eq : lexer'.position = crlfOffset chars lexer.position
  lineBreak_eq : lexer'.lineBreak = lexer.lineBreak

namespace Returns

variable {chars : List Char} {lexer lexer' : Lexer}

theorem skipTrivia (h : Returns chars lexer lexer') :
    Returns chars lexer.skipTrivia lexer'.skipTrivia where
  source := h.source
  inside := h.inside.skipTrivia
  rest_eq := by simp [Lexer.skipTrivia, h.rest_eq, Trivia.skip_crlf]
  position_eq := by
    simp [Lexer.skipTrivia, h.rest_eq, Trivia.skip_crlf, h.position_eq, crlfOffset_add,
      ← h.inside.rest_eq]
  lineBreak_eq := by simp [Lexer.skipTrivia, h.rest_eq, Trivia.skip_crlf, h.lineBreak_eq]

theorem lineColumn_eq (h : Returns chars lexer lexer') :
    lexer'.source.index.lineColumn lexer'.position =
      lexer.source.index.lineColumn lexer.position := by
  rw [h.source.index_eq, h.source.index'_eq, h.position_eq,
    LineIndex.lineColumn_crlf h.inside.position_le]

theorem endToken (h : Returns chars lexer lexer') :
    lexer.endToken.Returns chars lexer'.endToken where
  elsewhere := by
    simp [Token.Elsewhere, Lexer.endToken, h.lineColumn_eq, h.lineBreak_eq]
  range := ⟨h.inside.position_le, h.position_eq⟩

/-- What is taken for a token holds no line feed. -/
theorem take_eq (h : Returns chars lexer lexer') {length : Nat}
    (hn : '\n' ∉ lexer.rest.take length) : lexer'.rest.take length = lexer.rest.take length := by
  rw [h.rest_eq, take_crlf hn]

theorem tokenOf (h : Returns chars lexer lexer') (lexeme : Lexeme) {length : Nat}
    (hn : '\n' ∉ lexer.rest.take length) :
    (lexer.tokenOf lexeme length).Returns chars (lexer'.tokenOf lexeme length) where
  elsewhere := by
    simp [Token.Elsewhere, Lexer.tokenOf, h.lineColumn_eq, h.lineBreak_eq, h.take_eq hn]
  range := ⟨h.inside.position_le, h.position_eq⟩

theorem after (h : Returns chars lexer lexer') {first : Char} {rest : List Char}
    (hrest : lexer.skipTrivia.rest = first :: rest)
    (hn : '\n' ∉ lexer.skipTrivia.rest.take (scan first rest).consumed) :
    Returns chars (lexer.after (scan first rest).consumed)
      (lexer'.after (scan first rest).consumed) where
  source := h.source
  inside := h.skipTrivia.inside.advance hrest false
  rest_eq := by simp [Lexer.after, advance, h.skipTrivia.rest_eq, drop_crlf hn]
  position_eq := by
    have hle := beyond_scan_le first rest
    simp only [Lexer.after, advance, h.skipTrivia.position_eq, crlfOffset_add,
      ← h.skipTrivia.inside.rest_eq, crlf_of_not_mem hn]
    simp [hrest, Scan.consumed, hle]
  lineBreak_eq := rfl

/-- A call gives what it gives on the text: a token with what lies behind it, or the same
complaint. -/
theorem next (h : Returns chars lexer lexer') (hescape : ¬EscapesLineFeed chars) :
    Except.Rel (Failure.Alike Diagnostic.Elsewhere) (Token.Returns chars) lexer.next.1
        lexer'.next.1 ∧
      ∀ token, lexer.next.1 = .ok token → Returns chars lexer.next.2 lexer'.next.2 := by
  have hhere := h.skipTrivia
  cases hrest : lexer.skipTrivia.rest with
  | nil =>
    rw [next_of_end hrest, next_of_end (by rw [hhere.rest_eq, hrest, crlf_nil])]
    exact ⟨.ok hhere.endToken, fun _ _ => hhere⟩
  | cons first rest =>
    have hblank : Trivia.isBlank first = false := Trivia.not_isBlank_of_skip hrest
    have hfeed : first ≠ '\n' := by
      rintro rfl
      cases hblank
    have hrest' : lexer'.skipTrivia.rest = first :: crlf rest := by
      rw [hhere.rest_eq, hrest, crlf_cons hfeed]
    have hscan := scan_crlf hblank fun hahead => hescape <|
      .of_suffix (hhere.inside.rest_eq ▸ List.drop_suffix _ _) (hrest ▸ hahead)
    cases hfound : (scan first rest).outcome with
    | ok lexeme =>
      have hconsumed : (scan first (crlf rest)).consumed = (scan first rest).consumed := by
        rw [Scan.consumed, hscan.beyond_eq lexeme hfound, Scan.consumed]
      have hn : '\n' ∉ lexer.skipTrivia.rest.take (scan first rest).consumed := by
        rw [hrest, Scan.consumed, List.take_succ_cons]
        exact List.not_mem_cons_of_ne_of_not_mem hfeed.symm (hscan.not_mem lexeme hfound)
      rw [next_of_token hrest hfound, next_of_token hrest' (hscan.outcome_eq.trans hfound),
        hconsumed]
      exact ⟨.ok (hhere.tokenOf lexeme hn), fun _ _ => h.after hrest hn⟩
    | error fault =>
      rw [next_of_fault hrest hfound, next_of_fault hrest' (hscan.outcome_eq.trans hfound)]
      refine ⟨.error (.lexical ?_), by rintro _ ⟨⟩⟩
      exact hhere.source.diagnose_eq fault.complaint ⟨hhere.inside.position_le, hhere.position_eq⟩

end Returns

section Tokens

variable {lexer : Lexer} {token : Token}

theorem tokens_of_error {failure : Failure} (h : lexer.next.1 = .error failure) :
    lexer.tokens = .error failure := by
  unfold Lexer.tokens
  split <;> simp_all

theorem tokens_of_end (h : lexer.next.1 = .ok token) (hkind : token.kind = .eof) :
    lexer.tokens = .ok [token] := by
  unfold Lexer.tokens
  split <;> simp_all

theorem tokens_of_token (h : lexer.next.1 = .ok token) (hkind : token.kind ≠ .eof) :
    lexer.tokens = lexer.next.2.tokens.map (token :: ·) := by
  cases hbehind : lexer.next.2.tokens <;> unfold Lexer.tokens <;> split <;>
    simp_all [Except.map]

end Tokens

/-- The calls up to the end give what they give on the text, or end with the same
complaint. -/
theorem Returns.tokens {chars : List Char} {lexer lexer' : Lexer} (h : Returns chars lexer lexer')
    (hescape : ¬EscapesLineFeed chars) :
    Except.Rel (Failure.Alike Diagnostic.Elsewhere) (List.Forall₂ (Token.Returns chars))
      lexer.tokens lexer'.tokens := by
  induction hlength : lexer.rest.length using Nat.strong_induction_on generalizing lexer lexer' with
  | _ length ih =>
    obtain ⟨hrel, hbehind⟩ := h.next hescape
    generalize hnext : lexer.next.1 = answer at hrel hbehind
    generalize hnext' : lexer'.next.1 = answer' at hrel
    cases hrel with
    | error hfailure =>
      rw [tokens_of_error hnext, tokens_of_error hnext']
      exact .error hfailure
    | @ok token token' htoken =>
      have hkind' : token'.kind = token.kind := by rw [htoken.elsewhere]
      by_cases hkind : token.kind = .eof
      · rw [tokens_of_end hnext hkind, tokens_of_end hnext' (hkind'.trans hkind)]
        exact .ok (.cons htoken .nil)
      · rw [tokens_of_token hnext hkind, tokens_of_token hnext' (hkind' ▸ hkind)]
        exact (ih _ (hlength ▸ next_rest_lt (Prod.ext hnext rfl) hkind) (hbehind token rfl) rfl).map
          fun _ _ hothers => .cons htoken hothers

end Lexer

/-- The tokens of a text with carriage returns are those of the text, their ranges apart, or
the complaint is the same. -/
theorem Source.Returns.tokens {chars : List Char} {source source' : Source}
    (h : Returns chars source source') (hescape : ¬EscapesLineFeed chars) :
    Except.Rel (Failure.Alike Diagnostic.Elsewhere) (List.Forall₂ (Token.Returns chars))
      source.tokens source'.tokens := by
  refine Lexer.Returns.tokens ⟨h, ⟨h.index_eq, ?_, Nat.zero_le _⟩, ?_, rfl, rfl⟩ hescape
  · simp [Lexer.ofSource, h.index_eq, LineIndex.ofChars]
  · simp [Lexer.ofSource, h.index_eq, h.index'_eq, LineIndex.ofChars]

end Rune
