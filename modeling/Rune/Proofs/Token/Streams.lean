import Mathlib.Data.List.Forall2
import Rune.Proofs.Token.Extent
import Rune.Token.Lexer

/-!
# Rune - streams of tokens compared

What a lexer gives is told as a relation, so that two streams can be compared token
by token.  Texts that are put together with a line feed between them give the tokens
of the one and then those of the other; and the tokens of a text, written down again
with one space or line feed before each, are read again.

Main results:

- Relation {lit}`Lexer.Gives` says what tokens a lexer gives;
  {lit}`Lexer.gives_iff`: it is what the lexer computes.
- Structure {lit}`Token.Like` says that two tokens differ in their places alone.
- Theorem {lit}`Source.stop_le_of_tokens`: tokens lie inside their text.
- Theorem {lit}`Source.tokens_append`: the tokens of texts that are put together.
- Theorem {lit}`Source.tokens_respaced`: the tokens of a text are read again from
  their texts.
-/

namespace Rune

/-! ## Trivia -/

namespace Trivia

/-- Characters that stand before a token or after it, in no token. -/
def isBlank (c : Char) : Bool := c = '\n' || c = '#' || c = ' ' || c = '\t' || c = '\r'

/-- Passing over trivia loses no character. -/
theorem length_skip (inComment : Bool) (chars : List Char) :
    (skip inComment chars).length + (skip inComment chars).rest.length = chars.length := by
  fun_induction skip inComment chars <;> simp_all +zetaDelta <;> omega

/-- What follows the trivia does not begin with one. -/
theorem not_isBlank_of_skip {inComment : Bool} {chars rest : List Char} {first : Char}
    (h : (skip inComment chars).rest = first :: rest) : isBlank first = false := by
  fun_induction skip inComment chars <;> simp_all +zetaDelta [isBlank]

/-- Where a character follows that is in no trivia, nothing is passed over. -/
theorem skip_of_not_isBlank {first : Char} (h : isBlank first = false) (rest : List Char) :
    skip false (first :: rest) = ⟨0, false, first :: rest⟩ := by
  simp_all [skip, isBlank]

/-- The trivia before a token do not depend on what stands behind the token. -/
theorem skip_append {inComment : Bool} {chars rest : List Char} {first : Char}
    (h : (skip inComment chars).rest = first :: rest) (after : List Char) :
    skip inComment (chars ++ after) =
      { skip inComment chars with rest := first :: (rest ++ after) } := by
  fun_induction skip inComment chars <;> simp_all +zetaDelta [skip]

/-- A line feed behind trivia is itself passed over, with the trivia behind it. -/
theorem skip_append_of_done {inComment : Bool} {chars : List Char}
    (h : (skip inComment chars).rest = []) (after : List Char) :
    skip inComment (chars ++ '\n' :: after) =
      { skip false after with
        length := chars.length + 1 + (skip false after).length
        lineBreak := true } := by
  fun_induction skip inComment chars <;> simp_all +zetaDelta [skip] <;> omega

end Trivia

/-! ## What a lexer gives -/

namespace Lexer

variable {lexer : Lexer} {tokens : List Token} {first : Char} {rest : List Char}

/-- The lexer behind a token of `length` characters. -/
def after (lexer : Lexer) (length : Nat) : Lexer :=
  { lexer.skipTrivia.advance length with lineBreak := false }

/-- The tokens that a lexer gives: an end where nothing but trivia lies ahead, and
otherwise a token with the tokens behind it. -/
inductive Gives : Lexer → List Token → Prop where
  | finish {lexer : Lexer} (hrest : lexer.skipTrivia.rest = []) :
    Gives lexer [lexer.skipTrivia.endToken]
  | token {lexer : Lexer} {first : Char} {rest : List Char} {lexeme : Lexeme}
      {tokens : List Token} (hrest : lexer.skipTrivia.rest = first :: rest)
      (hscan : (scan first rest).outcome = .ok lexeme)
      (htokens : Gives (lexer.after (scan first rest).consumed) tokens) :
    Gives lexer (lexer.skipTrivia.tokenOf lexeme (scan first rest).consumed :: tokens)

/-- What a lexer gives next. -/
theorem next_eq_ok {token : Token} {behind : Lexer} (h : lexer.next = (.ok token, behind)) :
    (lexer.skipTrivia.rest = [] ∧ token = lexer.skipTrivia.endToken) ∨
      ∃ first rest lexeme, lexer.skipTrivia.rest = first :: rest ∧
        (scan first rest).outcome = .ok lexeme ∧
        token = lexer.skipTrivia.tokenOf lexeme (scan first rest).consumed ∧
        behind = lexer.after (scan first rest).consumed := by
  unfold next at h
  dsimp only at h
  split at h
  · rename_i hrest
    cases h
    exact .inl ⟨hrest, rfl⟩
  · rename_i first rest hrest
    split at h <;> cases h
    rename_i lexeme hscan
    exact .inr ⟨first, rest, lexeme, hrest, hscan, rfl, rfl⟩

/-- A lexer complains about characters that lie ahead. -/
theorem next_eq_error {failure : Failure} {behind : Lexer}
    (h : lexer.next = (.error failure, behind)) :
    ∃ first rest complaint, lexer.skipTrivia.rest = first :: rest ∧
      failure = .lexical (lexer.source.diagnose complaint
        (.ofLength lexer.skipTrivia.position (scan first rest).consumed)) := by
  unfold next at h
  dsimp only at h
  split at h
  · cases h
  · rename_i first rest hrest
    split at h <;> cases h
    exact ⟨first, rest, _, hrest, rfl⟩

/-- The relation holds of what the lexer computes. -/
theorem gives_of_tokens (h : lexer.tokens = .ok tokens) : Gives lexer tokens := by
  fun_induction Lexer.tokens lexer generalizing tokens with
  | case1 => cases h
  | case2 lexer token behind hnext hkind =>
    cases h
    obtain ⟨hrest, rfl⟩ | ⟨first, rest, lexeme, _, hscan, rfl, -⟩ := next_eq_ok hnext
    · exact .finish hrest
    · exact absurd hkind (scan_kind_ne_eof first rest lexeme hscan)
  | case3 lexer token behind hnext hkind _ others hothers ih =>
    cases h
    obtain ⟨-, rfl⟩ | ⟨first, rest, lexeme, hrest, hscan, rfl, rfl⟩ := next_eq_ok hnext
    · exact absurd rfl hkind
    · exact .token hrest hscan (ih hothers)
  | case4 => cases h

/-- The lexer computes what the relation holds of. -/
theorem Gives.tokens_eq (h : Gives lexer tokens) : lexer.tokens = .ok tokens := by
  induction h with
  | @finish lexer hrest =>
    have hnext : lexer.next = (.ok lexer.skipTrivia.endToken, lexer.skipTrivia) := by
      simp [next, hrest]
    unfold Lexer.tokens
    split
    · simp_all
    · simp_all [endToken]
  | @token lexer first rest lexeme tokens hrest hscan _ ih =>
    have hnext : lexer.next = (.ok (lexer.skipTrivia.tokenOf lexeme (scan first rest).consumed),
        lexer.after (scan first rest).consumed) := by
      simp [next, hrest, hscan, after]
    have hkind := scan_kind_ne_eof first rest lexeme hscan
    unfold Lexer.tokens
    split
    · simp_all
    · simp_all [tokenOf]

/-- The relation says what the lexer computes. -/
theorem gives_iff : Gives lexer tokens ↔ lexer.tokens = .ok tokens :=
  ⟨Gives.tokens_eq, gives_of_tokens⟩

/-- What a lexer gives depends on what lies behind the trivia ahead. -/
theorem Gives.of_skipTrivia_eq {lexer' : Lexer} (h : Gives lexer tokens)
    (heq : lexer'.skipTrivia = lexer.skipTrivia) : Gives lexer' tokens := by
  cases h with
  | finish hrest =>
    rw [← heq] at hrest ⊢
    exact .finish hrest
  | @token _ first rest lexeme tokens hrest hscan htokens =>
    unfold after at htokens
    rw [← heq] at hrest htokens ⊢
    exact .token hrest hscan htokens

end Lexer

/-! ## Tokens lie inside their text -/

namespace Lexer

/-- A lexer knows how far the end of its text is. -/
def Reaches (lexer : Lexer) (size : Nat) : Prop := lexer.position + lexer.rest.length = size

/-- Passing over trivia, the end stays where it is. -/
theorem Reaches.skipTrivia {lexer : Lexer} {size : Nat} (h : lexer.Reaches size) :
    lexer.skipTrivia.Reaches size := by
  have := Trivia.length_skip false lexer.rest
  simp only [Reaches, Lexer.skipTrivia] at h ⊢
  omega

/-- A scan ends within the text. -/
theorem Reaches.consumed_le {lexer : Lexer} {size : Nat} (h : lexer.Reaches size) {first : Char}
    {rest : List Char} (hrest : lexer.rest = first :: rest) :
    lexer.position + (scan first rest).consumed ≤ size := by
  have := beyond_scan_le first rest
  simp only [Reaches, hrest, List.length_cons] at h
  simp only [Scan.consumed]
  omega

/-- Behind a token, the end stays where it is. -/
theorem Reaches.after {lexer : Lexer} {size : Nat} (h : lexer.Reaches size) {first : Char}
    {rest : List Char} (hrest : lexer.skipTrivia.rest = first :: rest) :
    (lexer.after (scan first rest).consumed).Reaches size := by
  have hle := h.skipTrivia.consumed_le hrest
  have hskip := h.skipTrivia
  simp only [Reaches, Lexer.after, advance, List.length_drop] at hle hskip ⊢
  omega

/-- The tokens ahead lie inside the text. -/
theorem Gives.stop_le {lexer : Lexer} {tokens : List Token} {size : Nat} (h : Gives lexer tokens)
    (hsize : lexer.Reaches size) : ∀ token ∈ tokens, token.range.stop ≤ size := by
  induction h with
  | @finish lexer hrest =>
    have := hsize.skipTrivia
    simp only [Reaches] at this
    simp only [List.mem_singleton, forall_eq, endToken, TextRange.empty]
    omega
  | token hrest _ _ ih =>
    simp only [List.mem_cons, forall_eq_or_imp]
    exact ⟨hsize.skipTrivia.consumed_le hrest, ih (hsize.after hrest)⟩

/-- What a lexer complains about lies inside the text. -/
theorem exists_diagnose_of_tokens {lexer : Lexer} {failure : Failure} {size : Nat}
    (h : lexer.tokens = .error failure) (hsize : lexer.Reaches size) :
    ∃ complaint range, range.stop ≤ size ∧
      failure = .lexical (lexer.source.diagnose complaint range) := by
  fun_induction Lexer.tokens lexer with
  | case1 lexer other behind hnext =>
    cases h
    obtain ⟨first, rest, _, hrest, rfl⟩ := next_eq_error hnext
    exact ⟨_, _, hsize.skipTrivia.consumed_le hrest, rfl⟩
  | case2 => cases h
  | case3 => cases h
  | case4 lexer token behind hnext hkind _ other hother ih =>
    cases h
    obtain ⟨-, rfl⟩ | ⟨first, rest, lexeme, hrest, -, -, rfl⟩ := next_eq_ok hnext
    · exact absurd rfl hkind
    · exact ih hother (hsize.after hrest)

end Lexer

/-- The lexer at the start of a text sees its end. -/
theorem Source.reaches_ofSource (source : Source) :
    (Lexer.ofSource source).Reaches source.index.chars.length := by
  simp [Lexer.Reaches, Lexer.ofSource]

/-- Tokens lie inside their text. -/
theorem Source.stop_le_of_tokens {source : Source} {tokens : List Token}
    (h : source.tokens = .ok tokens) :
    ∀ token ∈ tokens, token.range.stop ≤ source.index.chars.length :=
  (Lexer.gives_of_tokens h).stop_le source.reaches_ofSource

/-- A complaint about the characters of a text is about a range inside the text. -/
theorem Source.exists_diagnose_of_tokens {source : Source} {failure : Failure}
    (h : source.tokens = .error failure) :
    ∃ complaint range, range.stop ≤ source.index.chars.length ∧
      failure = .lexical (source.diagnose complaint range) :=
  Lexer.exists_diagnose_of_tokens h source.reaches_ofSource

/-! ## Tokens that differ in their places -/

/-- Two tokens differ in their places alone, and the places are related. -/
structure Token.Like (places : TextRange → TextRange → Prop) (token token' : Token) : Prop where
  range : places token.range token'.range
  kind_eq : token'.kind = token.kind
  text_eq : token'.text = token.text
  value_eq : token'.value = token.value
  lineBreak_eq : token'.lineBreakBefore = token.lineBreakBefore
  quoted_eq : token'.quoted = token.quoted
  escaped_eq : token'.escaped = token.escaped
  dollars_eq : token'.dollars = token.dollars

/-! ## Texts put together -/

/-- The range that lies `n` characters further on. -/
def TextRange.shift (n : Nat) (range : TextRange) : TextRange :=
  ⟨range.start + n, range.stop + n, Nat.add_le_add_right range.start_le_stop n⟩

namespace Lexer

/-- A token does not depend on the characters behind it, if a line feed stands between. -/
theorem scan_append {first : Char} {rest : List Char} {lexeme : Lexeme}
    (hscan : (scan first rest).outcome = .ok lexeme) (behind : List Char) :
    scan first (rest ++ '\n' :: behind) = scan first rest := by
  have hnext : StandsFor (rest.drop (scan first rest).beyond ++ '\n' :: behind)
      (rest.drop (scan first rest).beyond) := by
    intro c hc
    cases hdrop : rest.drop (scan first rest).beyond with
    | nil => exact .inr (.inr (by simpa [hdrop] using hc.symm))
    | cons d _ => exact .inl (by simpa [hdrop] using hc)
  have := scan_replace hscan hnext
  rwa [← List.append_assoc, List.take_append_drop] at this

/-- The lexer at the same place of a text that goes on behind a line feed. -/
def before (lexer : Lexer) (source : Source) (behind : List Char) : Lexer :=
  ⟨source, lexer.rest ++ '\n' :: behind, lexer.position, lexer.lineBreak⟩

section Before

variable {lexer : Lexer} {first : Char} {rest : List Char} {lexeme : Lexeme} (source : Source)
  (behind : List Char)

/-- What lies behind the text does not change the trivia before a token. -/
theorem skipTrivia_before (hrest : lexer.skipTrivia.rest = first :: rest) :
    (lexer.before source behind).skipTrivia = lexer.skipTrivia.before source behind := by
  have hrest' : (Trivia.skip false lexer.rest).rest = first :: rest := hrest
  have hskip := Trivia.skip_append hrest' ('\n' :: behind)
  simp only [skipTrivia, before, hskip, hrest', List.cons_append]

/-- Nor does it change what is left of the text behind the token. -/
theorem after_before (hrest : lexer.skipTrivia.rest = first :: rest) :
    (lexer.before source behind).after (scan first rest).consumed =
      (lexer.after (scan first rest).consumed).before source behind := by
  have hle := beyond_scan_le first rest
  simp only [after, advance, skipTrivia_before source behind hrest]
  simp only [before, hrest, Scan.consumed, List.cons_append, List.drop_succ_cons]
  rw [List.drop_append_of_le_length hle]

/-- Nor does it change the token. -/
theorem tokenOf_before (hrest : lexer.rest = first :: rest) :
    (lexer.tokenOf lexeme (scan first rest).consumed).Like (fun a b => b = a)
      ((lexer.before source behind).tokenOf lexeme (scan first rest).consumed) := by
  have hle := beyond_scan_le first rest
  have htake : (lexer.before source behind).rest.take (scan first rest).consumed =
      lexer.rest.take (scan first rest).consumed := by
    simp only [before, hrest, Scan.consumed, List.cons_append, List.take_succ_cons]
    rw [List.take_append_of_le_length hle]
  constructor <;> simp only [tokenOf, htake] <;> rfl

end Before

/-- Behind a text and a line feed another text gives its own tokens. -/
theorem Gives.append {lexer : Lexer} {tokens : List Token} (h : Gives lexer tokens)
    {source : Source} {behind : List Char} {tokens' : List Token} {size : Nat}
    (hsize : lexer.Reaches size) (h' : Gives ⟨source, behind, size + 1, true⟩ tokens') :
    ∃ word finish word', tokens = word ++ [finish] ∧
      List.Forall₂ (Token.Like fun a b => b = a) word word' ∧
      Gives (lexer.before source behind) (word' ++ tokens') := by
  induction h with
  | @finish lexer hrest =>
    have hskip := @Trivia.skip_append_of_done _ lexer.rest hrest behind
    have hend : lexer.position + lexer.rest.length = size := hsize
    refine ⟨[], _, [], rfl, .nil, h'.of_skipTrivia_eq ?_⟩
    simp only [skipTrivia, before, hskip, Bool.or_true, Bool.true_or]
    congr 1
    omega
  | @token lexer first rest lexeme tokens hrest hscan _ ih =>
    obtain ⟨word, finish, word', rfl, hword, hgives⟩ := ih (hsize.after hrest)
    refine ⟨_ :: word, finish, _ :: word', rfl,
      .cons (tokenOf_before source behind hrest) hword, ?_⟩
    have hscan' := scan_append hscan behind
    rw [← after_before source behind hrest, ← hscan'] at hgives
    rw [← skipTrivia_before source behind hrest, ← hscan']
    refine .token ?_ (hscan' ▸ hscan) hgives
    rw [skipTrivia_before source behind hrest]
    simp [before, hrest]

/-- The lexer at the same place of a text that begins `n` characters further on. -/
def shift (lexer : Lexer) (source : Source) (n : Nat) : Lexer :=
  ⟨source, lexer.rest, lexer.position + n, lexer.lineBreak⟩

/-- A text that begins further on has its trivia further on. -/
theorem skipTrivia_shift (lexer : Lexer) (source : Source) (n : Nat) :
    (lexer.shift source n).skipTrivia = lexer.skipTrivia.shift source n := by
  simp only [skipTrivia, shift]
  congr 1
  omega

/-- A text that begins further on is also left further on. -/
theorem after_shift (lexer : Lexer) (source : Source) (n length : Nat) :
    (lexer.shift source n).after length = (lexer.after length).shift source n := by
  simp only [after, advance, skipTrivia_shift]
  simp only [shift]
  congr 1
  omega

/-- A text that begins further on gives its tokens further on. -/
theorem Gives.shift {lexer : Lexer} {tokens : List Token} (h : Gives lexer tokens)
    (source : Source) (n : Nat) :
    ∃ tokens', List.Forall₂ (Token.Like fun a b => b = a.shift n) tokens tokens' ∧
      Gives (lexer.shift source n) tokens' := by
  induction h with
  | @finish lexer hrest =>
    have hgives : Gives (lexer.shift source n) _ := .finish (by rwa [skipTrivia_shift])
    rw [skipTrivia_shift] at hgives
    refine ⟨_, .cons ?_ .nil, hgives⟩
    constructor <;> rfl
  | @token lexer first rest lexeme tokens hrest hscan _ ih =>
    obtain ⟨tokens', hlike, hgives⟩ := ih
    have hgives : Gives (lexer.shift source n) _ :=
      .token (by rwa [skipTrivia_shift]) hscan (by rwa [after_shift])
    rw [skipTrivia_shift] at hgives
    refine ⟨_, .cons ?_ hlike, hgives⟩
    constructor <;> simp only [tokenOf, Lexer.shift, TextRange.shift, TextRange.ofLength]
    congr 1
    omega

/-- A line break that was passed before is remembered by the first token alone. -/
theorem Gives.withLineBreak {lexer : Lexer} {tokens : List Token} (h : Gives lexer tokens) :
    ∃ token others, tokens = token :: others ∧
      Gives { lexer with lineBreak := true } ({ token with lineBreakBefore := true } :: others) := by
  cases h with
  | finish hrest =>
    exact ⟨_, [], rfl, @Gives.finish { lexer with lineBreak := true } hrest⟩
  | token hrest hscan htokens =>
    exact ⟨_, _, rfl, @Gives.token { lexer with lineBreak := true } _ _ _ _ hrest hscan htokens⟩

end Lexer

/-- The tokens of texts that are put together with a line feed between them are the tokens
of the one without its end, and then those of the other. -/
theorem Source.tokens_append {text text' : String} {word tokens' : List Token} {finish : Token}
    {path path' : Option String} (htokens : (ofText text path).tokens = .ok (word ++ [finish]))
    (htokens' : (ofText text' path').tokens = .ok tokens') (path'' : Option String) :
    ∃ before token others, List.Forall₂ (Token.Like fun a b => b = a) word before ∧
      List.Forall₂ (Token.Like fun a b => b = a.shift (text.toList.length + 1)) tokens'
        (token :: others) ∧
      (ofText (text ++ "\n" ++ text') path'').tokens =
        .ok (before ++ { token with lineBreakBefore := true } :: others) := by
  let joined := ofText (text ++ "\n" ++ text') path''
  obtain ⟨_, hshift, hgives⟩ :=
    (Lexer.gives_of_tokens htokens').shift joined (text.toList.length + 1)
  obtain ⟨token, others, rfl, hbreak⟩ := hgives.withLineBreak
  obtain ⟨before, end', word', heq, hlike, hgives⟩ := (Lexer.gives_of_tokens htokens).append
    (ofText text path).reaches_ofSource
    (show Lexer.Gives ⟨joined, text'.toList, text.toList.length + 1, true⟩ _ by
      simpa [Lexer.shift, Lexer.ofSource, ofText, LineIndex.ofText, LineIndex.ofChars] using hbreak)
  obtain ⟨rfl, -⟩ := List.append_inj' heq rfl
  refine ⟨word', token, others, hlike, hshift, Lexer.Gives.tokens_eq ?_⟩
  simpa [Lexer.before, Lexer.ofSource, ofText, LineIndex.ofText, LineIndex.ofChars, joined]
    using hgives

/-! ## Tokens written again -/

/-- A token as it is written again: its text behind one line feed or space. -/
def Token.spaced (token : Token) : List Char :=
  (if token.lineBreakBefore then '\n' else ' ') :: token.text.toList

/-- Tokens written one behind the other. -/
def respaced (tokens : List Token) : String := String.ofList (tokens.flatMap Token.spaced)

namespace Lexer

/-- A separator is passed over, and tells by its kind whether a line break was. -/
theorem skipTrivia_separator {lexer : Lexer} {lineBreak : Bool} {chars : List Char}
    (hrest : lexer.rest = (if lineBreak then '\n' else ' ') :: chars)
    (hbreak : lexer.lineBreak = false)
    (hchars : Trivia.skip false chars = ⟨0, false, chars⟩) :
    lexer.skipTrivia = ⟨lexer.source, chars, lexer.position + 1, lineBreak⟩ := by
  cases lineBreak <;> simp_all [skipTrivia, Trivia.skip]

/-- What is written again begins with a space or a line feed. -/
theorem standsFor_respaced (tokens : List Token) (after : List Char) :
    StandsFor (tokens.flatMap Token.spaced) after := by
  intro c hc
  cases tokens with
  | nil => cases hc
  | cons token tokens =>
    obtain rfl : (if token.lineBreakBefore then '\n' else ' ') = c := Option.some.inj hc
    cases token.lineBreakBefore <;> simp

/-- Tokens that are written again are read again. -/
theorem Gives.respaced {lexer lexer' : Lexer} {tokens : List Token} (h : Gives lexer tokens)
    (hrest' : lexer'.rest = tokens.flatMap Token.spaced) (hbreak : lexer'.lineBreak = false) :
    ∃ tokens', List.Forall₂ (Token.Like fun _ _ => True) tokens tokens' ∧ Gives lexer' tokens' := by
  induction h generalizing lexer' with
  | @finish lexer hrest =>
    have hskip := @skipTrivia_separator _ lexer.skipTrivia.lineBreak [] hrest' hbreak rfl
    refine ⟨_, .cons ?_ .nil, .finish (by rw [hskip])⟩
    rw [hskip]
    constructor <;> trivial
  | @token lexer first rest lexeme tokens hrest hscan _ ih =>
    have hblank := @Trivia.not_isBlank_of_skip _ lexer.rest _ _ hrest
    have hscan' := scan_replace hscan (standsFor_respaced tokens _)
    have hspaced : lexer'.rest = (if lexer.skipTrivia.lineBreak then '\n' else ' ') ::
        first :: (rest.take (scan first rest).beyond ++ tokens.flatMap Token.spaced) := by
      simp [hrest', Token.spaced, tokenOf, hrest, Scan.consumed]
    have hskip := skipTrivia_separator hspaced hbreak (Trivia.skip_of_not_isBlank hblank _)
    have hlength : (rest.take (scan first rest).beyond).length = (scan first rest).beyond :=
      List.length_take_of_le (beyond_scan_le first rest)
    obtain ⟨tokens', hlike, hgives⟩ :=
      @ih (lexer'.after (scan first rest).consumed)
        (by simp [after, advance, hskip, Scan.consumed, List.drop_left' hlength]) rfl
    rw [← hscan'] at hgives
    refine ⟨_, .cons ?_ hlike, .token (by rw [hskip]) (hscan' ▸ hscan) hgives⟩
    rw [hscan', hskip]
    constructor <;> simp [tokenOf, hrest, Scan.consumed, List.take_left' hlength]

end Lexer

/-- The tokens of a text are read again from their texts, each behind one line feed or
space. -/
theorem Source.tokens_respaced {source : Source} {tokens : List Token}
    (h : source.tokens = .ok tokens) (path : Option String) :
    ∃ tokens', List.Forall₂ (Token.Like fun _ _ => True) tokens tokens' ∧
      (ofText (respaced tokens) path).tokens = .ok tokens' := by
  obtain ⟨tokens', hlike, hgives⟩ := @Lexer.Gives.respaced _
    (Lexer.ofSource (ofText (respaced tokens) path)) _ (Lexer.gives_of_tokens h)
    (by simp [Lexer.ofSource, ofText, LineIndex.ofText, LineIndex.ofChars, Rune.respaced]) rfl
  exact ⟨tokens', hlike, hgives.tokens_eq⟩

end Rune