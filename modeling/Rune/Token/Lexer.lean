import Rune.Failure
import Rune.Token.Scan

/-!
# Rune - the stream of tokens

A lexer walks through a source.  Spaces, comments and line breaks are passed
over; a token remembers whether a line break lay before it.  After a complaint
the lexer stands behind the characters that were given up and can go on.

Main results:

- Definition {lit}`Lexer.next` gives the next token or a complaint, and the lexer
  after it.
- Definition {lit}`Source.tokens` gives all tokens of a source up to its end.
- Theorem {lit}`Lexer.next_rest_lt`: every token but the last shortens what lies
  ahead.
-/

namespace Rune

/-! ## Trivia -/

/-- What lies before a token: how many characters, whether a line feed is among
them, and the characters after them. -/
structure Trivia where
  length : Nat
  lineBreak : Bool
  rest : List Char

namespace Trivia

/-- Pass over spaces, line feeds and comments.  `inComment` says that a comment
is still open; a line feed closes it. -/
def skip (inComment : Bool) : List Char → Trivia
  | [] => ⟨0, false, []⟩
  | c :: rest =>
    if c = '\n' then
      let after := skip false rest
      { after with length := after.length + 1, lineBreak := true }
    else if inComment || c = '#' then
      let after := skip true rest
      { after with length := after.length + 1 }
    else if c = ' ' || c = '\t' || c = '\r' then
      let after := skip false rest
      { after with length := after.length + 1 }
    else ⟨0, false, c :: rest⟩

/-- Passing over trivia never lengthens what lies ahead. -/
theorem skip_rest_length_le (inComment : Bool) (chars : List Char) :
    (skip inComment chars).rest.length ≤ chars.length := by
  induction chars generalizing inComment with
  | nil => simp [skip]
  | cons c rest ih =>
    simp only [skip]
    split
    · exact Nat.le_succ_of_le (ih false)
    · split
      · exact Nat.le_succ_of_le (ih true)
      · split
        · exact Nat.le_succ_of_le (ih false)
        · exact Nat.le_refl _

end Trivia

/-! ## The lexer -/

/-- A place in a source: the characters ahead, their offset, and whether a line
break was passed since the last token. -/
structure Lexer where
  source : Source
  rest : List Char
  position : Nat
  lineBreak : Bool

namespace Lexer

/-- The lexer at the start of a source. -/
def ofSource (source : Source) : Lexer := ⟨source, source.index.chars, 0, false⟩

/-- Whether no character lies ahead. -/
def isDone (lexer : Lexer) : Bool := lexer.rest.isEmpty

/-- The lexer behind the trivia that lie ahead. -/
def skipTrivia (lexer : Lexer) : Lexer :=
  let trivia := Trivia.skip false lexer.rest
  { lexer with
    rest := trivia.rest
    position := lexer.position + trivia.length
    lineBreak := lexer.lineBreak || trivia.lineBreak }

/-- The token that ends every stream, at the place of the lexer. -/
def endToken (lexer : Lexer) : Token :=
  let place := lexer.source.index.lineColumn lexer.position
  { kind := .eof
    range := TextRange.empty lexer.position
    text := ""
    value := ""
    line := place.line
    column := place.column
    lineBreakBefore := lexer.lineBreak
    quoted := false
    escaped := false
    dollars := [] }

/-- The token of a lexeme whose characters begin at the lexer. -/
def tokenOf (lexer : Lexer) (lexeme : Lexeme) (length : Nat) : Token :=
  let place := lexer.source.index.lineColumn lexer.position
  let text := String.ofList (lexer.rest.take length)
  { kind := lexeme.kind
    range := TextRange.ofLength lexer.position length
    text := text
    value := lexeme.contents.getD text
    line := place.line
    column := place.column
    lineBreakBefore := lexer.lineBreak
    quoted := lexeme.quoted
    escaped := lexeme.escaped
    dollars := lexeme.dollars }

/-- The lexer `length` characters further on. -/
def advance (lexer : Lexer) (length : Nat) : Lexer :=
  { lexer with rest := lexer.rest.drop length, position := lexer.position + length }

/-- The next token or a complaint, and the lexer after it.  A complaint leaves
the line break for the token that follows. -/
def next (lexer : Lexer) : Except Failure Token × Lexer :=
  let here := lexer.skipTrivia
  match here.rest with
  | [] => (.ok here.endToken, here)
  | first :: rest =>
    let found := scan first rest
    let after := here.advance found.consumed
    match found.outcome with
    | .ok lexeme => (.ok (here.tokenOf lexeme found.consumed), { after with lineBreak := false })
    | .error fault =>
      let range := TextRange.ofLength here.position found.consumed
      (.error (.lexical (here.source.diagnose fault.complaint range)), after)

/-- Only an end token is an end. -/
theorem scan_kind_ne_eof (first : Char) (rest : List Char) (lexeme : Lexeme)
    (h : (scan first rest).outcome = .ok lexeme) : lexeme.kind ≠ .eof := by
  have hword : ∀ word kind, TokenKind.ofWord? word = some kind → kind ≠ .eof := by
    intro word kind h
    unfold TokenKind.ofWord? at h
    repeat' (split at h)
    all_goals first | (cases h; decide) | cases h
  unfold scan at h
  split at h
  · simp only [scanRawString] at h
    split at h <;> cases h
    exact nofun
  split at h
  · simp only [scanString] at h
    split at h <;> cases h
    exact nofun
  split at h
  · unfold scanNumber at h
    dsimp only at h
    split at h
    · cases h
    · cases h
      dsimp only [Lexeme.plain]
      split <;> decide
  split at h
  · cases h
  split at h
  · simp only [scanWord, Except.ok.injEq] at h
    subst h
    simp only [Lexeme.plain]
    cases hk : TokenKind.ofWord? (String.ofList (first :: rest.takeWhile continuesWord)) with
    | none => simp
    | some kind => simpa using hword _ _ hk
  split at h
  · unfold scanNamespace TokenKind.ofNamespace? at h
    dsimp only at h
    split at h
    · rename_i kind hk
      cases h
      split at hk
      · cases hk; decide
      · split at hk <;> cases hk
        decide
    · cases h
  split at h
  · rename_i kind hk
    cases h
    unfold TokenKind.ofPunctuation? at hk
    split at hk <;> cases hk <;> decide
  · cases h

/-- Every token but the last shortens what lies ahead. -/
theorem next_rest_lt {lexer after : Lexer} {token : Token}
    (h : lexer.next = (.ok token, after)) (hkind : token.kind ≠ .eof) :
    after.rest.length < lexer.rest.length := by
  have hskip : lexer.skipTrivia.rest.length ≤ lexer.rest.length :=
    Trivia.skip_rest_length_le false lexer.rest
  unfold next at h
  dsimp only at h
  split at h
  · cases h
    exact absurd rfl hkind
  · rename_i first rest hrest
    rw [hrest] at hskip
    split at h
    · cases h
      have := (scan first rest).consumed_pos
      simp only [advance, hrest, List.length_drop, List.length_cons] at hskip ⊢
      omega
    · cases h

/-- The tokens from a place on, up to the end. -/
def tokens (lexer : Lexer) : Except Failure (List Token) :=
  match h : lexer.next with
  | (.error failure, _) => .error failure
  | (.ok token, after) =>
    if hkind : token.kind = .eof then .ok [token]
    else
      have := next_rest_lt h hkind
      match tokens after with
      | .ok rest => .ok (token :: rest)
      | .error failure => .error failure
termination_by lexer.rest.length

end Lexer

/-- The tokens of a source; the last one is its end. -/
def Source.tokens (source : Source) : Except Failure (List Token) :=
  (Lexer.ofSource source).tokens

end Rune
