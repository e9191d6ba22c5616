import Mathlib.Order.Monotone.Basic
import Rune.Proofs.Text.Lines
import Rune.Proofs.Token.Streams

/-!
# Rune - a lexer covers its text

A lexer may be called on and on, behind complaints and behind the end.  The spans that
the calls take follow one another and lie inside the text, nothing but trivia stands
between them, and no call takes nothing unless the end is reached.  So the calls come to
the end of the text, whatever the text is.

Main results:

- Relation {lit}`Gap` says what may stand between two spans.
- Structure {lit}`Lexer.Covers` says what all calls on one lexer come to.
- Theorem {lit}`Source.lexer_covers`: the calls on the lexer of a text cover the text.
-/

namespace Rune

/-! ## Gaps -/

/-- Characters that belong to no token, before others: spaces, tabs, carriage returns,
line feeds and comments.  A comment is complete: the line ends behind it. -/
inductive Gap : List Char → List Char → Prop
  | nil (after : List Char) : Gap [] after
  | blank {c : Char} {gap after : List Char} (hblank : c = ' ' ∨ c = '\t' ∨ c = '\r' ∨ c = '\n')
      (hgap : Gap gap after) : Gap (c :: gap) after
  | comment {body gap after : List Char} (hbody : '\n' ∉ body)
      (hend : (gap ++ after).head?.all (· = '\n')) (hgap : Gap gap after) :
    Gap ('#' :: (body ++ gap)) after

namespace Trivia

variable {inComment : Bool} {chars : List Char}

/-- What is passed over and what is left are the characters that were there. -/
theorem rest_skip (inComment : Bool) (chars : List Char) :
    (skip inComment chars).rest = chars.drop (skip inComment chars).length := by
  fun_induction skip inComment chars <;> simp_all +zetaDelta

/-- A line break is told if a line feed is passed over. -/
theorem lineBreak_skip (inComment : Bool) (chars : List Char) :
    (skip inComment chars).lineBreak = true ↔
      '\n' ∈ chars.take (skip inComment chars).length := by
  fun_induction skip inComment chars with
  | case1 => simp
  | case2 inComment rest after ih => simp
  | case3 inComment c rest hfeed hcomment after ih => simpa [Ne.symm hfeed] using ih
  | case4 inComment c rest hfeed hcomment hblank after ih => simpa [Ne.symm hfeed] using ih
  | case5 => simp

/-- What is passed over within a comment is the rest of the comment, which goes on to the
end of the line, and a gap. -/
def Leaves (inComment : Bool) (taken after : List Char) : Prop :=
  if inComment then
    ∃ body gap, taken = body ++ gap ∧ '\n' ∉ body ∧ (gap ++ after).head?.all (· = '\n') ∧
      Gap gap after
  else Gap taken after

theorem leaves_skip (inComment : Bool) (chars : List Char) :
    Leaves inComment (chars.take (skip inComment chars).length)
      (chars.drop (skip inComment chars).length) := by
  fun_induction skip inComment chars with
  | case1 inComment =>
    cases inComment with
    | false => exact .nil _
    | true => exact ⟨[], [], rfl, List.not_mem_nil, rfl, .nil _⟩
  | case2 inComment rest after ih =>
    have hgap : Gap ('\n' :: rest.take (skip false rest).length)
        (rest.drop (skip false rest).length) := .blank (by simp) ih
    cases inComment with
    | false => exact hgap
    | true => exact ⟨[], _, rfl, List.not_mem_nil, rfl, hgap⟩
  | case3 inComment c rest hfeed hcomment after ih =>
    obtain ⟨body, gap, htaken, hbody, hend, hgap⟩ := ih
    cases inComment with
    | false =>
      obtain rfl : c = '#' := by simpa using hcomment
      change Gap ('#' :: rest.take (skip true rest).length) (rest.drop (skip true rest).length)
      rw [htaken]
      exact .comment hbody hend hgap
    | true =>
      refine ⟨c :: body, gap, congrArg (c :: ·) htaken, ?_, hend, hgap⟩
      simpa [eq_comm] using ⟨hfeed, hbody⟩
  | case4 inComment c rest hfeed hcomment hblank after ih =>
    obtain ⟨rfl, -⟩ : inComment = false ∧ c ≠ '#' := by simpa using hcomment
    refine Gap.blank ?_ ih
    simp at hblank
    tauto
  | case5 inComment c rest hfeed hcomment hblank =>
    obtain ⟨rfl, -⟩ : inComment = false ∧ c ≠ '#' := by simpa using hcomment
    exact .nil _

/-- Trivia are a gap. -/
theorem gap_skip (chars : List Char) :
    Gap (chars.take (skip false chars).length) (chars.drop (skip false chars).length) :=
  leaves_skip false chars

end Trivia

/-! ## One call -/

/-- The characters of a text from one offset to another. -/
def slice (chars : List Char) (start stop : Nat) : List Char :=
  (chars.drop start).take (stop - start)

namespace Lexer

/-- A call gives the end, a token or a complaint. -/
inductive Calls (lexer : Lexer) : Except Failure Token × Lexer → Prop
  | finish (hrest : lexer.skipTrivia.rest = []) :
    Calls lexer (.ok lexer.skipTrivia.endToken, lexer.skipTrivia)
  | token {first : Char} {rest : List Char} {lexeme : Lexeme}
      (hrest : lexer.skipTrivia.rest = first :: rest)
      (hscan : (scan first rest).outcome = .ok lexeme) :
    Calls lexer (.ok (lexer.skipTrivia.tokenOf lexeme (scan first rest).consumed),
      lexer.after (scan first rest).consumed)
  | complaint {first : Char} {rest : List Char} {fault : LexFault}
      (hrest : lexer.skipTrivia.rest = first :: rest)
      (hscan : (scan first rest).outcome = .error fault) :
    Calls lexer (.error (.lexical (lexer.skipTrivia.source.diagnose fault.complaint
        (.ofLength lexer.skipTrivia.position (scan first rest).consumed))),
      lexer.skipTrivia.advance (scan first rest).consumed)

theorem next_of_end {lexer : Lexer} (hrest : lexer.skipTrivia.rest = []) :
    lexer.next = (.ok lexer.skipTrivia.endToken, lexer.skipTrivia) := by
  simp [next, hrest]

section Ahead

variable {lexer : Lexer} {first : Char} {rest : List Char}

theorem next_of_token {lexeme : Lexeme} (hrest : lexer.skipTrivia.rest = first :: rest)
    (hscan : (scan first rest).outcome = .ok lexeme) :
    lexer.next = (.ok (lexer.skipTrivia.tokenOf lexeme (scan first rest).consumed),
      lexer.after (scan first rest).consumed) := by
  simp [next, hrest, hscan, after]

theorem next_of_fault {fault : LexFault} (hrest : lexer.skipTrivia.rest = first :: rest)
    (hscan : (scan first rest).outcome = .error fault) :
    lexer.next = (.error (.lexical (lexer.skipTrivia.source.diagnose fault.complaint
        (.ofLength lexer.skipTrivia.position (scan first rest).consumed))),
      lexer.skipTrivia.advance (scan first rest).consumed) := by
  simp [next, hrest, hscan]

end Ahead

theorem calls_next (lexer : Lexer) : lexer.Calls lexer.next := by
  cases hrest : lexer.skipTrivia.rest with
  | nil => exact next_of_end hrest ▸ .finish hrest
  | cons first rest =>
    cases hscan : (scan first rest).outcome with
    | ok lexeme => exact next_of_token hrest hscan ▸ .token hrest hscan
    | error fault => exact next_of_fault hrest hscan ▸ .complaint hrest hscan

/-- The range of what a call gives: of the token or of the complaint. -/
def spanOf : Except Failure Token → TextRange
  | .ok token => token.range
  | .error failure => (failure.diagnostic?.map (·.range)).getD (TextRange.empty 0)

/-- What a call gives is a token before the end. -/
def IsToken (answer : Except Failure Token) : Prop :=
  ∃ token, answer = .ok token ∧ token.kind ≠ .eof

/-- What a call gives is the end. -/
def IsEnd (answer : Except Failure Token) : Prop :=
  ∃ token, answer = .ok token ∧ token.kind = .eof

/-- A lexer is inside a text. -/
structure Inside (lexer : Lexer) (chars : List Char) : Prop where
  index_eq : lexer.source.index = LineIndex.ofChars chars
  rest_eq : lexer.rest = chars.drop lexer.position
  position_le : lexer.position ≤ chars.length

/-- A token is told as it stands in a text: with its characters, and with the line and
the column at which it begins. -/
structure TellsPlace (token : Token) (chars : List Char) : Prop where
  text_eq : token.text.toList = slice chars token.range.start token.range.stop
  line_eq : token.line = (chars.take token.range.start).count '\n' + 1
  column_eq : token.column =
    ((chars.take token.range.start).rtakeWhile (· ≠ '\n')).length + 1

/-- What one call comes to: it passes over the trivia ahead and takes a span, which is
empty at the end of the text alone. -/
structure Takes (lexer : Lexer) (chars : List Char) (answer : Except Failure Token)
    (behind : Lexer) : Prop where
  inside : behind.Inside chars
  start_eq : (spanOf answer).start = lexer.skipTrivia.position
  stop_eq : (spanOf answer).stop = behind.position
  start_lt : ¬IsEnd answer → (spanOf answer).start < (spanOf answer).stop
  finish : IsEnd answer → (spanOf answer).start = chars.length ∧ behind.position = chars.length
  lexical : ∀ failure, answer = .error failure → ∃ d, failure = .lexical d ∧ d.PointsInto chars
  token : ∀ token, answer = .ok token →
    TellsPlace token chars ∧ token.lineBreakBefore = lexer.skipTrivia.lineBreak
  lineBreak_of_token : IsToken answer → behind.lineBreak = false
  lineBreak_of_not : ¬IsToken answer → behind.lineBreak = lexer.skipTrivia.lineBreak

namespace Inside

variable {lexer : Lexer} {chars : List Char}

theorem reaches (h : lexer.Inside chars) : lexer.Reaches chars.length := by
  have := h.position_le
  simp only [Reaches, h.rest_eq, List.length_drop]
  omega

theorem skipTrivia (h : lexer.Inside chars) : lexer.skipTrivia.Inside chars where
  index_eq := h.index_eq
  rest_eq := by simp [Lexer.skipTrivia, Trivia.rest_skip, h.rest_eq]
  position_le := by
    have := h.reaches.skipTrivia
    simp only [Reaches] at this
    omega

theorem advance (h : lexer.Inside chars) {first : Char} {rest : List Char}
    (hrest : lexer.rest = first :: rest) (lineBreak : Bool) :
    { lexer.advance (scan first rest).consumed with lineBreak := lineBreak }.Inside chars where
  index_eq := h.index_eq
  rest_eq := by simp [Lexer.advance, h.rest_eq]
  position_le := h.reaches.consumed_le hrest

theorem position_eq (h : lexer.Inside chars) (hrest : lexer.rest = []) :
    lexer.position = chars.length := by
  simpa [Reaches, hrest] using h.reaches

/-- The line and the column of a lexer are counted in the text. -/
theorem lineColumn_eq (h : lexer.Inside chars) :
    lexer.source.index.lineColumn lexer.position =
      { line := (chars.take lexer.position).count '\n' + 1
        column := ((chars.take lexer.position).rtakeWhile (· ≠ '\n')).length + 1 } := by
  rw [h.index_eq, LineIndex.lineColumn_take h.position_le, LineIndex.tail]

theorem tellsPlace_endToken (h : lexer.Inside chars) : TellsPlace lexer.endToken chars where
  text_eq := by simp [endToken, TextRange.empty, slice]
  line_eq := by simp [endToken, TextRange.empty, h.lineColumn_eq]
  column_eq := by simp [endToken, TextRange.empty, h.lineColumn_eq]

theorem tellsPlace_tokenOf (h : lexer.Inside chars) (lexeme : Lexeme) (length : Nat) :
    TellsPlace (lexer.tokenOf lexeme length) chars where
  text_eq := by simp [tokenOf, TextRange.ofLength, slice, h.rest_eq]
  line_eq := by simp [tokenOf, TextRange.ofLength, h.lineColumn_eq]
  column_eq := by simp [tokenOf, TextRange.ofLength, h.lineColumn_eq]

/-- A complaint of a lexer tells its place in the text. -/
theorem pointsInto_diagnose (h : lexer.Inside chars) (complaint : Complaint) {range : TextRange}
    (hrange : range.stop ≤ chars.length) :
    (lexer.source.diagnose complaint range).PointsInto chars := by
  have hsource : lexer.source = Source.ofText (String.ofList chars) lexer.source.path := by
    simp [Source.ofText, LineIndex.ofText, ← h.index_eq]
  rw [hsource]
  simpa using Source.pointsInto_diagnose (String.ofList chars) lexer.source.path complaint
    (by simpa using hrange)

/-- What the next call comes to. -/
theorem takes_next (h : lexer.Inside chars) : lexer.Takes chars lexer.next.1 lexer.next.2 := by
  have hhere := h.skipTrivia
  have hcalls := lexer.calls_next
  generalize lexer.next = found at hcalls ⊢
  cases hcalls with
  | finish hrest =>
    have hend := hhere.position_eq hrest
    exact {
      inside := hhere
      start_eq := rfl
      stop_eq := rfl
      start_lt := fun hnot => absurd ⟨_, rfl, rfl⟩ hnot
      finish := fun _ => ⟨hend, hend⟩
      lexical := by rintro _ ⟨⟩
      token := by rintro _ ⟨⟩; exact ⟨hhere.tellsPlace_endToken, rfl⟩
      lineBreak_of_token := by rintro ⟨_, ⟨⟩, hkind⟩; exact absurd rfl hkind
      lineBreak_of_not := fun _ => rfl }
  | @token first rest lexeme hrest hscan =>
    have hpos := (scan first rest).consumed_pos
    have hkind := scan_kind_ne_eof first rest lexeme hscan
    have hinside := hhere.advance hrest false
    generalize (scan first rest).consumed = length at hpos hinside ⊢
    exact {
      inside := hinside
      start_eq := rfl
      stop_eq := rfl
      start_lt := fun _ => Nat.lt_add_of_pos_right hpos
      finish := by rintro ⟨_, ⟨⟩, heof⟩; exact absurd heof hkind
      lexical := by rintro _ ⟨⟩
      token := by rintro _ ⟨⟩; exact ⟨hhere.tellsPlace_tokenOf _ _, rfl⟩
      lineBreak_of_token := fun _ => rfl
      lineBreak_of_not := fun hnot => absurd ⟨_, rfl, hkind⟩ hnot }
  | @complaint first rest fault hrest hscan =>
    have hpos := (scan first rest).consumed_pos
    have hinside := hhere.advance hrest lexer.skipTrivia.lineBreak
    generalize (scan first rest).consumed = length at hpos hinside ⊢
    exact {
      inside := hinside
      start_eq := rfl
      stop_eq := rfl
      start_lt := fun _ => Nat.lt_add_of_pos_right hpos
      finish := nofun
      lexical := by
        rintro _ ⟨⟩
        exact ⟨_, rfl, hhere.pointsInto_diagnose _ hinside.position_le⟩
      token := by rintro _ ⟨⟩
      lineBreak_of_token := nofun
      lineBreak_of_not := fun _ => rfl }

end Inside

/-! ## All calls -/

/-- The lexer after a number of calls. -/
def later (lexer : Lexer) : Nat → Lexer
  | 0 => lexer
  | n + 1 => (lexer.later n).next.2

/-- What the call after `n` others gives. -/
def answer (lexer : Lexer) (n : Nat) : Except Failure Token := (lexer.later n).next.1

/-- The span that the call after `n` others takes. -/
def span (lexer : Lexer) (n : Nat) : TextRange := spanOf (lexer.answer n)

/-- What the call after `n` others passes over, before its span. -/
def gap (lexer : Lexer) (chars : List Char) (n : Nat) : List Char :=
  slice chars (lexer.later n).position (lexer.span n).start

/-- A line feed was passed over since the last token. -/
def Broken (lexer : Lexer) (chars : List Char) (n : Nat) : Prop :=
  ∃ i ≤ n, '\n' ∈ lexer.gap chars i ∧ ∀ j, i ≤ j → j < n → ¬IsToken (lexer.answer j)

/-- The calls on a lexer cover a text.  Every call takes a span that begins behind the
place of the lexer and ends where the call leaves it, within the text, and that is empty
only if the call gives the end.  Spans follow one another, with gaps before them.  Tokens
and complaints tell their place, and a token tells whether a line feed was passed over
since the token before it.  As many calls as the text has characters come to its end. -/
structure Covers (lexer : Lexer) (chars : List Char) : Prop where
  bounds : ∀ n, (lexer.later n).position ≤ (lexer.span n).start ∧
    (lexer.span n).stop = (lexer.later (n + 1)).position ∧
    (lexer.later (n + 1)).position ≤ chars.length
  nonempty : ∀ n, ¬IsEnd (lexer.answer n) → (lexer.span n).start < (lexer.span n).stop
  apart : ∀ i j, i < j → (lexer.span i).stop ≤ (lexer.span j).start
  gaps : ∀ n, Gap (lexer.gap chars n) (chars.drop (lexer.span n).start)
  complaints : ∀ n failure, lexer.answer n = .error failure →
    ∃ d, failure = .lexical d ∧ d.PointsInto chars
  tokens : ∀ n token, lexer.answer n = .ok token → TellsPlace token chars
  lineBreaks : ∀ n token, lexer.answer n = .ok token →
    (token.lineBreakBefore = true ↔ lexer.Broken chars n)
  finish : ∀ n, chars.length ≤ n → ∃ token, lexer.answer n = .ok token ∧ token.kind = .eof ∧
    token.range = TextRange.empty chars.length

section Calls

variable {lexer : Lexer} {chars : List Char}

/-- However many calls are made, the lexer stays inside the text. -/
theorem Inside.later (h : lexer.Inside chars) (n : Nat) : (lexer.later n).Inside chars := by
  induction n with
  | zero => exact h
  | succ n ih => exact ih.takes_next.inside

/-- What a call comes to, however many calls were made before. -/
theorem Inside.takes (h : lexer.Inside chars) (n : Nat) :
    (lexer.later n).Takes chars (lexer.answer n) (lexer.later (n + 1)) :=
  (h.later n).takes_next

theorem Inside.position_le_start (h : lexer.Inside chars) (n : Nat) :
    (lexer.later n).position ≤ (lexer.span n).start := by
  rw [span, (h.takes n).start_eq]
  exact Nat.le_add_right _ _

/-- A call goes on from where the lexer is. -/
theorem Inside.position_le_stop (h : lexer.Inside chars) (n : Nat) :
    (lexer.later n).position ≤ (lexer.later (n + 1)).position := by
  have := (lexer.span n).start_le_stop
  rw [← (h.takes n).stop_eq]
  exact Nat.le_trans (h.position_le_start n) this

/-- Calls only go on. -/
theorem Inside.position_mono (h : lexer.Inside chars) :
    Monotone fun n => (lexer.later n).position :=
  monotone_nat_of_le_succ h.position_le_stop

/-- Every call takes a character, until the end is reached. -/
theorem Inside.progress (h : lexer.Inside chars) (n : Nat) :
    n ≤ (lexer.later n).position ∨ (lexer.later n).position = chars.length := by
  induction n with
  | zero => exact .inl (Nat.zero_le _)
  | succ n ih =>
    have htakes := h.takes n
    by_cases hend : IsEnd (lexer.answer n)
    · exact .inr (htakes.finish hend).2
    · have hlt := htakes.start_lt hend
      have hstart := h.position_le_start n
      have hle := htakes.inside.position_le
      rw [htakes.stop_eq] at hlt
      simp only [span] at hstart
      omega

/-- What a call passes over is what the lexer skips. -/
theorem Inside.gap_eq (h : lexer.Inside chars) (n : Nat) :
    lexer.gap chars n =
      (lexer.later n).rest.take (Trivia.skip false (lexer.later n).rest).length := by
  rw [gap, span, (h.takes n).start_eq, slice, ← (h.later n).rest_eq]
  simp [Lexer.skipTrivia]

/-- What a call passes over is a gap. -/
theorem Inside.gap (h : lexer.Inside chars) (n : Nat) :
    Gap (lexer.gap chars n) (chars.drop (lexer.span n).start) := by
  have hgap := Trivia.gap_skip (lexer.later n).rest
  rw [← h.gap_eq n, ← Trivia.rest_skip] at hgap
  have hrest := (h.later n).skipTrivia.rest_eq
  rw [← (h.takes n).start_eq] at hrest
  rwa [span, ← hrest]

/-- A lexer remembers the line feeds that were passed over since the last token. -/
theorem Inside.lineBreak_iff (h : lexer.Inside chars) (hbreak : lexer.lineBreak = false) (n : Nat) :
    (lexer.later n).skipTrivia.lineBreak = true ↔ lexer.Broken chars n := by
  have hskip (n : Nat) : (lexer.later n).skipTrivia.lineBreak = true ↔
      (lexer.later n).lineBreak = true ∨ '\n' ∈ lexer.gap chars n := by
    rw [h.gap_eq n, ← Trivia.lineBreak_skip]
    simp [Lexer.skipTrivia]
  induction n with
  | zero =>
    rw [hskip]
    simp [Lexer.later, hbreak, Broken]
  | succ n ih =>
    rw [hskip]
    by_cases htoken : IsToken (lexer.answer n)
    · rw [(h.takes n).lineBreak_of_token htoken]
      simp only [Bool.false_eq_true, false_or]
      refine ⟨fun hmem => ⟨n + 1, Nat.le_refl _, hmem, fun j hle hlt => by omega⟩, ?_⟩
      rintro ⟨i, hi, hmem, hnone⟩
      obtain hlt | rfl := Nat.lt_or_eq_of_le hi
      · exact absurd htoken (hnone n (by omega) (by omega))
      · exact hmem
    · rw [(h.takes n).lineBreak_of_not htoken]
      refine (or_congr_left ih).trans ?_
      constructor
      · rintro (⟨i, hi, hmem, hnone⟩ | hmem)
        · refine ⟨i, by omega, hmem, fun j hle hlt => ?_⟩
          obtain hlt | rfl : j < n ∨ j = n := by omega
          · exact hnone j hle hlt
          · exact htoken
        · exact ⟨n + 1, Nat.le_refl _, hmem, fun j hle hlt => by omega⟩
      · rintro ⟨i, hi, hmem, hnone⟩
        obtain hlt | rfl := Nat.lt_or_eq_of_le hi
        · exact .inl ⟨i, by omega, hmem, fun j hle hlt => hnone j hle (by omega)⟩
        · exact .inr hmem

/-- Behind as many calls as there are characters, only the end is left. -/
theorem Inside.isEnd (h : lexer.Inside chars) {n : Nat} (hn : chars.length ≤ n) :
    IsEnd (lexer.answer n) := by
  by_contra hend
  have hlt := (h.takes n).start_lt hend
  have hstart := h.position_le_start n
  have hle := (h.takes n).inside.position_le
  have hprogress := h.progress n
  rw [(h.takes n).stop_eq] at hlt
  simp only [span] at hstart
  omega

/-- The calls on a lexer inside a text cover the text from there on. -/
theorem Inside.covers (h : lexer.Inside chars) (hbreak : lexer.lineBreak = false) :
    lexer.Covers chars where
  bounds n := ⟨h.position_le_start n, (h.takes n).stop_eq, (h.takes n).inside.position_le⟩
  nonempty n := (h.takes n).start_lt
  apart i j hij := by
    rw [span, (h.takes i).stop_eq]
    exact Nat.le_trans (h.position_mono hij) (h.position_le_start j)
  gaps := h.gap
  complaints n := (h.takes n).lexical
  tokens n token htoken := ((h.takes n).token token htoken).1
  lineBreaks n token htoken := by
    rw [((h.takes n).token token htoken).2]
    exact h.lineBreak_iff hbreak n
  finish n hn := by
    obtain ⟨token, htoken, hkind⟩ := h.isEnd hn
    obtain ⟨hstart, hstop⟩ := (h.takes n).finish ⟨token, htoken, hkind⟩
    rw [← (h.takes n).stop_eq] at hstop
    rw [htoken] at hstart hstop
    exact ⟨token, htoken, hkind, TextRange.ext hstart hstop⟩

end Calls

end Lexer

/-- The calls on the lexer of a text cover the text. -/
theorem Source.lexer_covers (text : String) (path : Option String) :
    (Lexer.ofSource (ofText text path)).Covers text.toList :=
  Lexer.Inside.covers ⟨rfl, rfl, Nat.zero_le _⟩ rfl

end Rune
