import Rune.Proofs.Token.Streams

/-!
# Rune - how a quoted string is written

Between its quotes a string is a list of marks.  A mark is a character that stands for
itself, or a backslash with the character that it takes along.  Each mark gives one
character of the contents, and the offsets that a token remembers are those of the dollar
signs among the plain marks.

Main results:

- Theorem {lit}`scanString_eq_ok_iff`: the strings that a scan takes are the lists of marks
  between two quotes, and what it finds is what the marks give.
- Theorem {lit}`Source.writtenAs_of_tokens`: every string token of a text is written so.
- Theorem {lit}`Source.tokens_written`: whatever is written so is a text with one token.
-/

namespace Rune

/-- One character between the quotes of a string as it is written: by itself, or behind a
backslash. -/
inductive Mark where
  | plain (c : Char)
  | escaped (c : Char)
  deriving DecidableEq

namespace Mark

/-- The characters that a mark is written with. -/
def spelling : Mark → List Char
  | plain c => [c]
  | escaped c => ['\\', c]

/-- The character that a mark gives. -/
def char : Mark → Char
  | plain c => c
  | escaped c => unescape c

/-- Whether a mark is written with a backslash. -/
def isEscaped : Mark → Bool
  | plain _ => false
  | escaped _ => true

/-- A mark may stand between two quotes.  Only behind a backslash may a character be a
quote, a backslash or a line feed. -/
def Fits (quote : Char) : Mark → Prop
  | plain c => c ≠ quote ∧ c ≠ '\\' ∧ c ≠ '\n'
  | escaped _ => True

/-- What marks are written as. -/
def written (marks : List Mark) : List Char := marks.flatMap spelling

/-- What marks give. -/
def contents (marks : List Mark) : List Char := marks.map char

/-- The offsets of the dollar signs that stand for themselves, from an offset on. -/
def dollars (offset : Nat) : List Mark → List Nat
  | [] => []
  | mark :: marks =>
    if mark = plain '$' then offset :: dollars (offset + 1) marks else dollars (offset + 1) marks

@[simp] theorem length_contents (marks : List Mark) : (contents marks).length = marks.length :=
  List.length_map char

@[simp] theorem contents_append (marks marks' : List Mark) :
    contents (marks ++ marks') = contents marks ++ contents marks' :=
  List.map_append

@[simp] theorem contents_cons (mark : Mark) (marks : List Mark) :
    contents (mark :: marks) = mark.char :: contents marks :=
  rfl

theorem written_append (marks marks' : List Mark) :
    written (marks ++ marks') = written marks ++ written marks' :=
  List.flatMap_append

@[simp] theorem contents_map_plain (chars : List Char) : contents (chars.map plain) = chars := by
  simp [contents, Function.comp_def, char]

@[simp] theorem written_map_plain (chars : List Char) : written (chars.map plain) = chars := by
  simp [written, List.flatMap_map, spelling]

/-- Characters that may stand between any two quotes by themselves. -/
def isHarmless (c : Char) : Bool := c ≠ '"' && c ≠ '\'' && c ≠ '\\' && c ≠ '\n'

theorem fits_of_isHarmless {quote c : Char} (hquote : quote = '"' ∨ quote = '\'')
    (h : isHarmless c = true) : (plain c).Fits quote := by
  simp only [isHarmless, Bool.and_eq_true, decide_eq_true_eq] at h
  obtain ⟨⟨⟨hdouble, hsingle⟩, hslash⟩, hfeed⟩ := h
  rcases hquote with rfl | rfl
  · exact ⟨hdouble, hslash, hfeed⟩
  · exact ⟨hsingle, hslash, hfeed⟩

theorem dollars_append (offset : Nat) (marks marks' : List Mark) :
    dollars offset (marks ++ marks') =
      dollars offset marks ++ dollars (offset + marks.length) marks' := by
  induction marks generalizing offset with
  | nil => rfl
  | cons mark marks ih =>
    rw [List.cons_append, dollars, dollars, ih, List.length_cons, Nat.add_assoc offset,
      Nat.add_comm 1]
    split <;> rfl

/-- The dollar signs of marks stand among them. -/
theorem lt_of_mem_dollars {offset dollar : Nat} {marks : List Mark}
    (h : dollar ∈ dollars offset marks) : dollar < offset + marks.length := by
  induction marks generalizing offset with
  | nil => cases h
  | cons mark marks ih =>
    rw [dollars] at h
    rw [List.length_cons]
    split at h
    · rcases List.mem_cons.mp h with rfl | h
      · omega
      · have := ih h
        omega
    · have := ih h
      omega

/-- The lexeme of a string that is written with some marks. -/
def lexeme (marks : List Mark) : Lexeme where
  kind := .string
  contents := some (String.ofList (contents marks))
  quoted := true
  escaped := marks.any isEscaped
  dollars := dollars 0 marks

end Mark

/-! ## Scanning marks -/

namespace StringBody

variable {quote : Char}

/-- Take one mark. -/
def take (body : StringBody) : Mark → StringBody
  | .plain c => body.push c
  | .escaped c => body.pushEscape c

/-- Reading takes the mark that lies ahead. -/
theorem read_mark (hquote : '\\' ≠ quote) {mark : Mark} (hfits : mark.Fits quote)
    (body : StringBody) (rest : List Char) :
    read quote body (mark.spelling ++ rest) = read quote (body.take mark) rest := by
  cases mark with
  | plain c => exact read_push hfits.1 hfits.2.1 hfits.2.2
  | escaped c => exact read_escape hquote c

/-- Reading takes all marks that lie ahead, one after the other. -/
theorem read_written (hquote : '\\' ≠ quote) {marks : List Mark}
    (hfits : ∀ mark ∈ marks, mark.Fits quote) (body : StringBody) (rest : List Char) :
    read quote body (Mark.written marks ++ rest) = read quote (marks.foldl take body) rest := by
  induction marks generalizing body with
  | nil => rfl
  | cons mark marks ih =>
    rw [List.forall_mem_cons] at hfits
    have hspelling : Mark.written (mark :: marks) ++ rest =
        mark.spelling ++ (Mark.written marks ++ rest) := by
      simp [Mark.written]
    rw [hspelling, read_mark hquote hfits.1, ih hfits.2, List.foldl_cons]

/-- What has been read when some marks were taken. -/
theorem foldl_take (marks : List Mark) (body : StringBody) :
    marks.foldl take body =
      { contents := (Mark.contents marks).reverse ++ body.contents
        length := body.length + marks.length
        dollars := (Mark.dollars body.length marks).reverse ++ body.dollars
        escaped := body.escaped || marks.any Mark.isEscaped
        taken := body.taken + (Mark.written marks).length
        closed := body.closed } := by
  induction marks generalizing body with
  | nil => simp [Mark.contents, Mark.dollars, Mark.written]
  | cons mark marks ih =>
    rw [List.foldl_cons, ih]
    cases mark with
    | plain c =>
      by_cases hc : c = '$'
      · subst hc
        simp [take, push, Mark.dollars, Mark.char, Mark.isEscaped, Mark.written, Mark.spelling]
        omega
      · simp [take, push, Mark.dollars, Mark.char, Mark.isEscaped, Mark.written, Mark.spelling, hc]
        omega
    | escaped c =>
      simp [take, pushEscape, Mark.dollars, Mark.char, Mark.isEscaped, Mark.written, Mark.spelling]
      omega

/-- What was closed was written with marks up to the quote that closed it. -/
theorem exists_marks_of_closed {body : StringBody} {rest : List Char} (hopen : body.closed = false)
    (hclosed : (read quote body rest).closed = true) :
    ∃ marks after, (∀ mark ∈ marks, mark.Fits quote) ∧
      rest = Mark.written marks ++ quote :: after := by
  fun_induction read quote body rest with
  | case1 body => simp_all
  | case2 body after => exact ⟨[], after, List.forall_mem_nil _, rfl⟩
  | case3 body hquote => simp_all [pushLoneBackslash]
  | case4 body d rest hquote ih =>
    obtain ⟨marks, after, hfits, rfl⟩ := ih hopen hclosed
    exact ⟨.escaped d :: marks, after, List.forall_mem_cons.mpr ⟨trivial, hfits⟩, rfl⟩
  | case5 => simp_all
  | case6 body c rest hquote hslash hfeed ih =>
    obtain ⟨marks, after, hfits, rfl⟩ := ih hopen hclosed
    exact ⟨.plain c :: marks, after,
      List.forall_mem_cons.mpr ⟨⟨hquote, hslash, hfeed⟩, hfits⟩, rfl⟩

end StringBody

section Scan

variable {quote : Char} {marks : List Mark} {rest : List Char}

/-- A scan of marks and a quote finds what the marks give. -/
theorem scanString_written (hquote : '\\' ≠ quote) (hfits : ∀ mark ∈ marks, mark.Fits quote)
    (after : List Char) :
    scanString quote (Mark.written marks ++ quote :: after) =
      ⟨.ok (Mark.lexeme marks), (Mark.written marks).length + 1⟩ := by
  have hread : StringBody.read quote .start (Mark.written marks ++ quote :: after) =
      (marks.foldl StringBody.take .start).close := by
    rw [StringBody.read_written hquote hfits, StringBody.read_quote]
  rw [StringBody.foldl_take] at hread
  unfold scanString
  rw [hread]
  simp [StringBody.close, StringBody.start, Mark.lexeme]

/-- The strings that a scan takes are marks between two quotes. -/
theorem scanString_eq_ok_iff (hquote : '\\' ≠ quote) {lexeme : Lexeme} :
    (scanString quote rest).outcome = .ok lexeme ↔
      ∃ marks after, (∀ mark ∈ marks, mark.Fits quote) ∧
        rest = Mark.written marks ++ quote :: after ∧ lexeme = Mark.lexeme marks := by
  constructor
  · intro h
    have hclosed : (StringBody.read quote .start rest).closed = true := by
      by_contra hopen
      simp [scanString, hopen] at h
    obtain ⟨marks, after, hfits, rfl⟩ := StringBody.exists_marks_of_closed rfl hclosed
    rw [scanString_written hquote hfits] at h
    exact ⟨marks, after, hfits, rfl, (Except.ok.inj h).symm⟩
  · rintro ⟨marks, after, hfits, rfl, rfl⟩
    rw [scanString_written hquote hfits]

theorem quote_ne_backslash {quote : Char} (h : quote = '"' ∨ quote = '\'') : '\\' ≠ quote := by
  rcases h with rfl | rfl <;> decide

/-- Marks between two quotes are read as a string. -/
theorem scan_written (hquote : quote = '"' ∨ quote = '\'') (hfits : ∀ mark ∈ marks, mark.Fits quote)
    (behind : List Char) :
    scan quote (Mark.written marks ++ quote :: behind) =
      ⟨.ok (Mark.lexeme marks), (Mark.written marks).length + 1⟩ := by
  have hraw : NotRaw quote (Mark.written marks ++ quote :: behind) := by
    rintro rfl
    exact absurd hquote (by decide)
  rw [(Begins.string hraw hquote).scan_eq]
  exact scanString_written (quote_ne_backslash hquote) hfits behind

/-- Only a quote begins a string. -/
theorem scan_kind_string {first : Char} {lexeme : Lexeme}
    (h : (scan first rest).outcome = .ok lexeme) (hkind : lexeme.kind = .string) :
    (first = '"' ∨ first = '\'') ∧ scan first rest = scanString first rest := by
  obtain ⟨found, hbegins⟩ := begins_of_scan h
  rw [hbegins.scan_eq] at h ⊢
  rcases hbegins.kind_cases h with
    ⟨-, hquote, hfound⟩ | ⟨hword, -⟩ | ⟨hfloat, -⟩ | ⟨hother, -⟩
  · exact ⟨hquote, hfound⟩
  · exact nomatch hkind.symm.trans hword
  · exact absurd (hkind.symm.trans hfloat) (by decide)
  · exact absurd hkind hother

end Scan

/-! ## Tokens of strings -/

/-- A token is written with marks between two quotes. -/
structure Token.WrittenAs (token : Token) (quote : Char) (marks : List Mark) : Prop where
  quote_eq : quote = '"' ∨ quote = '\''
  fits : ∀ mark ∈ marks, mark.Fits quote
  text_eq : token.text = String.ofList (quote :: (Mark.written marks ++ [quote]))

/-- A token is a string that has what some marks give. -/
structure Token.Gives (token : Token) (marks : List Mark) : Prop where
  kind_eq : token.kind = .string
  value_eq : token.value = String.ofList (Mark.contents marks)
  dollars_eq : token.dollars = Mark.dollars 0 marks

namespace Lexer

variable {lexer : Lexer} {tokens : List Token}

/-- Every token but the end was scanned somewhere. -/
theorem Gives.exists_scan (h : Gives lexer tokens) {token : Token} (hmem : token ∈ tokens)
    (hkind : token.kind ≠ .eof) :
    ∃ (here : Lexer) (first : Char) (rest : List Char) (lexeme : Lexeme),
      here.rest = first :: rest ∧ (scan first rest).outcome = .ok lexeme ∧
        token = here.tokenOf lexeme (scan first rest).consumed := by
  induction h with
  | finish =>
    rw [List.mem_singleton] at hmem
    exact absurd (hmem ▸ rfl) hkind
  | token hrest hscan _ ih =>
    rcases List.mem_cons.mp hmem with rfl | hmem
    · exact ⟨_, _, _, _, hrest, hscan, rfl⟩
    · exact ih hmem

/-- The token of a string, by the marks that lie ahead. -/
theorem tokenOf_written {quote : Char} {marks : List Mark} {after : List Char}
    (hrest : lexer.rest = quote :: (Mark.written marks ++ quote :: after))
    (hquote : quote = '"' ∨ quote = '\'') (hfits : ∀ mark ∈ marks, mark.Fits quote) :
    (lexer.tokenOf (Mark.lexeme marks) ((Mark.written marks).length + 2)).WrittenAs quote marks ∧
      (lexer.tokenOf (Mark.lexeme marks) ((Mark.written marks).length + 2)).Gives marks := by
  have htake : lexer.rest.take ((Mark.written marks).length + 2) =
      quote :: (Mark.written marks ++ [quote]) := by
    rw [hrest, List.take_succ_cons, List.take_length_add_append, List.take_succ_cons,
      List.take_zero]
  exact ⟨⟨hquote, hfits, congrArg String.ofList htake⟩, rfl, rfl, rfl⟩

end Lexer

namespace Source

variable {source : Source} {tokens : List Token}

/-- Every string of a text is written with marks, and has what these give. -/
theorem writtenAs_of_tokens (h : source.tokens = .ok tokens) {token : Token}
    (hmem : token ∈ tokens) (hkind : token.kind = .string) :
    ∃ quote marks, token.WrittenAs quote marks ∧ token.Gives marks := by
  obtain ⟨here, quote, rest, lexeme, hrest, hscan, rfl⟩ :=
    (Lexer.gives_of_tokens h).exists_scan hmem (by rw [hkind]; exact nofun)
  obtain ⟨hquote, heq⟩ := scan_kind_string hscan hkind
  rw [heq] at hscan ⊢
  obtain ⟨marks, after, hfits, rfl, rfl⟩ :=
    (scanString_eq_ok_iff (quote_ne_backslash hquote)).mp hscan
  rw [scanString_written (quote_ne_backslash hquote) hfits]
  exact ⟨quote, marks, Lexer.tokenOf_written hrest hquote hfits⟩

/-- Marks between two quotes are a text with one token, a string with what they give. -/
theorem tokens_written {quote : Char} {marks : List Mark} (hquote : quote = '"' ∨ quote = '\'')
    (hfits : ∀ mark ∈ marks, mark.Fits quote) (path : Option String) :
    ∃ token finish,
      (ofText (String.ofList (quote :: (Mark.written marks ++ [quote]))) path).tokens =
        .ok [token, finish] ∧ finish.kind = .eof ∧
      token.WrittenAs quote marks ∧ token.Gives marks := by
  let lexer := Lexer.ofSource
    (ofText (String.ofList (quote :: (Mark.written marks ++ [quote]))) path)
  have hblank : Trivia.isBlank quote = false := by rcases hquote with rfl | rfl <;> decide
  have hrest : lexer.skipTrivia.rest = quote :: (Mark.written marks ++ [quote]) := by
    have hchars : lexer.rest = quote :: (Mark.written marks ++ [quote]) := by
      simp [lexer, Lexer.ofSource, ofText, LineIndex.ofText, LineIndex.ofChars]
    rw [Lexer.skipTrivia, hchars, Trivia.skip_of_not_isBlank hblank]
  have hscan : scan quote (Mark.written marks ++ [quote]) =
      ⟨.ok (Mark.lexeme marks), (Mark.written marks).length + 1⟩ :=
    scan_written hquote hfits []
  have hend : (lexer.after (scan quote (Mark.written marks ++ [quote])).consumed).skipTrivia.rest =
      [] := by
    have hbehind :
        (lexer.after (scan quote (Mark.written marks ++ [quote])).consumed).rest = [] := by
      simp [Lexer.after, Lexer.advance, hrest, hscan, Scan.consumed]
    rw [Lexer.skipTrivia, hbehind]
    rfl
  have hgives := Lexer.Gives.token hrest (congrArg Scan.outcome hscan) (.finish hend)
  have hwritten := Lexer.tokenOf_written hrest hquote hfits
  rw [hscan] at hgives
  exact ⟨_, _, hgives.tokens_eq, rfl, hwritten⟩

end Source

end Rune
