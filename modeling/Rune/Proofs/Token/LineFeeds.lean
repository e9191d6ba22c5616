import Rune.Proofs.Token.Coverage
import Rune.Proofs.Token.Literals

/-!
# Rune - line feeds inside tokens

A string ends on the line on which it begins, unless a line feed in it is written behind a
backslash: the backslash takes the line feed along as it takes any other character.  This
goes for quoted and for raw strings.  A line feed that stands by itself leaves the string
open, and the complaint begins at the opening of the string.  No other token has a line
feed in it.

Main results:

- Structure {lit}`Token.Spelled` says with which opening and which marks a string is
  written, quoted or raw.
- Theorem {lit}`Source.lineFeed_escaped`: the tokens with a line feed in them are the
  strings with a line feed behind a backslash, and a line feed that stands by itself before
  the closing quote is a complaint.
-/

namespace Rune

/-! ## Openings -/

/-- How a string begins: with one of the two quotes, or as a raw string. -/
inductive StringOpening where
  | double
  | single
  | raw
  deriving DecidableEq

namespace StringOpening

/-- The first character. -/
def first : StringOpening → Char
  | double => '"'
  | single => '\''
  | raw => 'r'

/-- The characters behind the first one. -/
def more : StringOpening → List Char
  | raw => ['"']
  | _ => []

/-- The quote that closes the string. -/
def quote : StringOpening → Char
  | single => '\''
  | _ => '"'

/-- The kind of the token. -/
def kind : StringOpening → TokenKind
  | raw => .rawString
  | _ => .string

/-- What is wrong with a string that is left open. -/
def fault : StringOpening → LexFault
  | double => .unterminatedString '"'
  | single => .unterminatedString '\''
  | raw => .unterminatedRawString

/-- The characters of an opening. -/
def chars (opening : StringOpening) : List Char := opening.first :: opening.more

/-- The code of the complaint about a string that is left open. -/
def code : StringOpening → String
  | raw => "LEXER_UNTERMINATED_RAW_STRING"
  | _ => "LEXER_UNTERMINATED_STRING"

theorem code_fault (opening : StringOpening) :
    opening.fault.complaint.spec.code = opening.code := by
  cases opening <;> rfl

/-- A string that begins with a quote. -/
theorem first_eq_quote {opening : StringOpening} (h : opening ≠ raw) :
    opening.first = opening.quote ∧ opening.more = [] ∧
      (opening.quote = '"' ∨ opening.quote = '\'') ∧
      opening.fault = .unterminatedString opening.quote := by
  cases opening with
  | double => exact ⟨rfl, rfl, .inl rfl, rfl⟩
  | single => exact ⟨rfl, rfl, .inr rfl, rfl⟩
  | raw => exact absurd rfl h

end StringOpening

/-! ## Raw strings -/

section Raw

variable {marks : List Mark}

/-- Reading a raw string takes the mark that lies ahead, as it is written. -/
theorem readRaw_mark {mark : Mark} (hfits : mark.Fits '"') (rest : List Char) :
    readRaw (mark.spelling ++ rest) = (mark.spelling ++ (readRaw rest).1, (readRaw rest).2) := by
  cases mark with
  | plain c => exact readRaw_cons hfits.1 hfits.2.1 hfits.2.2 rest
  | escaped c => exact readRaw.eq_def _

/-- Reading a raw string takes all marks that lie ahead. -/
theorem readRaw_written (hfits : ∀ mark ∈ marks, mark.Fits '"') (rest : List Char) :
    readRaw (Mark.written marks ++ rest) =
      (Mark.written marks ++ (readRaw rest).1, (readRaw rest).2) := by
  induction marks with
  | nil => rfl
  | cons mark marks ih =>
    rw [List.forall_mem_cons] at hfits
    simp only [Mark.written, List.flatMap_cons, List.append_assoc] at ih ⊢
    rw [readRaw_mark hfits.1, ih hfits.2]

/-- A raw string that was closed was written with marks up to its quote. -/
theorem exists_marks_of_readRaw {rest : List Char} (hclosed : (readRaw rest).2 = true) :
    ∃ marks after, (∀ mark ∈ marks, mark.Fits '"') ∧ rest = Mark.written marks ++ '"' :: after := by
  fun_induction readRaw rest with
  | case1 => cases hclosed
  | case2 after => exact ⟨[], after, List.forall_mem_nil _, rfl⟩
  | case3 => cases hclosed
  | case4 d rest contents closed heq _ ih =>
    obtain ⟨marks, after, hfits, rfl⟩ := ih (by rw [heq]; exact hclosed)
    exact ⟨.escaped d :: marks, after, List.forall_mem_cons.mpr ⟨trivial, hfits⟩, rfl⟩
  | case5 => cases hclosed
  | case6 c rest hquote hslash hfeed contents closed heq ih =>
    obtain ⟨marks, after, hfits, rfl⟩ := ih (by rw [heq]; exact hclosed)
    exact ⟨.plain c :: marks, after,
      List.forall_mem_cons.mpr ⟨⟨hquote, hslash, hfeed⟩, hfits⟩, rfl⟩

theorem scanRawString_written (hfits : ∀ mark ∈ marks, mark.Fits '"') (after : List Char) :
    scanRawString (Mark.written marks ++ '"' :: after) =
      ⟨.ok ⟨.rawString, some (String.ofList (Mark.written marks)), true, false, []⟩,
        (Mark.written marks).length + 2⟩ := by
  have hread : readRaw (Mark.written marks ++ '"' :: after) = (Mark.written marks, true) := by
    rw [readRaw_written hfits, readRaw_quote, List.append_nil]
  simp only [scanRawString, hread, if_true, Scan.mk.injEq, true_and]
  omega

/-- A line feed leaves a raw string open. -/
theorem scanRawString_lineFeed (hfits : ∀ mark ∈ marks, mark.Fits '"') (behind : List Char) :
    scanRawString (Mark.written marks ++ '\n' :: behind) =
      ⟨.error .unterminatedRawString, (Mark.written marks).length + 1⟩ := by
  have hfeed : readRaw ('\n' :: behind) = ([], false) := by
    rw [readRaw.eq_def]
    rfl
  have hread : readRaw (Mark.written marks ++ '\n' :: behind) = (Mark.written marks, false) := by
    rw [readRaw_written hfits, hfeed, List.append_nil]
  simp only [scanRawString, hread, Scan.mk.injEq, Bool.false_eq_true, if_false, true_and]
  omega

end Raw

/-- A line feed leaves a quoted string open. -/
theorem scanString_lineFeed {quote : Char} {marks : List Mark} (hquote : quote = '"' ∨ quote = '\'')
    (hfits : ∀ mark ∈ marks, mark.Fits quote) (behind : List Char) :
    scanString quote (Mark.written marks ++ '\n' :: behind) =
      ⟨.error (.unterminatedString quote), (Mark.written marks).length⟩ := by
  have hfeed (body : StringBody) : StringBody.read quote body ('\n' :: behind) = body := by
    rw [StringBody.read.eq_def]
    rcases hquote with rfl | rfl <;> rfl
  have hread : StringBody.read quote .start (Mark.written marks ++ '\n' :: behind) =
      marks.foldl StringBody.take .start := by
    rw [StringBody.read_written (quote_ne_backslash hquote) hfits, hfeed]
  unfold scanString
  rw [hread, StringBody.foldl_take]
  simp [StringBody.start]

/-! ## Scans of strings -/

namespace StringOpening

variable {opening : StringOpening} {marks : List Mark}

/-- Only a raw string begins with its letter and a quote. -/
theorem notRaw_quote {quote : Char} (h : quote = '"' ∨ quote = '\'') (rest : List Char) :
    NotRaw quote rest := by
  rintro rfl
  exact absurd h (by decide)

/-- Marks that are closed are read as a string of their opening. -/
theorem scan_closed (hfits : ∀ mark ∈ marks, mark.Fits opening.quote) (after : List Char) :
    ∃ lexeme, lexeme.kind = opening.kind ∧
      scan opening.first (opening.more ++ (Mark.written marks ++ opening.quote :: after)) =
        ⟨.ok lexeme, opening.more.length + (Mark.written marks).length + 1⟩ := by
  by_cases hraw : opening = raw
  · subst hraw
    refine ⟨⟨.rawString, some (String.ofList (Mark.written marks)), true, false, []⟩, rfl, ?_⟩
    refine (Begins.rawString rfl rfl).scan_eq.trans ((scanRawString_written hfits after).trans ?_)
    rw [more, List.length_singleton, Nat.add_comm 1]
  · have hkind : opening.kind = .string := by cases opening <;> first | rfl | exact absurd rfl hraw
    obtain ⟨hfirst, hmore, hquote, -⟩ := first_eq_quote hraw
    rw [hfirst, hmore, hkind]
    exact ⟨_, rfl, by
      rw [List.nil_append, scan_written hquote hfits, List.length_nil, Nat.zero_add]⟩

/-- A line feed leaves a string open, and the scan stops before it. -/
theorem scan_lineFeed (hfits : ∀ mark ∈ marks, mark.Fits opening.quote) (behind : List Char) :
    scan opening.first (opening.more ++ (Mark.written marks ++ '\n' :: behind)) =
      ⟨.error opening.fault, opening.more.length + (Mark.written marks).length⟩ := by
  by_cases hraw : opening = raw
  · subst hraw
    refine (Begins.rawString rfl rfl).scan_eq.trans ((scanRawString_lineFeed hfits behind).trans ?_)
    rw [more, List.length_singleton, Nat.add_comm 1]
    rfl
  · obtain ⟨hfirst, hmore, hquote, hfault⟩ := first_eq_quote hraw
    rw [hfirst, hmore, hfault, List.nil_append, List.length_nil, Nat.zero_add,
      (Begins.string (notRaw_quote hquote _) hquote).scan_eq]
    exact scanString_lineFeed hquote hfits behind

end StringOpening

/-! ## Scans of other tokens -/

/-- A number has digits and a dot. -/
theorem digit_of_mem_readDigits {sawDot : Bool} {rest : List Char} {c : Char}
    (h : c ∈ rest.take (readDigits sawDot rest).1) : Unicode.isDigit c = true ∨ c = '.' := by
  fun_induction readDigits sawDot rest with
  | case1 => cases h
  | case2 sawDot d rest hd count dot heq ih =>
    rcases List.mem_cons.mp h with rfl | h
    · exact .inl hd
    · exact ih (by rwa [heq])
  | case3 sawDot d rest hd hdot count dot heq ih =>
    rcases List.mem_cons.mp h with rfl | h
    · simp only [Bool.and_eq_true, decide_eq_true_eq] at hdot
      exact .inr hdot.1.1
    · exact ih (by rwa [heq])
  | case4 => cases h

/-- A run of characters of a class without the line feed has no line feed. -/
theorem lineFeed_notMem_run {p : Char → Bool} (hfeed : p '\n' = false) (rest : List Char) :
    '\n' ∉ rest.take (rest.takeWhile p).length := by
  rw [← List.prefix_iff_eq_take.mp (List.takeWhile_prefix p)]
  intro hmem
  have := List.mem_takeWhile_imp hmem
  rw [hfeed] at this
  cases this

section Scan

variable {first : Char} {rest : List Char} {found : Scan} {lexeme : Lexeme}

/-- A token is a string with an opening, marks and the closing quote, or it has no line
feed. -/
theorem Begins.string_or_notMem (h : Begins first rest found)
    (hfound : found.outcome = .ok lexeme) :
    (∃ (opening : StringOpening) (marks : List Mark) (after : List Char),
      (∀ mark ∈ marks, mark.Fits opening.quote) ∧ first = opening.first ∧
        rest = opening.more ++ (Mark.written marks ++ opening.quote :: after)) ∨
      '\n' ∉ first :: rest.take found.beyond := by
  cases h with
  | @rawString inside hfirst hrest =>
    have hclosed : (readRaw inside).2 = true := by
      by_contra hopen
      simp [scanRawString, hopen] at hfound
    obtain ⟨marks, after, hfits, rfl⟩ := exists_marks_of_readRaw hclosed
    exact .inl ⟨.raw, marks, after, hfits, hfirst, hrest⟩
  | string hraw hquote =>
    obtain ⟨marks, after, hfits, hrest, -⟩ :=
      (scanString_eq_ok_iff (quote_ne_backslash hquote)).mp hfound
    rcases hquote with rfl | rfl
    · exact .inl ⟨.double, marks, after, hfits, rfl, hrest⟩
    · exact .inl ⟨.single, marks, after, hfits, rfl, hrest⟩
  | number hraw hdouble hsingle hnumber =>
    refine .inr fun hmem => ?_
    rw [(scanNumber_eq_ok hfound).1] at hmem
    rcases List.mem_cons.mp hmem with rfl | hmem
    · exact absurd hnumber (by simp [isDigit_lineFeed])
    · exact absurd (digit_of_mem_readDigits hmem) (by simp [isDigit_lineFeed])
  | word hraw hplain hword =>
    refine .inr fun hmem => ?_
    rcases List.mem_cons.mp hmem with rfl | hmem
    · exact absurd hword (by decide +kernel)
    · exact lineFeed_notMem_run (p := continuesWord) (by decide +kernel) rest hmem
  | dollar hraw hplain hword hdollar =>
    refine .inr fun hmem => ?_
    rcases List.mem_cons.mp hmem with rfl | hmem
    · exact absurd hdollar (by decide)
    · exact lineFeed_notMem_run (p := namesNamespace) (by decide +kernel) rest hmem
  | punctuation hraw hplain hword hdollar hkind =>
    refine .inr fun hmem => ?_
    obtain rfl : '\n' = first := by simpa using hmem
    cases hkind

end Scan

/-! ## Tokens -/

/-- A token is a string that is written with an opening, marks and the closing quote. -/
structure Token.Spelled (token : Token) (opening : StringOpening) (marks : List Mark) : Prop where
  kind_eq : token.kind = opening.kind
  fits : ∀ mark ∈ marks, mark.Fits opening.quote
  text_eq : token.text = String.ofList (opening.chars ++ (Mark.written marks ++ [opening.quote]))

/-- Among what is written between two quotes a line feed stands behind a backslash. -/
theorem Mark.lineFeed_mem_written {quote : Char} {marks : List Mark}
    (hfits : ∀ mark ∈ marks, mark.Fits quote) :
    '\n' ∈ written marks ↔ .escaped '\n' ∈ marks := by
  constructor
  · intro hmem
    obtain ⟨mark, hmark, hspelling⟩ := List.mem_flatMap.mp hmem
    cases mark with
    | plain c =>
      obtain rfl := List.mem_singleton.mp hspelling
      exact absurd rfl (hfits _ hmark).2.2
    | escaped c =>
      obtain rfl : '\n' = c := by simpa [spelling] using hspelling
      exact hmark
  · intro hmark
    exact List.mem_flatMap.mpr ⟨_, hmark, by simp [spelling]⟩

/-- A string has a line feed if and only if one stands behind a backslash. -/
theorem Token.Spelled.lineFeed_mem_text {token : Token} {opening : StringOpening}
    {marks : List Mark} (h : token.Spelled opening marks) :
    '\n' ∈ token.text.toList ↔ .escaped '\n' ∈ marks := by
  have hopening : '\n' ∉ opening.chars ∧ '\n' ≠ opening.quote := by
    cases opening <;> decide
  rw [h.text_eq, String.toList_ofList, ← Mark.lineFeed_mem_written h.fits]
  simp [hopening.1, hopening.2]

/-- A token is a string with a line feed behind a backslash. -/
def Token.EscapesLineFeed (token : Token) : Prop :=
  ∃ opening marks, token.Spelled opening marks ∧ .escaped '\n' ∈ marks

namespace Lexer

variable {lexer : Lexer}

/-- Marks that are closed give the token of a string. -/
theorem spelled_of_closed {opening : StringOpening} {marks : List Mark} {after : List Char}
    (hfits : ∀ mark ∈ marks, mark.Fits opening.quote)
    (hrest : lexer.rest =
      opening.first :: (opening.more ++ (Mark.written marks ++ opening.quote :: after))) :
    ∃ lexeme length,
      scan opening.first (opening.more ++ (Mark.written marks ++ opening.quote :: after)) =
        ⟨.ok lexeme, length⟩ ∧ (lexer.tokenOf lexeme (length + 1)).Spelled opening marks := by
  obtain ⟨lexeme, hkind, hscan⟩ := StringOpening.scan_closed hfits after
  refine ⟨lexeme, _, hscan, hkind, hfits, congrArg String.ofList ?_⟩
  rw [hrest, List.take_succ_cons, ← List.length_append, ← List.append_assoc,
    List.take_length_add_append, List.append_assoc]
  rfl

/-- The token that a scan finds is a string, or it has no line feed. -/
theorem spelled_or_notMem {first : Char} {rest : List Char} {lexeme : Lexeme}
    (hrest : lexer.rest = first :: rest) (hscan : (scan first rest).outcome = .ok lexeme) :
    (∃ opening marks,
      (lexer.tokenOf lexeme (scan first rest).consumed).Spelled opening marks) ∨
      '\n' ∉ (lexer.tokenOf lexeme (scan first rest).consumed).text.toList := by
  obtain ⟨found, hbegins⟩ := begins_of_scan hscan
  rw [hbegins.scan_eq] at hscan
  rcases hbegins.string_or_notMem hscan with ⟨opening, marks, after, hfits, rfl, rfl⟩ | hnot
  · obtain ⟨closed, length, hclosed, hspelled⟩ := spelled_of_closed hfits hrest
    rw [← hbegins.scan_eq, hclosed] at hscan
    obtain rfl : closed = lexeme := Except.ok.inj hscan
    rw [hclosed]
    exact .inl ⟨opening, marks, hspelled⟩
  · rw [hbegins.scan_eq]
    exact .inr (by simpa [tokenOf, hrest, Scan.consumed] using hnot)

/-- The token of a call has a line feed if and only if one stands behind a backslash. -/
theorem Calls.lineFeed_mem_text {answer : Except Failure Token} {behind : Lexer}
    (h : lexer.Calls (answer, behind)) {token : Token} (htoken : answer = .ok token) :
    '\n' ∈ token.text.toList ↔ token.EscapesLineFeed := by
  have hspelled : (∃ opening marks, token.Spelled opening marks) ∨ '\n' ∉ token.text.toList := by
    cases h with
    | finish hrest =>
      cases htoken
      exact .inr List.not_mem_nil
    | token hrest hscan =>
      cases htoken
      exact spelled_or_notMem hrest hscan
    | complaint => cases htoken
  constructor
  · intro hmem
    rcases hspelled with ⟨opening, marks, hspelled⟩ | hnot
    · exact ⟨opening, marks, hspelled, hspelled.lineFeed_mem_text.mp hmem⟩
    · exact absurd hmem hnot
  · rintro ⟨opening, marks, hspelled, hmark⟩
    exact hspelled.lineFeed_mem_text.mpr hmark

section Text

variable {chars : List Char}

/-- A token ends on the line on which it begins if and only if it has no line feed. -/
theorem Inside.line_stop_eq_iff (h : lexer.Inside chars) {n : Nat} {token : Token}
    (htoken : lexer.answer n = .ok token) :
    ((LineIndex.ofChars chars).lineColumn token.range.stop).line = token.line ↔
      '\n' ∉ token.text.toList := by
  have htakes := h.takes n
  have hplace := (htakes.token token htoken).1
  have hstop : token.range.stop = (lexer.later (n + 1)).position := by
    rw [← htakes.stop_eq, htoken]
    rfl
  have hsplit : chars.take token.range.stop =
      chars.take token.range.start ++ token.text.toList := by
    have hlength : token.range.stop =
        token.range.start + (token.range.stop - token.range.start) := by
      have := token.range.start_le_stop
      omega
    rw [hplace.text_eq, slice, hlength, List.take_add, Nat.add_sub_cancel_left]
  rw [← htakes.inside.index_eq, hstop, htakes.inside.lineColumn_eq, ← hstop, hplace.line_eq,
    hsplit, List.count_append, ← List.count_eq_zero]
  dsimp only
  omega

/-- A call reads the characters from the start of its span on. -/
theorem Inside.rest_skipTrivia_later (h : lexer.Inside chars) (n : Nat) :
    (lexer.later n).skipTrivia.rest = chars.drop (lexer.span n).start := by
  rw [(h.later n).skipTrivia.rest_eq, span, (h.takes n).start_eq]

/-- A string that lies ahead of a call is its token. -/
theorem Inside.spelled_of_drop (h : lexer.Inside chars) {n : Nat} {opening : StringOpening}
    {marks : List Mark} {after : List Char} (hfits : ∀ mark ∈ marks, mark.Fits opening.quote)
    (hdrop : chars.drop (lexer.span n).start =
      opening.chars ++ (Mark.written marks ++ opening.quote :: after)) :
    ∃ token, lexer.answer n = .ok token ∧ token.Spelled opening marks := by
  have hrest : (lexer.later n).skipTrivia.rest =
      opening.first :: (opening.more ++ (Mark.written marks ++ opening.quote :: after)) :=
    (h.rest_skipTrivia_later n).trans hdrop
  obtain ⟨lexeme, length, hscan, hspelled⟩ := spelled_of_closed hfits hrest
  have hnext := next_of_token hrest (congrArg Scan.outcome hscan)
  rw [hscan] at hnext
  exact ⟨_, congrArg Prod.fst hnext, hspelled⟩

/-- A string that lies ahead of a call and has a line feed by itself is a complaint about
its opening and its marks. -/
theorem Inside.complaint_of_drop (h : lexer.Inside chars) {n : Nat} {opening : StringOpening}
    {marks : List Mark} {behind : List Char} (hfits : ∀ mark ∈ marks, mark.Fits opening.quote)
    (hdrop : chars.drop (lexer.span n).start =
      opening.chars ++ (Mark.written marks ++ '\n' :: behind)) :
    ∃ d, lexer.answer n = .error (.lexical d) ∧ d.code = opening.code ∧
      d.range = .ofLength (lexer.span n).start (opening.chars ++ Mark.written marks).length ∧
      d.PointsInto chars := by
  have hrest : (lexer.later n).skipTrivia.rest =
      opening.first :: (opening.more ++ (Mark.written marks ++ '\n' :: behind)) :=
    (h.rest_skipTrivia_later n).trans hdrop
  have hscan := StringOpening.scan_lineFeed hfits behind
  have hanswer : lexer.answer n = .error (.lexical _) :=
    congrArg Prod.fst (next_of_fault hrest (congrArg Scan.outcome hscan))
  obtain ⟨d, hd, hpoints⟩ := (h.takes n).lexical _ hanswer
  obtain rfl := Failure.lexical.inj hd
  refine ⟨_, hanswer, opening.code_fault, ?_, hpoints⟩
  have hstart : (lexer.span n).start = (lexer.later n).skipTrivia.position := by
    rw [span, (h.takes n).start_eq]
  rw [hstart, hscan]
  simp only [Source.diagnose, Scan.consumed, StringOpening.chars, List.length_append,
    List.length_cons]
  congr 1
  omega

end Text

end Lexer

/-- Whatever the text is and however many calls on its lexer were made before: the token
of a call has a line feed, and so ends on a later line than it begins on, if and only if it
is a string with a line feed behind a backslash.  A string that is closed before a line feed
stands by itself is a token.  One that is not is a complaint, which begins with the opening
of the string and ends before the line feed. -/
theorem Source.lineFeed_escaped (text : String) (path : Option String) (n : Nat) :
    let lexer := Lexer.ofSource (ofText text path)
    let ahead := text.toList.drop (lexer.span n).start
    (∀ token, lexer.answer n = .ok token →
      ('\n' ∈ token.text.toList ↔ token.EscapesLineFeed) ∧
      (((ofText text path).index.lineColumn token.range.stop).line = token.line ↔
        ¬token.EscapesLineFeed)) ∧
    ∀ (opening : StringOpening) (marks : List Mark) (behind : List Char),
      (∀ mark ∈ marks, mark.Fits opening.quote) →
      (ahead = opening.chars ++ (Mark.written marks ++ opening.quote :: behind) →
        ∃ token, lexer.answer n = .ok token ∧ token.Spelled opening marks) ∧
      (ahead = opening.chars ++ (Mark.written marks ++ '\n' :: behind) →
        ∃ d, lexer.answer n = .error (.lexical d) ∧ d.code = opening.code ∧
          d.range = .ofLength (lexer.span n).start (opening.chars ++ Mark.written marks).length ∧
          d.PointsInto text.toList) := by
  intro lexer ahead
  have hinside : lexer.Inside text.toList := ⟨rfl, rfl, Nat.zero_le _⟩
  constructor
  · intro token htoken
    have hmem : '\n' ∈ token.text.toList ↔ token.EscapesLineFeed :=
      Lexer.Calls.lineFeed_mem_text (Lexer.calls_next (lexer.later n)) htoken
    exact ⟨hmem, (hinside.line_stop_eq_iff htoken).trans (not_congr hmem)⟩
  · intro opening marks behind hfits
    exact ⟨hinside.spelled_of_drop hfits, hinside.complaint_of_drop hfits⟩

/-- A raw string with one line feed behind a backslash and another by itself is given up
before the second one. -/
theorem Source.lineFeed_escaped_open :
    let lexer := Lexer.ofSource (ofText "r\"\\\na\nb\"")
    ∃ d, lexer.answer 0 = .error (.lexical d) ∧ d.code = "LEXER_UNTERMINATED_RAW_STRING" ∧
      d.range = .ofLength (lexer.span 0).start 5 ∧ d.PointsInto "r\"\\\na\nb\"".toList :=
  ((lineFeed_escaped "r\"\\\na\nb\"" none 0).2 .raw [.escaped '\n', .plain 'a'] ['b', '"']
    (by simp [Mark.Fits, StringOpening.quote])).2 (by decide +kernel)

/-- A string may end on a later line than it begins on. -/
theorem Source.lineFeed_in_token : ∃ token,
    (Lexer.ofSource (ofText "x \"a\\\nb\"")).answer 1 = .ok token ∧
      '\n' ∈ token.text.toList := by
  have htext : ((Lexer.ofSource (ofText "x \"a\\\nb\"")).answer 1).toOption.map (·.text) =
      some "\"a\\\nb\"" := by
    decide +kernel
  cases hanswer : (Lexer.ofSource (ofText "x \"a\\\nb\"")).answer 1 with
  | ok token =>
    rw [hanswer] at htext
    obtain htoken : token.text = "\"a\\\nb\"" := Option.some.inj htext
    exact ⟨token, rfl, by rw [htoken]; decide⟩
  | error failure =>
    rw [hanswer] at htext
    cases htext

end Rune
