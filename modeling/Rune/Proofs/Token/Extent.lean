import Rune.Token.Scan

/-!
# Rune - how far a scan looks

A scan never takes more characters than there are, and a token that was found
would also have been found with other characters behind it, as long as these begin
as the old ones did, or with a space or a line feed.

Main results:

- Theorem {lit}`beyond_scan_le`: a scan stays inside the text.
- Theorem {lit}`scan_replace`: a token depends on its own characters and on whether
  the character after it goes on with it.
-/

namespace Rune

/-! ## What stands behind a token -/

/-- Characters may stand in place of others behind a token: they begin alike, or they
begin with a space or a line feed, or there are none. -/
def StandsFor (next after : List Char) : Prop :=
  ∀ c, next.head? = some c → after.head? = some c ∨ c = ' ' ∨ c = '\n'

namespace StandsFor

variable {next after : List Char}

/-- A character that is met at neither a blank nor the old place is not met at the new
one. -/
theorem any_eq_false (h : StandsFor next after) {p : Char → Bool} (hspace : p ' ' = false)
    (hfeed : p '\n' = false) (hafter : after.head?.any p = false) : next.head?.any p = false := by
  cases hc : next.head? with
  | none => rfl
  | some c =>
    obtain hsame | rfl | rfl := h c hc
    · simpa [hsame] using hafter
    · exact hspace
    · exact hfeed

/-- With the characters that were taken before it, the replacement stands for all that
lay ahead. -/
theorem take_append {rest : List Char} {n : Nat} (h : StandsFor next (rest.drop n)) :
    StandsFor (rest.take n ++ next) rest := by
  intro c hc
  cases rest with
  | nil =>
    rw [List.drop_nil] at h
    exact h c (by simpa using hc)
  | cons d rest =>
    cases n with
    | zero => exact h c (by simpa using hc)
    | succ n => exact .inl (by simpa using hc)

end StandsFor

/-! ## Runs of characters -/

section Runs

variable {p : Char → Bool} {rest next : List Char}

/-- A run ends before a character that is not of it. -/
theorem takeWhile_append_of_stop (hrest : ∀ c ∈ rest, p c = true)
    (hstop : next.head?.any p = false) : (rest ++ next).takeWhile p = rest := by
  rw [List.takeWhile_append_of_pos hrest]
  cases next with
  | nil => exact List.append_nil rest
  | cons c next =>
    have hc : p c = false := hstop
    rw [List.takeWhile_cons_of_neg (by rw [hc]; exact nofun), List.append_nil]

/-- A run ends where it ended before. -/
theorem takeWhile_replace (hspace : p ' ' = false) (hfeed : p '\n' = false)
    (h : StandsFor next (rest.drop (rest.takeWhile p).length)) :
    (rest.take (rest.takeWhile p).length ++ next).takeWhile p = rest.takeWhile p := by
  have hnext (hstop : next.head?.any p = false) : next.takeWhile p = [] := by
    cases next with
    | nil => rfl
    | cons c next => simp_all
  induction rest with
  | nil => simpa using hnext (h.any_eq_false hspace hfeed (by simp))
  | cons c rest ih =>
    by_cases hc : p c
    · simp only [List.takeWhile_cons_of_pos hc, List.length_cons, List.drop_succ_cons] at h
      simpa [hc] using ih h
    · simp only [List.takeWhile_cons_of_neg hc, List.length_nil, List.drop_zero] at h
      simpa [hc] using hnext (h.any_eq_false hspace hfeed (by simpa using hc))

end Runs

/-! ## Numbers -/

/-- A number takes only characters that are there. -/
theorem readDigits_le (sawDot : Bool) (rest : List Char) :
    (readDigits sawDot rest).1 ≤ rest.length := by
  fun_induction readDigits sawDot rest <;> simp_all

/-- A digit ahead is taken. -/
theorem readDigits_pos {rest : List Char} (sawDot : Bool) (h : rest.head?.any Unicode.isDigit) :
    0 < (readDigits sawDot rest).1 := by
  cases rest with
  | nil => cases h
  | cons c rest =>
    have hc : Unicode.isDigit c = true := h
    simp [readDigits, hc]

/-- A number ends before a character that neither is a digit nor may stand in it. -/
theorem readDigits_of_stop {next : List Char} (sawDot : Bool)
    (hdigit : next.head?.any Unicode.isDigit = false)
    (hspoils : next.head?.any spoilsNumber = false) :
    readDigits sawDot next = (0, sawDot) := by
  cases next with
  | nil => rfl
  | cons c next =>
    have hc : Unicode.isDigit c = false := hdigit
    have hdot : c ≠ '.' := by rintro rfl; simp [spoilsNumber] at hspoils
    simp [readDigits, hc, hdot]

theorem isDigit_space : Unicode.isDigit ' ' = false := by decide +kernel

theorem isDigit_lineFeed : Unicode.isDigit '\n' = false := by decide +kernel

theorem spoilsNumber_space : spoilsNumber ' ' = false := by decide +kernel

theorem spoilsNumber_lineFeed : spoilsNumber '\n' = false := by decide +kernel

/-- Characters before which a run is not empty begin as they did. -/
theorem head?_take_append {n : Nat} (hpos : 0 < n) {rest : List Char} (hrest : rest ≠ [])
    (next : List Char) : (rest.take n ++ next).head? = rest.head? := by
  cases rest with
  | nil => exact absurd rfl hrest
  | cons c rest =>
    cases n with
    | zero => exact absurd hpos (Nat.lt_irrefl 0)
    | succ n => rfl

/-- A number that is not spoilt ends where it ended before. -/
theorem readDigits_replace (sawDot : Bool) {rest next : List Char}
    (hspoils : (rest.drop (readDigits sawDot rest).1).head?.any spoilsNumber = false)
    (h : StandsFor next (rest.drop (readDigits sawDot rest).1)) :
    readDigits sawDot (rest.take (readDigits sawDot rest).1 ++ next) = readDigits sawDot rest := by
  have hnext {after : List Char} (h : StandsFor next after)
      (hspoils : after.head?.any spoilsNumber = false)
      (hdigit : after.head?.any Unicode.isDigit = false) :
      ∀ sawDot, readDigits sawDot next = (0, sawDot) := fun sawDot =>
    readDigits_of_stop sawDot (h.any_eq_false isDigit_space isDigit_lineFeed hdigit)
      (h.any_eq_false spoilsNumber_space spoilsNumber_lineFeed hspoils)
  fun_induction readDigits sawDot rest with
  | case1 sawDot => simpa using hnext h hspoils rfl sawDot
  | case2 sawDot c rest hc count dot heq ih => simp_all [readDigits]
  | case3 sawDot c rest hc hdot count dot heq ih =>
    -- the dot is still followed by the digit that made it part of the number
    have hdigit : rest.head?.any Unicode.isDigit := by simp_all
    have hpos : 0 < count := by simpa [heq] using readDigits_pos true hdigit
    have hhead := head?_take_append hpos (show rest ≠ [] by rintro rfl; cases hdigit) next
    simp_all [readDigits]
  | case4 sawDot c rest hc hdot =>
    simpa [readDigits] using hnext h hspoils (by simpa using hc) sawDot

/-! ## Strings -/

namespace StringBody

variable {quote c : Char} {body : StringBody} {rest : List Char}

/-- The quote that opened a string closes it. -/
theorem read_quote (quote : Char) (body : StringBody) (rest : List Char) :
    read quote body (quote :: rest) = body.close := by
  rw [read.eq_def]
  exact if_pos rfl

/-- A backslash takes the character after it along. -/
theorem read_escape (hquote : '\\' ≠ quote) (d : Char) :
    read quote body ('\\' :: d :: rest) = read quote (body.pushEscape d) rest := by
  rw [read.eq_def]
  simp [hquote]

/-- Any other character stands for itself. -/
theorem read_push (hquote : c ≠ quote) (hslash : c ≠ '\\') (hfeed : c ≠ '\n') :
    read quote body (c :: rest) = read quote (body.push c) rest := by
  rw [read.eq_def]
  simp [hquote, hslash, hfeed]

/-- A closed string ends where it ended before, within the text. -/
theorem read_replace (quote : Char) (body : StringBody) (rest : List Char)
    (hopen : body.closed = false) (hclosed : (read quote body rest).closed = true) :
    ∃ n, (read quote body rest).taken = body.taken + n ∧
      ∀ next, read quote body (rest.take n ++ next) = read quote body rest := by
  fun_induction read quote body rest with
  | case1 body => simp_all
  | case2 body rest => exact ⟨1, rfl, fun next => read_quote quote body next⟩
  | case3 body hquote => simp_all [pushLoneBackslash]
  | case4 body d rest hquote ih =>
    obtain ⟨n, htaken, hread⟩ := ih hopen hclosed
    refine ⟨n + 2, by rw [htaken]; simp only [pushEscape]; omega, fun next => ?_⟩
    rw [List.take_succ_cons, List.take_succ_cons, List.cons_append, List.cons_append,
      read_escape hquote, hread]
  | case5 => simp_all
  | case6 body c rest hquote hslash hfeed ih =>
    obtain ⟨n, htaken, hread⟩ := ih hopen hclosed
    refine ⟨n + 1, by rw [htaken]; simp only [push]; omega, fun next => ?_⟩
    rw [List.take_succ_cons, List.cons_append, read_push hquote hslash hfeed, hread]

/-- A string takes only characters that are there. -/
theorem taken_read_le (quote : Char) (body : StringBody) (rest : List Char) :
    (read quote body rest).taken ≤ body.taken + rest.length := by
  fun_induction read quote body rest <;>
    simp_all [close, push, pushEscape, pushLoneBackslash] <;> omega

end StringBody

/-- A raw string takes only characters that are there. -/
theorem length_readRaw_le (rest : List Char) :
    (readRaw rest).1.length + (if (readRaw rest).2 then 1 else 0) ≤ rest.length := by
  fun_induction readRaw rest <;> simp_all <;> omega

/-- A quote closes a raw string. -/
theorem readRaw_quote (rest : List Char) : readRaw ('"' :: rest) = ([], true) := by
  rw [readRaw.eq_def]
  exact if_pos rfl

/-- A character that is neither quote, backslash nor line feed stands for itself. -/
theorem readRaw_cons {c : Char} (hquote : c ≠ '"') (hslash : c ≠ '\\') (hfeed : c ≠ '\n')
    (rest : List Char) : readRaw (c :: rest) = (c :: (readRaw rest).1, (readRaw rest).2) := by
  rw [readRaw.eq_def]
  simp [hquote, hslash, hfeed]

/-- A closed raw string ends where it ended before. -/
theorem readRaw_replace (rest next : List Char) (hclosed : (readRaw rest).2 = true) :
    readRaw (rest.take ((readRaw rest).1.length + 1) ++ next) = readRaw rest := by
  fun_induction readRaw rest with
  | case1 => cases hclosed
  | case2 rest => exact readRaw_quote next
  | case3 => cases hclosed
  | case4 d rest contents closed heq _ ih =>
    have := ih (by rw [heq]; exact hclosed)
    simp_all [readRaw]
  | case5 => cases hclosed
  | case6 c rest hquote hslash hfeed contents closed heq ih =>
    have := ih (by rw [heq]; exact hclosed)
    rw [List.length_cons, List.take_succ_cons, List.cons_append, readRaw_cons hquote hslash hfeed]
    simp_all

/-! ## One token -/

/-- A scan stays inside the text. -/
theorem beyond_scan_le (first : Char) (rest : List Char) :
    (scan first rest).beyond ≤ rest.length := by
  have hrun (p : Char → Bool) (rest : List Char) : (rest.takeWhile p).length ≤ rest.length :=
    (List.takeWhile_sublist p).length_le
  unfold scan
  split
  · rename_i hraw
    have htail := length_readRaw_le rest.tail
    cases rest with
    | nil => simp at hraw
    | cons c rest =>
      simp only [scanRawString, List.tail_cons, List.length_cons] at htail ⊢
      omega
  split
  · simpa [scanString, StringBody.start] using StringBody.taken_read_le first .start rest
  split
  · have hle := readDigits_le false rest
    have hjunk := hrun trailsNumber (rest.drop (readDigits false rest).1)
    simp only [List.length_drop] at hjunk
    simp only [scanNumber]
    split
    · dsimp only
      omega
    · exact hle
  split
  · exact Nat.zero_le _
  split
  · exact hrun continuesWord rest
  split
  · exact hrun namesNamespace rest
  split <;> exact Nat.zero_le _

section Scan

variable {first : Char} {rest next : List Char} {found : Scan} {lexeme : Lexeme}

/-- A raw string does not begin here. -/
def NotRaw (first : Char) (rest : List Char) : Prop := first = 'r' → rest.head? ≠ some '"'

/-- Where no raw string begins the first test of a scan fails. -/
theorem NotRaw.test (h : NotRaw first rest) : ¬(first = 'r' && rest.head? == some '"') = true := by
  intro htest
  simp only [Bool.and_eq_true, decide_eq_true_eq, beq_iff_eq] at htest
  exact h htest.1 htest.2

/-- A character that begins neither a string nor a number. -/
structure IsPlain (first : Char) : Prop where
  ne_double : first ≠ '"'
  ne_single : first ≠ '\''
  not_digit : Unicode.isDigit first = false
  ne_minus : first ≠ '-'

/-- What a scan finds, by the characters that it begins with. -/
inductive Begins (first : Char) (rest : List Char) : Scan → Prop where
  | rawString {inside : List Char} (hfirst : first = 'r') (hrest : rest = '"' :: inside) :
    Begins first rest (scanRawString inside)
  | string (hraw : NotRaw first rest) (hquote : first = '"' ∨ first = '\'') :
    Begins first rest (scanString first rest)
  | number (hraw : NotRaw first rest) (hdouble : first ≠ '"') (hsingle : first ≠ '\'')
      (hnumber : Unicode.isDigit first ∨ first = '-' ∧ rest.head?.any Unicode.isDigit) :
    Begins first rest (scanNumber first rest)
  | word (hraw : NotRaw first rest) (hplain : IsPlain first) (hword : startsWord first) :
    Begins first rest (scanWord first rest)
  | dollar (hraw : NotRaw first rest) (hplain : IsPlain first) (hword : startsWord first = false)
      (hdollar : first = '$') : Begins first rest (scanNamespace rest)
  | punctuation {kind : TokenKind} (hraw : NotRaw first rest) (hplain : IsPlain first)
      (hword : startsWord first = false) (hdollar : first ≠ '$')
      (hkind : TokenKind.ofPunctuation? first = some kind) :
    Begins first rest ⟨.ok (.plain kind), 0⟩

/-- The characters that a scan begins with decide what it finds. -/
theorem Begins.scan_eq (h : Begins first rest found) : scan first rest = found := by
  cases h with
  | rawString hfirst hrest => simp [scan, hfirst, hrest]
  | string hraw hquote => simp [scan, hraw.test, hquote]
  | number hraw hdouble hsingle hnumber => simp [scan, hraw.test, hdouble, hsingle, hnumber]
  | word hraw hplain hword =>
    obtain ⟨hdouble, hsingle, hdigit, hminus⟩ := hplain
    simp [scan, hraw.test, hdouble, hsingle, hdigit, hminus, hword]
  | dollar hraw hplain hword hdollar =>
    obtain ⟨hdouble, hsingle, hdigit, hminus⟩ := hplain
    rw [scan, if_neg hraw.test]
    simp only [hdouble, hsingle, hdigit, hminus, hword]
    simp [hdollar]
  | punctuation hraw hplain hword hdollar hkind =>
    obtain ⟨hdouble, hsingle, hdigit, hminus⟩ := hplain
    simp [scan, hraw.test, hdouble, hsingle, hdigit, hminus, hword, hdollar, hkind]

/-- A scan that finds a token begins in one of these ways. -/
theorem begins_of_scan (h : (scan first rest).outcome = .ok lexeme) :
    ∃ found, Begins first rest found := by
  by_cases hraw : NotRaw first rest
  · by_cases hquote : first = '"' ∨ first = '\''
    · exact ⟨_, .string hraw hquote⟩
    obtain ⟨hdouble, hsingle⟩ := not_or.mp hquote
    by_cases hnumber : Unicode.isDigit first ∨ first = '-' ∧ rest.head?.any Unicode.isDigit
    · exact ⟨_, .number hraw hdouble hsingle hnumber⟩
    by_cases hminus : first = '-'
    · rw [scan, if_neg hraw.test] at h
      simp_all
    have hplain : IsPlain first := ⟨hdouble, hsingle, by simp_all, hminus⟩
    cases hword : startsWord first with
    | true => exact ⟨_, .word hraw hplain hword⟩
    | false =>
      by_cases hdollar : first = '$'
      · exact ⟨_, .dollar hraw hplain hword hdollar⟩
      cases hkind : TokenKind.ofPunctuation? first with
      | some kind => exact ⟨_, .punctuation hraw hplain hword hdollar hkind⟩
      | none =>
        rw [scan, if_neg hraw.test] at h
        simp_all
  · obtain ⟨hfirst, hrest⟩ : first = 'r' ∧ rest.head? = some '"' := by simpa [NotRaw] using hraw
    obtain ⟨inside, rfl⟩ := List.head?_eq_some_iff.mp hrest
    exact ⟨_, .rawString hfirst rfl⟩

/-- Reserved words are neither strings nor identifiers nor numbers. -/
theorem TokenKind.ofWord?_ne {word : String} {kind : TokenKind} (h : ofWord? word = some kind) :
    kind ≠ .string ∧ kind ≠ .identifier ∧ kind ≠ .float := by
  unfold ofWord? at h
  repeat' split at h
  all_goals first | (cases h; decide) | cases h

/-- Only strings, words and numbers with a point give tokens of their kinds. -/
theorem Begins.kind_cases (h : Begins first rest found) (hfound : found.outcome = .ok lexeme) :
    (lexeme.kind = .string ∧ (first = '"' ∨ first = '\'') ∧ found = scanString first rest) ∨
    (lexeme.kind = .identifier ∧ NotRaw first rest ∧ IsPlain first ∧ startsWord first ∧
      found = scanWord first rest) ∨
    (lexeme.kind = .float ∧ (readDigits false rest).2 = true ∧ found = scanNumber first rest) ∨
    (lexeme.kind ≠ .string ∧ lexeme.kind ≠ .identifier ∧ lexeme.kind ≠ .float) := by
  cases h with
  | string hraw hquote =>
    refine .inl ⟨?_, hquote, rfl⟩
    simp only [scanString] at hfound
    split at hfound <;> cases hfound
    rfl
  | rawString =>
    simp only [scanRawString] at hfound
    split at hfound <;> cases hfound
    exact .inr (.inr (.inr ⟨nofun, nofun, nofun⟩))
  | number =>
    unfold scanNumber at hfound
    dsimp only at hfound
    split at hfound <;> cases hfound
    dsimp only [Lexeme.plain]
    split
    · exact .inr (.inr (.inl ⟨rfl, ‹_›, rfl⟩))
    · exact .inr (.inr (.inr ⟨nofun, nofun, nofun⟩))
  | word hraw hplain hword =>
    cases hfound
    dsimp only [Lexeme.plain]
    cases hreserved : TokenKind.ofWord? (String.ofList (first :: rest.takeWhile continuesWord)) with
    | none => exact .inr (.inl ⟨rfl, hraw, hplain, hword, rfl⟩)
    | some kind => exact .inr (.inr (.inr (TokenKind.ofWord?_ne hreserved)))
  | dollar =>
    unfold scanNamespace TokenKind.ofNamespace? at hfound
    dsimp only at hfound
    split at hfound <;> cases hfound
    rename_i kind hnamespace
    split at hnamespace
    · cases hnamespace
      exact .inr (.inr (.inr ⟨nofun, nofun, nofun⟩))
    · split at hnamespace <;> cases hnamespace
      exact .inr (.inr (.inr ⟨nofun, nofun, nofun⟩))
  | punctuation _ _ _ _ hpunctuation =>
    cases hfound
    unfold TokenKind.ofPunctuation? at hpunctuation
    split at hpunctuation <;> cases hpunctuation <;> exact .inr (.inr (.inr ⟨nofun, nofun, nofun⟩))

/-! ### Each kind of scan before a replacement -/

theorem scanRawString_replace (h : (scanRawString rest).outcome = .ok lexeme) (next : List Char) :
    (scanRawString rest).beyond = (readRaw rest).1.length + 2 ∧
      scanRawString (rest.take ((readRaw rest).1.length + 1) ++ next) = scanRawString rest := by
  cases hclosed : (readRaw rest).2 with
  | true =>
    have hread := readRaw_replace rest next hclosed
    exact ⟨by simp [scanRawString, hclosed]; omega, by simp only [scanRawString, hread]⟩
  | false => simp [scanRawString, hclosed] at h

theorem scanString_replace (h : (scanString first rest).outcome = .ok lexeme) (next : List Char) :
    scanString first (rest.take (scanString first rest).beyond ++ next) =
      scanString first rest := by
  cases hclosed : (StringBody.read first .start rest).closed with
  | true =>
    obtain ⟨n, htaken, hread⟩ := StringBody.read_replace first .start rest rfl hclosed
    have hbeyond : (scanString first rest).beyond = n := htaken.trans (Nat.zero_add n)
    rw [hbeyond]
    simp only [scanString, hread]
  | false => simp [scanString, hclosed] at h

/-- A number that is found is not spoilt by what follows it. -/
theorem scanNumber_eq_ok (h : (scanNumber first rest).outcome = .ok lexeme) :
    (scanNumber first rest).beyond = (readDigits false rest).1 ∧
      (rest.drop (readDigits false rest).1).head?.any spoilsNumber = false := by
  unfold scanNumber at h ⊢
  dsimp only at h ⊢
  split <;> simp_all

theorem scanNumber_replace (h : (scanNumber first rest).outcome = .ok lexeme)
    (hnext : StandsFor next (rest.drop (scanNumber first rest).beyond)) :
    scanNumber first (rest.take (scanNumber first rest).beyond ++ next) =
      scanNumber first rest := by
  obtain ⟨hbeyond, hspoils⟩ := scanNumber_eq_ok h
  rw [hbeyond] at hnext ⊢
  have hread := readDigits_replace false hspoils hnext
  have hdrop : (rest.take (readDigits false rest).1 ++ next).drop (readDigits false rest).1 =
      next := List.drop_left' (List.length_take_of_le (readDigits_le false rest))
  have hnot := hnext.any_eq_false spoilsNumber_space spoilsNumber_lineFeed hspoils
  simp only [scanNumber, hread, hdrop, hnot, hspoils]
  rfl

theorem scanWord_replace (hnext : StandsFor next (rest.drop (scanWord first rest).beyond)) :
    scanWord first (rest.take (scanWord first rest).beyond ++ next) = scanWord first rest := by
  simp only [scanWord] at hnext ⊢
  rw [takeWhile_replace (by decide +kernel) (by decide +kernel) hnext]

theorem scanNamespace_replace (hnext : StandsFor next (rest.drop (scanNamespace rest).beyond)) :
    scanNamespace (rest.take (scanNamespace rest).beyond ++ next) = scanNamespace rest := by
  simp only [scanNamespace] at hnext ⊢
  rw [takeWhile_replace (by decide +kernel) (by decide +kernel) hnext]

/-- A token that was found is found again before a replacement of what followed it. -/
theorem Begins.replace (h : Begins first rest found) (hfound : found.outcome = .ok lexeme)
    (hnext : StandsFor next (rest.drop found.beyond)) :
    Begins first (rest.take found.beyond ++ next) found := by
  have hraw' (hraw : NotRaw first rest) : NotRaw first (rest.take found.beyond ++ next) :=
    fun hfirst hhead => hraw hfirst (by simpa using hnext.take_append '"' hhead)
  cases h with
  | @rawString inside hfirst hrest =>
    subst hrest
    obtain ⟨hbeyond, hsame⟩ := scanRawString_replace hfound next
    have hbegins :=
      @Begins.rawString first _ (inside.take ((readRaw inside).1.length + 1) ++ next) hfirst rfl
    rw [hsame] at hbegins
    rwa [hbeyond, List.take_succ_cons, List.cons_append]
  | string hraw hquote =>
    have := Begins.string (hraw' hraw) hquote
    rwa [scanString_replace hfound] at this
  | number hraw hdouble hsingle hnumber =>
    have hnumber' : Unicode.isDigit first ∨
        first = '-' ∧
          (rest.take (scanNumber first rest).beyond ++ next).head?.any Unicode.isDigit := by
      obtain hdigit | ⟨hminus, hdigit⟩ := hnumber
      · exact .inl hdigit
      · refine .inr ⟨hminus, ?_⟩
        have hpos := readDigits_pos false hdigit
        rw [(scanNumber_eq_ok hfound).1,
          head?_take_append hpos (by rintro rfl; cases hdigit)]
        exact hdigit
    have := Begins.number (hraw' hraw) hdouble hsingle hnumber'
    rwa [scanNumber_replace hfound hnext] at this
  | word hraw hplain hword =>
    have := Begins.word (hraw' hraw) hplain hword
    rwa [scanWord_replace hnext] at this
  | dollar hraw hplain hword hdollar =>
    have := Begins.dollar (hraw' hraw) hplain hword hdollar
    rwa [scanNamespace_replace hnext] at this
  | punctuation hraw hplain hword hdollar hkind =>
    exact .punctuation (hraw' hraw) hplain hword hdollar hkind

/-- A token depends on its own characters and on whether the character after it goes on
with it. -/
theorem scan_replace (hscan : (scan first rest).outcome = .ok lexeme)
    (hnext : StandsFor next (rest.drop (scan first rest).beyond)) :
    scan first (rest.take (scan first rest).beyond ++ next) = scan first rest := by
  obtain ⟨found, hbegins⟩ := begins_of_scan hscan
  rw [hbegins.scan_eq] at hscan hnext ⊢
  exact (hbegins.replace hscan hnext).scan_eq

end Scan

end Rune
