import Rune.Proofs.Text.Lines

/-!
# Rune - texts with carriage returns

A carriage return before every line feed moves the characters behind it, but each of them
stays on its line and in its column, and the text of the line is told without carriage
returns at its end.

Main results:

- Definition {lit}`crlf` puts a carriage return before every line feed, and
  {lit}`crlfOffset` says where a character goes.
- Theorem {lit}`Source.Returns.locate_eq`: a place is told as before.
-/

namespace Rune

/-- Characters with a carriage return before every line feed. -/
def crlf (chars : List Char) : List Char :=
  chars.flatMap fun c => if c = '\n' then ['\r', '\n'] else [c]

@[simp] theorem crlf_nil : crlf [] = [] := rfl

@[simp] theorem crlf_lineFeed (rest : List Char) :
    crlf ('\n' :: rest) = '\r' :: '\n' :: crlf rest := rfl

theorem crlf_cons {c : Char} (h : c ≠ '\n') (rest : List Char) :
    crlf (c :: rest) = c :: crlf rest := by simp [crlf, h]

@[simp] theorem crlf_append (before after : List Char) :
    crlf (before ++ after) = crlf before ++ crlf after := List.flatMap_append

/-- Where there is no line feed nothing is put in. -/
theorem crlf_of_not_mem {chars : List Char} (h : '\n' ∉ chars) : crlf chars = chars := by
  induction chars with
  | nil => rfl
  | cons c rest ih =>
    obtain ⟨hc, hrest⟩ := not_or.mp (List.mem_cons.not.mp h)
    rw [crlf_cons (Ne.symm hc), ih hrest]

/-- As many characters as have no line feed among them are taken as before. -/
theorem take_crlf {chars : List Char} {n : Nat} (h : '\n' ∉ chars.take n) :
    (crlf chars).take n = chars.take n := by
  obtain hle | hlt := (Nat.lt_or_ge chars.length n).symm
  · conv_lhs => rw [← List.take_append_drop n chars, crlf_append, crlf_of_not_mem h]
    exact List.take_left' (List.length_take_of_le hle)
  · rw [List.take_of_length_le (by omega)] at h
    rw [crlf_of_not_mem h]

/-- Behind as many characters as have no line feed among them the others follow. -/
theorem drop_crlf {chars : List Char} {n : Nat} (h : '\n' ∉ chars.take n) :
    (crlf chars).drop n = crlf (chars.drop n) := by
  obtain hle | hlt := (Nat.lt_or_ge chars.length n).symm
  · conv_lhs => rw [← List.take_append_drop n chars, crlf_append, crlf_of_not_mem h]
    exact List.drop_left' (List.length_take_of_le hle)
  · rw [List.take_of_length_le (by omega)] at h
    rw [crlf_of_not_mem h, List.drop_of_length_le (by omega)]
    rfl

/-! ## Offsets -/

/-- The offset at which a character stands in the text with carriage returns. -/
def crlfOffset (chars : List Char) (n : Nat) : Nat := (crlf (chars.take n)).length

/-- No character is lost. -/
theorem length_le_length_crlf (chars : List Char) : chars.length ≤ (crlf chars).length := by
  induction chars with
  | nil => exact Nat.le_refl _
  | cons c rest ih =>
    by_cases hc : c = '\n'
    · subst hc
      simp only [crlf_lineFeed, List.length_cons]
      omega
    · simpa [crlf_cons hc] using ih

/-- Further on in the text is further on in the text with carriage returns. -/
theorem crlfOffset_add (chars : List Char) (n length : Nat) :
    crlfOffset chars (n + length) =
      crlfOffset chars n + (crlf ((chars.drop n).take length)).length := by
  simp [crlfOffset, List.take_add]

/-- Characters keep their order. -/
theorem crlfOffset_lt_iff {chars : List Char} {n m : Nat} (hn : n ≤ chars.length)
    (hm : m ≤ chars.length) : n < m ↔ crlfOffset chars n < crlfOffset chars m := by
  have hlt {n m : Nat} (hm : m ≤ chars.length) (h : n < m) :
      crlfOffset chars n < crlfOffset chars m := by
    have hle := length_le_length_crlf ((chars.drop n).take (m - n))
    have hadd := crlfOffset_add chars n (m - n)
    rw [List.length_take_of_le (by rw [List.length_drop]; omega)] at hle
    rw [Nat.add_sub_cancel' (Nat.le_of_lt h)] at hadd
    omega
  refine ⟨hlt hm, fun h => Nat.lt_of_not_le fun hle => ?_⟩
  obtain heq | hgt := Nat.eq_or_lt_of_le hle
  · exact absurd h (by rw [heq]; exact Nat.lt_irrefl _)
  · exact Nat.lt_asymm h (hlt hn hgt)

/-- A range of a text, and a range of the text with carriage returns that begins at the
same character. -/
structure TextRange.Returns (chars : List Char) (range range' : TextRange) : Prop where
  start_le : range.start ≤ chars.length
  start_eq : range'.start = crlfOffset chars range.start

namespace TextRange.Returns

variable {chars : List Char} {a b c d : TextRange}

/-- Ranges keep their order. -/
theorem start_lt_iff (h : Returns chars a b) (h' : Returns chars c d) :
    a.start < c.start ↔ b.start < d.start := by
  rw [h.start_eq, h'.start_eq]
  exact crlfOffset_lt_iff h.start_le h'.start_le

theorem cover (h : Returns chars a b) (h' : Returns chars c d) :
    Returns chars (a.cover c) (b.cover d) where
  start_le := Nat.le_trans (Nat.min_le_left _ _) h.start_le
  start_eq := by
    change min b.start d.start = crlfOffset chars (min a.start c.start)
    by_cases hlt : a.start < c.start
    · have hlt' := (h.start_lt_iff h').mp hlt
      rw [Nat.min_eq_left (Nat.le_of_lt hlt), Nat.min_eq_left (Nat.le_of_lt hlt')]
      exact h.start_eq
    · have hlt' := (h.start_lt_iff h').not.mp hlt
      rw [Nat.min_eq_right (Nat.le_of_not_lt hlt), Nat.min_eq_right (Nat.le_of_not_lt hlt')]
      exact h'.start_eq

end TextRange.Returns

/-! ## Lines and columns -/

/-- There are as many lines as before. -/
@[simp] theorem count_crlf (chars : List Char) : (crlf chars).count '\n' = chars.count '\n' := by
  induction chars with
  | nil => rfl
  | cons c rest ih =>
    by_cases hc : c = '\n'
    · subst hc
      simp [ih]
    · simp [crlf_cons hc, hc, ih]

/-- As many characters follow the last line feed as before. -/
@[simp] theorem tail_crlf (chars : List Char) :
    LineIndex.tail (crlf chars) = LineIndex.tail chars := by
  induction chars using List.reverseRecOn with
  | nil => rfl
  | append_singleton before c ih =>
    simp only [LineIndex.tail] at ih ⊢
    by_cases hc : c = '\n'
    · subst hc
      rw [crlf_append, show crlf ['\n'] = ['\r'] ++ ['\n'] from rfl, ← List.append_assoc]
      simp
    · rw [crlf_append, crlf_cons hc, crlf_nil]
      simpa [hc] using ih

/-- A line has at most a carriage return more at its end. -/
theorem getElem?_splitOn_crlf {chars line : List Char} {n : Nat}
    (h : (chars.splitOn '\n')[n]? = some line) :
    ∃ line', ((crlf chars).splitOn '\n')[n]? = some line' ∧
      line'.rdropWhile (· = '\r') = line.rdropWhile (· = '\r') := by
  have hreturn (line : List Char) :
      (line ++ ['\r']).rdropWhile (· = '\r') = line.rdropWhile (· = '\r') :=
    List.rdropWhile_concat_pos _ _ _ (by simp)
  have hsplit {first : List Char} (hfirst : '\n' ∉ first) (after : List Char) :
      (crlf (first ++ '\n' :: after)).splitOn '\n' =
        (first ++ ['\r']) :: (crlf after).splitOn '\n' := by
    rw [crlf_append, crlf_of_not_mem hfirst, crlf_lineFeed, List.append_cons,
      LineIndex.splitOn_append_cons (by simpa using hfirst)]
  induction n generalizing chars with
  | zero =>
    by_cases hmem : '\n' ∈ chars
    · obtain ⟨first, after, rfl, hfirst⟩ := List.eq_append_cons_of_mem hmem
      rw [LineIndex.splitOn_append_cons hfirst] at h
      obtain rfl : first = line := by simpa using h
      refine ⟨first ++ ['\r'], ?_, hreturn first⟩
      rw [hsplit hfirst]
      rfl
    · rw [crlf_of_not_mem hmem]
      exact ⟨line, h, rfl⟩
  | succ n ih =>
    by_cases hmem : '\n' ∈ chars
    · obtain ⟨first, after, rfl, hfirst⟩ := List.eq_append_cons_of_mem hmem
      rw [LineIndex.splitOn_append_cons hfirst] at h
      obtain ⟨line', hline', hsame⟩ := ih h
      refine ⟨line', ?_, hsame⟩
      rw [hsplit hfirst]
      exact hline'
    · rw [List.splitOn_eq_singleton hmem] at h
      cases h

namespace LineIndex

variable {chars : List Char} {n : Nat}

/-- A character stays on its line and in its column. -/
theorem lineColumn_crlf (h : n ≤ chars.length) :
    (ofChars (crlf chars)).lineColumn (crlfOffset chars n) = (ofChars chars).lineColumn n := by
  have hafter := lineColumn_ofChars (crlf (chars.take n)) (crlf (chars.drop n))
  rw [← crlf_append, List.take_append_drop] at hafter
  rw [crlfOffset, lineColumn_take h, hafter]
  simp

/-- A line is told as before. -/
theorem lineText_crlf (hn : n ≤ chars.count '\n') :
    (ofChars (crlf chars)).lineText ((n + 1 : Nat) : Int) =
      (ofChars chars).lineText ((n + 1 : Nat) : Int) := by
  have hline := getElem?_splitOn 0 n chars hn
  obtain ⟨line', hline', hsame⟩ := getElem?_splitOn_crlf hline
  rw [lineText_ofChars hn hline, lineText_ofChars (by simpa using hn) hline', hsame]

end LineIndex

namespace Source

/-- Two sources of one path, the second with a carriage return before every line feed of
the first. -/
structure Returns (chars : List Char) (source source' : Source) : Prop where
  index_eq : source.index = .ofChars chars
  index'_eq : source'.index = .ofChars (crlf chars)
  path_eq : source'.path = source.path

namespace Returns

variable {chars : List Char} {source source' : Source}

theorem ofText (text : String) (path : Option String) :
    Returns text.toList (ofText text path) (ofText (String.ofList (crlf text.toList)) path) where
  index_eq := rfl
  index'_eq := by simp [Source.ofText, LineIndex.ofText]
  path_eq := rfl

/-- A place is told as before. -/
theorem locate_eq (h : Returns chars source source') {range range' : TextRange}
    (hrange : range.Returns chars range') : source'.locate range' = source.locate range := by
  have hcount : (chars.take range.start).count '\n' ≤ chars.count '\n' :=
    (List.take_sublist _ _).count_le _
  have hline := LineIndex.lineText_crlf hcount
  rw [locate, locate, h.index_eq, h.index'_eq, h.path_eq, hrange.start_eq,
    LineIndex.lineColumn_crlf hrange.start_le, LineIndex.lineColumn_take hrange.start_le]
  simp only [hline]

/-- A complaint about a place is the same, its range apart. -/
theorem diagnose_eq (h : Returns chars source source') (complaint : Complaint)
    {range range' : TextRange} (hrange : range.Returns chars range') :
    source'.diagnose complaint range' =
      { source.diagnose complaint range with range := range' } := by
  rw [diagnose, diagnose, h.locate_eq hrange, h.path_eq]

end Returns

end Source

end Rune
