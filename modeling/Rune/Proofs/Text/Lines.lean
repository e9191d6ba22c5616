import Mathlib.Data.List.DropRight
import Mathlib.Data.List.GetD
import Rune.Diagnostic.Basic

/-!
# Rune - lines and columns are counted right

The table of line starts is searched by halving, and the search is right because
the table increases.  What it finds is told here in terms of the text alone: line
feeds before an offset, characters since the last of them, and the text split at
line feeds.

Main results:

- Theorem {lit}`SortedSearch.countUpTo_append`: in an increasing table that falls
  apart at a key the search finds the place where it does.
- Theorem {lit}`LineIndex.lineColumn_ofChars`: the line of an offset counts the line
  feeds before it, its column the characters since the last of them.
- Theorem {lit}`LineIndex.lineText_ofChars`: the text of a line is that piece of the
  text split at line feeds, without the carriage returns at its end.
- Theorem {lit}`Source.pointsInto_diagnose`: a diagnostic about a range inside a
  text tells the place of that range.
-/

namespace Rune

/-! ## Searching an increasing table -/

namespace SortedSearch

/-- How far a search has come: nothing before `lo` is above the key, and everything
from `hi` on is. -/
structure Brackets (table : Array Nat) (key lo hi : Nat) : Prop where
  le : lo ≤ hi
  le_size : hi ≤ table.size
  below : ∀ i < lo, table.getD i 0 ≤ key
  above : ∀ i, hi ≤ i → i < table.size → key < table.getD i 0

/-- The entries of an increasing table increase with their places. -/
theorem getD_mono {table : Array Nat} (hsorted : table.toList.Pairwise (· ≤ ·)) {i j : Nat}
    (hij : i ≤ j) (hj : j < table.size) : table.getD i 0 ≤ table.getD j 0 := by
  have hi : i < table.size := Nat.lt_of_le_of_lt hij hj
  obtain hlt | rfl := Nat.lt_or_eq_of_le hij
  · have := List.pairwise_iff_getElem.mp hsorted i j (by simpa using hi) (by simpa using hj) hlt
    simpa [Array.getD_eq_getD_getElem?, hi, hj] using this
  · exact Nat.le_refl _

/-- Halving goes on until the brackets meet. -/
theorem Brackets.bisect {table : Array Nat} (hsorted : table.toList.Pairwise (· ≤ ·))
    {key fuel lo hi : Nat} (h : Brackets table key lo hi) (hfuel : hi - lo ≤ fuel) :
    Brackets table key (bisect table key fuel lo hi) (bisect table key fuel lo hi) := by
  induction fuel generalizing lo hi with
  | zero =>
    obtain rfl : hi = lo := by have := h.le; omega
    exact h
  | succ fuel ih =>
    have hle := h.le
    have hsize := h.le_size
    simp only [SortedSearch.bisect]
    split
    · rename_i hlt
      split
      · rename_i hmid
        refine ih ⟨by omega, hsize, fun i hi => ?_, h.above⟩ (by omega)
        exact Nat.le_trans (getD_mono hsorted (by omega) (by omega)) hmid
      · rename_i hmid
        refine ih ⟨by omega, by omega, h.below, fun i hle hi => ?_⟩ (by omega)
        exact Nat.lt_of_lt_of_le (Nat.lt_of_not_le hmid) (getD_mono hsorted hle hi)
    · obtain rfl : hi = lo := by omega
      exact h

/-- In an increasing table that falls apart at a key the search finds the place where
it does. -/
theorem countUpTo_append {low high : List Nat} {key : Nat}
    (hsorted : (low ++ high).Pairwise (· ≤ ·)) (hlow : ∀ n ∈ low, n ≤ key)
    (hhigh : ∀ n ∈ high, key < n) :
    countUpTo (low ++ high).toArray key = low.length := by
  have hfound : Brackets (low ++ high).toArray key _ _ :=
    Brackets.bisect (by simpa using hsorted)
      ⟨Nat.zero_le _, Nat.le_refl _, fun i hi => absurd hi (Nat.not_lt_zero i),
        fun i hle hi => absurd hi (Nat.not_lt.mpr hle)⟩ (Nat.sub_le _ _)
  change Brackets _ _ (countUpTo _ key) (countUpTo _ key) at hfound
  generalize countUpTo (low ++ high).toArray key = found at hfound ⊢
  have hsize := hfound.le_size
  simp only [List.size_toArray, List.length_append] at hsize
  refine Nat.le_antisymm (Nat.le_of_not_lt fun hlt => ?_) (Nat.le_of_not_lt fun hlt => ?_)
  · have hbelow := hfound.below low.length hlt
    have hplace : low.length < low.length + high.length := by omega
    have habove := hhigh (high.get ⟨0, by omega⟩) (List.getElem_mem _)
    simp [Array.getD_eq_getD_getElem?, List.getElem?_append_right] at hbelow
    rw [List.getElem?_eq_getElem (by omega)] at hbelow
    exact absurd hbelow (Nat.not_le.mpr habove)
  · have habove := hfound.above found (Nat.le_refl _) (by simp; omega)
    have hbelow := hlow low[found] (List.getElem_mem _)
    simp [Array.getD_eq_getD_getElem?, List.getElem?_append_left, hlt] at habove
    exact absurd hbelow (Nat.not_le.mpr habove)

end SortedSearch

/-! ## The table of line starts -/

namespace LineIndex

/-- The table of a text that falls into two parts falls into two parts. -/
theorem breaksFrom_append (offset : Nat) (before after : List Char) :
    breaksFrom offset (before ++ after) =
      breaksFrom offset before ++ breaksFrom (offset + before.length) after := by
  induction before generalizing offset with
  | nil => simp [breaksFrom]
  | cons c rest ih =>
    simp only [List.cons_append, breaksFrom, ih, List.length_cons]
    split <;> simp [Nat.add_comm, Nat.add_left_comm]

/-- There are as many breaks as line feeds. -/
@[simp] theorem length_breaksFrom (offset : Nat) (chars : List Char) :
    (breaksFrom offset chars).length = chars.count '\n' := by
  induction chars generalizing offset with
  | nil => rfl
  | cons c rest ih =>
    simp only [breaksFrom]
    split <;> simp_all

/-- Breaks lie behind the offset where the characters begin, and within them. -/
theorem bounds_of_mem_breaksFrom {offset n : Nat} {chars : List Char}
    (h : n ∈ breaksFrom offset chars) : offset < n ∧ n ≤ offset + chars.length := by
  induction chars generalizing offset with
  | nil => cases h
  | cons c rest ih =>
    have hrest : n ∈ breaksFrom (offset + 1) rest →
        offset < n ∧ n ≤ offset + (c :: rest).length := fun h => by
      have := ih h
      simp only [List.length_cons]
      omega
    simp only [breaksFrom] at h
    split at h
    · obtain rfl | h := List.mem_cons.mp h
      · simp
      · exact hrest h
    · exact hrest h

/-- Breaks increase. -/
theorem pairwise_breaksFrom (offset : Nat) (chars : List Char) :
    (breaksFrom offset chars).Pairwise (· < ·) := by
  induction chars generalizing offset with
  | nil => exact .nil
  | cons c rest ih =>
    simp only [breaksFrom]
    split
    · exact .cons (fun n hn => (bounds_of_mem_breaksFrom hn).1) (ih _)
    · exact ih _

/-- The line starts of a text increase. -/
theorem pairwise_lineStarts (chars : List Char) :
    (0 :: breaksFrom 0 chars).Pairwise (· ≤ ·) :=
  .cons (fun _ _ => Nat.zero_le _) ((pairwise_breaksFrom 0 chars).imp Nat.le_of_lt)

/-- The characters since the last line feed. -/
def tail (before : List Char) : List Char := before.rtakeWhile (· ≠ '\n')

/-- The last line start of a text lies before what follows its last line feed. -/
theorem getLast_add_length_tail (before : List Char) :
    (0 :: breaksFrom 0 before).getLast (List.cons_ne_nil _ _) + (tail before).length =
      before.length := by
  induction before using List.reverseRecOn with
  | nil => rfl
  | append_singleton before c ih =>
    by_cases hc : c = '\n'
    · subst hc
      simp [breaksFrom_append, breaksFrom, tail, List.rtakeWhile]
    · have := ih
      simp [tail] at this
      simp [breaksFrom_append, breaksFrom, tail, hc]
      omega

/-- The line of an offset counts the line feeds before it, and its column the
characters since the last of them. -/
theorem lineColumn_ofChars (before after : List Char) :
    (ofChars (before ++ after)).lineColumn before.length =
      { line := before.count '\n' + 1, column := (tail before).length + 1 } := by
  have hcount : SortedSearch.countUpTo (lineStarts (before ++ after)) before.length =
      before.count '\n' + 1 := by
    have hsplit : lineStarts (before ++ after) =
        ((0 :: breaksFrom 0 before) ++ breaksFrom (0 + before.length) after).toArray := by
      simp [lineStarts, breaksFrom_append]
    rw [hsplit, SortedSearch.countUpTo_append]
    · simp
    · simpa [breaksFrom_append] using pairwise_lineStarts (before ++ after)
    · intro n hn
      obtain rfl | hn := List.mem_cons.mp hn
      · exact Nat.zero_le _
      · simpa using (bounds_of_mem_breaksFrom hn).2
    · intro n hn
      simpa using (bounds_of_mem_breaksFrom hn).1
  have hstart : (lineStarts (before ++ after)).getD (before.count '\n') 0 =
      (0 :: breaksFrom 0 before).getLast (List.cons_ne_nil _ _) := by
    rw [List.getLast_eq_getElem]
    simp only [lineStarts, breaksFrom_append, ← List.cons_append, Array.getD_eq_getD_getElem?,
      List.getElem?_toArray]
    rw [List.getElem?_append_left (by simp), List.getElem?_eq_getElem (by simp)]
    simp
  have hlast := getLast_add_length_tail before
  have hclamp : (ofChars (before ++ after)).clamp before.length = before.length := by
    simp [clamp, ofChars]
  simp only [lineColumn, hclamp]
  simp only [ofChars, hcount, Nat.add_sub_cancel, hstart]
  congr 2
  omega

/-- The place of an offset in a text is told by the characters before it. -/
theorem lineColumn_take {chars : List Char} {n : Nat} (h : n ≤ chars.length) :
    (ofChars chars).lineColumn n =
      { line := (chars.take n).count '\n' + 1, column := (tail (chars.take n)).length + 1 } := by
  have hplace := lineColumn_ofChars (chars.take n) (chars.drop n)
  rwa [List.take_append_drop, List.length_take_of_le h] at hplace

/-! ## The text of a line -/

/-- The line starts of characters that begin at `offset`, the first line among them. -/
def startsFrom (offset : Nat) (chars : List Char) : List Nat := offset :: breaksFrom offset chars

/-- No line starts before the characters do. -/
theorem le_getD_startsFrom {offset line : Nat} {chars : List Char}
    (hline : line ≤ chars.count '\n') : offset ≤ (startsFrom offset chars).getD line 0 := by
  have hlt : line < (startsFrom offset chars).length := by simp [startsFrom]; omega
  rw [List.getD_eq_getElem _ _ hlt]
  obtain heq | hmem := List.mem_cons.mp (List.getElem_mem hlt)
  · exact Nat.le_of_eq heq.symm
  · exact Nat.le_of_lt (bounds_of_mem_breaksFrom hmem).1

/-- No line starts within a text without a line feed. -/
theorem breaksFrom_of_not_mem {line : List Char} (h : '\n' ∉ line) (offset : Nat) :
    breaksFrom offset line = [] := by
  apply List.eq_nil_of_length_eq_zero
  rw [length_breaksFrom, List.count_eq_zero.mpr h]

/-- A text without a line feed is one line. -/
theorem startsFrom_of_not_mem {line : List Char} (h : '\n' ∉ line) (offset : Nat) :
    startsFrom offset line = [offset] := by
  rw [startsFrom, breaksFrom_of_not_mem h]

/-- Behind the first line feed the line starts are those of what follows it. -/
theorem startsFrom_append_cons {line : List Char} (h : '\n' ∉ line) (offset : Nat)
    (after : List Char) :
    startsFrom offset (line ++ '\n' :: after) =
      offset :: startsFrom (offset + line.length + 1) after := by
  simp [startsFrom, breaksFrom_append, breaksFrom_of_not_mem h, breaksFrom]

/-- The place at which a line ends, given the line starts and the end of the text. -/
def stopOf (starts : List Nat) (size line : Nat) : Nat :=
  if line + 1 < starts.length then starts.getD (line + 1) 0 - 1 else size

/-- The characters between the start of a line and its end. -/
def between (offset : Nat) (chars : List Char) (line : Nat) : List Char :=
  let start := (startsFrom offset chars).getD line 0
  let stop := stopOf (startsFrom offset chars) (offset + chars.length) line
  (chars.drop (start - offset)).take (stop - start)

/-- Every line but the first lies behind the first line feed. -/
theorem between_succ {line : List Char} (h : '\n' ∉ line) (offset n : Nat) {after : List Char}
    (hn : n ≤ after.count '\n') :
    between offset (line ++ '\n' :: after) (n + 1) =
      between (offset + line.length + 1) after n := by
  have hle := @le_getD_startsFrom (offset + line.length + 1) _ _ hn
  have hsize : offset + (line ++ '\n' :: after).length =
      offset + line.length + 1 + after.length := by simp; omega
  simp only [between, startsFrom_append_cons h, List.getD_cons_succ, hsize, stopOf,
    List.length_cons, Nat.add_lt_add_iff_right]
  generalize (startsFrom (offset + line.length + 1) after).getD n 0 = start at hle ⊢
  have hdrop : (line ++ '\n' :: after).drop (start - offset) =
      after.drop (start - (offset + line.length + 1)) := by
    rw [show start - offset = line.length + ((start - (offset + line.length + 1)) + 1) by omega,
      List.drop_length_add_append, List.drop_succ_cons]
  rw [hdrop]

/-- What lies before the first line feed is the first piece. -/
theorem splitOn_append_cons {line : List Char} (h : '\n' ∉ line) (after : List Char) :
    (line ++ '\n' :: after).splitOn '\n' = line :: after.splitOn '\n' :=
  List.splitOnP_append_cons_of_forall_mem
    (fun c hc => by simpa using ne_of_mem_of_not_mem hc h) _ (by simp) _

/-- Between its start and its end lies the line: a piece of the text split at line
feeds. -/
theorem getElem?_splitOn (offset n : Nat) (chars : List Char) (hn : n ≤ chars.count '\n') :
    (chars.splitOn '\n')[n]? = some (between offset chars n) := by
  induction n generalizing offset chars with
  | zero =>
    by_cases hmem : '\n' ∈ chars
    · obtain ⟨line, after, rfl, hline⟩ := List.eq_append_cons_of_mem hmem
      rw [splitOn_append_cons hline]
      simp only [between, startsFrom_append_cons hline]
      simp [stopOf, startsFrom]
    · rw [List.splitOn_eq_singleton hmem]
      simp [between, startsFrom_of_not_mem hmem, stopOf]
  | succ n ih =>
    have hmem : '\n' ∈ chars := List.count_pos_iff.mp (by omega)
    obtain ⟨line, after, rfl, hline⟩ := List.eq_append_cons_of_mem hmem
    have hafter : n ≤ after.count '\n' := by simpa [List.count_eq_zero.mpr hline] using hn
    rw [between_succ hline offset n hafter, ← ih _ after hafter, splitOn_append_cons hline,
      List.getElem?_cons_succ]

/-- The text of a line is that piece of the text split at line feeds, without the
carriage returns at its end. -/
theorem lineText_ofChars {chars line : List Char} {n : Nat} (hn : n ≤ chars.count '\n')
    (hline : (chars.splitOn '\n')[n]? = some line) :
    (ofChars chars).lineText ((n + 1 : Nat) : Int) =
      String.ofList (line.rdropWhile (· = '\r')) := by
  rw [getElem?_splitOn 0 n chars hn, Option.some.injEq] at hline
  have hsize : (ofChars chars).starts.size = chars.count '\n' + 1 := by
    simp [ofChars, lineStarts]
  have hrange : (1 : Int) ≤ (n + 1 : Nat) ∧
      ((n + 1 : Nat) : Int) ≤ (ofChars chars).starts.size := by
    omega
  rw [lineText, if_pos hrange, ← hline]
  simp only [Int.toNat_natCast, Nat.add_sub_cancel]
  simp [between, startsFrom, stopOf, ofChars, lineStarts, dropTrailingReturns, List.rdropWhile,
    Array.getD_eq_getD_getElem?]

end LineIndex

/-! ## Diagnostics -/

/-- A diagnostic tells the place of its range in a text: the range lies inside the
text, the line counts the line feeds before it, the column the characters since the
last of them, and the text of the line is told without carriage returns at its end. -/
structure Diagnostic.PointsInto (d : Diagnostic) (chars : List Char) : Prop where
  within : d.range.start ≤ d.range.stop ∧ d.range.stop ≤ chars.length
  line_eq : d.line = (chars.take d.range.start).count '\n' + 1
  column_eq : d.column = ((chars.take d.range.start).rtakeWhile (· ≠ '\n')).length + 1
  lineText_eq : ∃ line, (chars.splitOn '\n')[(chars.take d.range.start).count '\n']? = some line ∧
    d.lineText = String.ofList (line.rdropWhile (· = '\r'))

/-- A diagnostic about a range inside a text tells the place of that range. -/
theorem Source.pointsInto_diagnose (text : String) (path : Option String) (complaint : Complaint)
    {range : TextRange} (h : range.stop ≤ text.toList.length) :
    ((Source.ofText text path).diagnose complaint range).PointsInto text.toList := by
  have hstart := range.start_le_stop
  have hplace := LineIndex.lineColumn_take (Nat.le_trans hstart h)
  have hcount : (text.toList.take range.start).count '\n' ≤ text.toList.count '\n' :=
    (List.take_sublist _ _).count_le _
  have hline := LineIndex.getElem?_splitOn 0 _ text.toList hcount
  constructor
  · exact ⟨hstart, h⟩
  · simp [diagnose, locate, ofText, LineIndex.ofText, hplace]
  · simp [diagnose, locate, ofText, LineIndex.ofText, hplace, LineIndex.tail]
  · refine ⟨_, hline, ?_⟩
    rw [← LineIndex.lineText_ofChars hcount hline]
    simp [diagnose, locate, ofText, LineIndex.ofText, hplace]

end Rune
