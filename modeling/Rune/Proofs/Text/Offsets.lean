import Mathlib
import Rune.Proofs.Text.Lines

/-!
# Rune - every offset has a place of its own

The lines of a text are its pieces between line feeds.  A line begins behind the lines before
it and their line feeds, and an offset is told by the line that holds it and by how far behind
the beginning of that line it is.  Two offsets never share a place, since what lies between them
either holds a line feed or is all on one line.

Main results:

- Structure {lit}`LineIndex.Locates`: what the index of a text answers, told in terms of the
  text split at line feeds.
- Theorem {lit}`LineIndex.locates_ofText`: the index of every text answers so.
-/

namespace Rune

/-- A place in the order of a text: lines first, then the columns of a line. -/
def LineColumn.inOrder (place : LineColumn) : Nat ×ₗ Nat := toLex (place.line, place.column)

namespace LineIndex

variable {chars : List Char}

/-! ## The characters since the last line feed -/

/-- A line feed begins a line, and other characters go on with it. -/
theorem tail_concat (before : List Char) (c : Char) :
    tail (before ++ [c]) = if c = '\n' then [] else tail before ++ [c] := by
  simp [tail, List.rtakeWhile_concat]

/-- What stands before a line feed is forgotten behind it. -/
theorem tail_append_lineFeed (line rest : List Char) : tail (line ++ '\n' :: rest) = tail rest := by
  induction rest using List.reverseRecOn with
  | nil => rw [tail_concat, if_pos rfl]; rfl
  | append_singleton rest c ih =>
    rw [← List.cons_append, ← List.append_assoc, tail_concat, tail_concat, ih]

/-- Characters without a line feed go on with the line. -/
theorem tail_append_of_notMem (before : List Char) {rest : List Char} (h : '\n' ∉ rest) :
    tail (before ++ rest) = tail before ++ rest := by
  induction rest using List.reverseRecOn with
  | nil => rw [List.append_nil, List.append_nil]
  | append_singleton rest c ih =>
    obtain ⟨hrest, hc⟩ := not_or.1 (List.mem_append.not.1 h)
    rw [← List.append_assoc, tail_concat, ih hrest, List.append_assoc, if_neg]
    exact fun heq => hc (heq ▸ List.mem_singleton_self _)

/-! ## The beginnings of lines -/

/-- A text is a line, or a line with its line feed and then a text. -/
@[elab_as_elim]
theorem lines_induction {motive : List Char → Prop} (last : ∀ line, '\n' ∉ line → motive line)
    (next : ∀ line rest, '\n' ∉ line → motive rest → motive (line ++ '\n' :: rest))
    (chars : List Char) : motive chars := by
  induction hlines : chars.count '\n' generalizing chars with
  | zero => exact last chars (List.count_eq_zero.1 hlines)
  | succ n ih =>
    have hmem : '\n' ∈ chars := List.count_pos_iff.1 (by omega)
    obtain ⟨line, rest, rfl, hline⟩ := List.eq_append_cons_of_mem hmem
    have hrest : rest.count '\n' = n := by simpa [List.count_eq_zero.2 hline] using hlines
    exact next line rest hline (ih rest hrest)

/-- There is one line more than there are line feeds. -/
theorem length_splitOn (chars : List Char) :
    (chars.splitOn '\n').length = chars.count '\n' + 1 := by
  induction chars using lines_induction with
  | last line h => rw [List.splitOn_eq_singleton h, List.count_eq_zero.2 h, List.length_singleton]
  | next line rest h ih =>
    rw [splitOn_append_cons h, List.length_cons, ih, List.count_append, List.count_eq_zero.2 h,
      List.count_cons_self, Nat.zero_add]

/-- The offset at which a line begins, the first line being line zero: behind all lines before
it and the line feed of each of them. -/
def beginning (chars : List Char) (line : Nat) : Nat :=
  (((chars.splitOn '\n').take line).map fun text => text.length + 1).sum

@[simp] theorem beginning_zero (chars : List Char) : beginning chars 0 = 0 := by
  simp [beginning]

/-- Every line but the first begins behind the first one. -/
theorem beginning_succ {line : List Char} (h : '\n' ∉ line) (after : List Char) (n : Nat) :
    beginning (line ++ '\n' :: after) (n + 1) = line.length + 1 + beginning after n := by
  simp [beginning, splitOn_append_cons h]

/-- Between the beginning of a line and an offset of the line lie the characters since the last
line feed before that offset. -/
theorem beginning_add_length_tail (before after : List Char) :
    beginning (before ++ after) (before.count '\n') + (tail before).length = before.length := by
  induction before using lines_induction with
  | last line h =>
    have htail : tail line = line := tail_append_of_notMem [] h
    rw [List.count_eq_zero.2 h, beginning_zero, htail, Nat.zero_add]
  | next line rest h ih =>
    rw [List.append_assoc, List.cons_append, List.count_append, List.count_eq_zero.2 h,
      List.count_cons_self, Nat.zero_add, beginning_succ h, tail_append_lineFeed,
      List.length_append, List.length_cons]
    omega

/-! ## Places -/

/-- What an index of a text answers: the line of an offset counts the line feeds before it, its
column the characters from the beginning of that line on, offsets outside the text being moved
to its nearest end.  Offsets in the text are told apart and told in their order.  The lines are
the pieces of the text between line feeds, without the carriage returns at their ends, and there
are no others. -/
structure Locates (index : LineIndex) (chars : List Char) : Prop where
  lineColumn_eq : ∀ (offset : Int) (position line : Nat),
    (position : Int) = max 0 (min offset chars.length) →
    line = (chars.take position).count '\n' →
      beginning chars line ≤ position ∧ index.lineColumn offset =
        { line := 1 + line, column := position - beginning chars line + 1 }
  injOn : Set.InjOn index.lineColumn (Set.Icc 0 (chars.length : Int))
  strictMonoOn :
    StrictMonoOn (fun offset => (index.lineColumn offset).inOrder) (Set.Icc 0 (chars.length : Int))
  lineText_eq : ∀ (line : Nat) (h : line < (chars.splitOn '\n').length),
    index.lineText ((line + 1 : Nat) : Int) =
      String.ofList ((chars.splitOn '\n')[line].rdropWhile (· = '\r'))
  lineText_eq_empty : ∀ line : Int, line < 1 ∨ ((chars.splitOn '\n').length : Int) < line →
    index.lineText line = ""

/-- The place of an offset, which is moved into the text. -/
theorem lineColumn_of_eq_clamp {offset : Int} {position : Nat}
    (h : (position : Int) = max 0 (min offset chars.length)) :
    (ofChars chars).lineColumn offset =
      { line := (chars.take position).count '\n' + 1
        column := (tail (chars.take position)).length + 1 } := by
  have hposition : (ofChars chars).clamp offset = position := by
    simp only [clamp, ofChars]
    omega
  have hclamp : (ofChars chars).clamp position = position := by
    simp only [clamp, ofChars]
    omega
  rw [← lineColumn_take (by omega), lineColumn, lineColumn, hposition, hclamp]

/-- Further on in a text is further on in the order of places. -/
theorem strictMonoOn_lineColumn (chars : List Char) :
    StrictMonoOn (fun offset => ((ofChars chars).lineColumn offset).inOrder)
      (Set.Icc 0 (chars.length : Int)) := by
  intro here hhere there hthere hlt
  obtain ⟨n, rfl⟩ := Int.eq_ofNat_of_zero_le hhere.1
  obtain ⟨m, rfl⟩ := Int.eq_ofNat_of_zero_le hthere.1
  have hn : n ≤ chars.length := Int.ofNat_le.1 hhere.2
  have hm : m ≤ chars.length := Int.ofNat_le.1 hthere.2
  have hnm : n < m := Int.ofNat_lt.1 hlt
  have hbetween : chars.take m = chars.take n ++ (chars.drop n).take (m - n) := by
    rw [← List.take_add, Nat.add_sub_cancel' (Nat.le_of_lt hnm)]
  have hlength : ((chars.drop n).take (m - n)).length = m - n :=
    List.length_take_of_le (by rw [List.length_drop]; omega)
  dsimp only
  rw [lineColumn_take hn, lineColumn_take hm, hbetween]
  refine Prod.Lex.toLex_lt_toLex.2 ?_
  by_cases hmem : '\n' ∈ (chars.drop n).take (m - n)
  · -- A line feed between the two offsets puts the second one on a later line.
    have hcount := List.count_pos_iff.2 hmem
    left
    dsimp only
    rw [List.count_append]
    omega
  · -- Otherwise both are on one line.
    refine .inr ⟨?_, ?_⟩ <;> dsimp only
    · rw [List.count_append, List.count_eq_zero.2 hmem, Nat.add_zero]
    · rw [tail_append_of_notMem _ hmem, List.length_append, hlength]
      omega

/-- The index of every text answers what it has to. -/
theorem locates_ofText (text : String) : (ofText text).Locates text.toList where
  lineColumn_eq offset position line hposition hline := by
    have hlength :=
      beginning_add_length_tail (text.toList.take position) (text.toList.drop position)
    rw [List.take_append_drop, List.length_take_of_le (by omega), ← hline] at hlength
    rw [ofText, lineColumn_of_eq_clamp hposition, ← hline, LineColumn.mk.injEq]
    omega
  injOn := by
    intro here hhere there hthere heq
    exact (strictMonoOn_lineColumn text.toList).injOn hhere hthere
      (congrArg LineColumn.inOrder heq)
  strictMonoOn := strictMonoOn_lineColumn text.toList
  lineText_eq line h := by
    rw [length_splitOn] at h
    exact lineText_ofChars (by omega) (List.getElem?_eq_getElem _)
  lineText_eq_empty line h := by
    rw [length_splitOn] at h
    have hsize : (ofText text).starts.size = text.toList.count '\n' + 1 := by
      simp [ofText, ofChars, lineStarts]
    rw [lineText, if_neg]
    omega

end LineIndex

end Rune
