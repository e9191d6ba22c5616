import Mathlib.Data.List.Basic
import Rune.Config.Lookup
import Rune.Proofs.Number.Digits

/-!
# Rune - dotted paths

A dotted path is made of segments.  Segments that are not empty and have no dot can be put
together to a path and are found in it again, in canonical spelling.  The position of an
item in an array is such a segment, and it is read as the number that it is written from.

Main results:

- Theorem {lit}`Key.path_intercalate`: the segments of a path that is put together.
- Theorem {lit}`Lookup.child_toString`: the segment of a position leads to the item there.
-/

namespace Rune

/-! ## Segments -/

namespace Key

/-- A segment of a dotted path is not empty and has no dot. -/
structure IsSegment (segment : String) : Prop where
  ne_empty : segment ≠ ""
  no_dot : '.' ∉ segment.toList

theorem splitDots_of_notMem {chars : List Char} (h : '.' ∉ chars) : splitDots chars = [chars] := by
  induction chars with
  | nil => rfl
  | cons c chars ih =>
    rw [List.mem_cons, not_or] at h
    rw [splitDots, if_neg (Ne.symm h.1), ih h.2]

theorem splitDots_append {chars : List Char} (h : '.' ∉ chars) (rest : List Char) :
    splitDots (chars ++ '.' :: rest) = chars :: splitDots rest := by
  induction chars with
  | nil => exact if_pos rfl
  | cons c chars ih =>
    rw [List.mem_cons, not_or] at h
    rw [List.cons_append, splitDots, if_neg (Ne.symm h.1), ih h.2]

/-- Pieces without dots are found again between dots. -/
theorem splitDots_intercalate {pieces : List (List Char)} (hpieces : pieces ≠ [])
    (h : ∀ piece ∈ pieces, '.' ∉ piece) : splitDots (['.'].intercalate pieces) = pieces := by
  induction pieces with
  | nil => exact absurd rfl hpieces
  | cons piece pieces ih =>
    rw [List.forall_mem_cons] at h
    cases pieces with
    | nil => simpa using splitDots_of_notMem h.1
    | cons next pieces =>
      rw [List.intercalate_cons_cons, List.append_assoc, List.singleton_append,
        splitDots_append h.1, ih (List.cons_ne_nil _ _) h.2]

/-- Segments are found again in a dotted path, in canonical spelling. -/
theorem path_intercalate {segments : List String} (h : ∀ segment ∈ segments, IsSegment segment) :
    path (".".intercalate segments) = segments.map canonical := by
  have htext : (".".intercalate segments).toList =
      ['.'].intercalate (segments.map String.toList) := String.toList_intercalate
  have hkept : (segments.map String.toList).filter (· ≠ []) = segments.map String.toList := by
    rw [List.filter_eq_self]
    intro piece hpiece
    obtain ⟨segment, hsegment, rfl⟩ := List.mem_map.1 hpiece
    simpa [String.toList_eq_nil_iff] using (h segment hsegment).ne_empty
  have hdots : ∀ piece ∈ segments.map String.toList, '.' ∉ piece :=
    List.forall_mem_map.2 fun segment hsegment => (h segment hsegment).no_dot
  unfold path
  rw [htext]
  cases segments with
  | nil => rfl
  | cons segment segments =>
    rw [splitDots_intercalate (by simp) hdots, hkept, List.map_map]
    simp

end Key

/-! ## Positions of items -/

/-- The position of an item is a segment. -/
theorem Key.isSegment_toString (index : Nat) : Key.IsSegment (toString index) where
  ne_empty := Numeral.toString_ne_empty index
  no_dot hdot := absurd (Numeral.isDigit_of_mem_toString hdot) (by decide)

/-- The position of an item is in canonical spelling. -/
theorem Key.canonical_toString (index : Nat) : Key.canonical (toString index) = toString index := by
  have hsame : ∀ c ∈ (toString index).toList, Key.canonicalChar c = c := by
    intro c hc
    have hhyphen : c ≠ '-' := by
      rintro rfl
      exact absurd (Numeral.isDigit_of_mem_toString hc) (by decide)
    rw [Key.canonicalChar, if_neg hhyphen]
  rw [Key.canonical, List.map_congr_left hsame, List.map_id', String.ofList_toList]

namespace Lookup

theorem isIndex_toString (index : Nat) : isIndex (toString index) = true := by
  have hdigits : (toString index).toList.all Unicode.isDigit = true := by
    rw [List.all_eq_true]
    intro c hc
    have hdecimal := Numeral.decimalValue?_of_isDigit (Numeral.isDigit_of_mem_toString hc)
    exact Unicode.isDigit_of_isDecimal (by rw [Unicode.isDecimal, hdecimal]; rfl)
  rw [isIndex, hdigits, Bool.and_true, bne_iff_ne]
  exact Numeral.toString_ne_empty index

/-- The segment of a position leads to the item there. -/
theorem child_toString {index : Nat} (h : (toString index).length ≤ Numeral.maxDigits)
    (items : List Value) : child (toString index) (.array items) = .ok items[index]? := by
  rw [child, if_pos (isIndex_toString index), Numeral.readInt_toString h]
  rfl

end Lookup

end Rune
