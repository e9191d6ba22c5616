import Rune.Config.Query
import Rune.Proofs.Config.Positions
import Rune.Proofs.Text.Lines

/-!
# Rune - segments that are positions

In an array a segment of a path is a position if it is written with digits only.  The decimal
digits of every script have a place in a numeral.  A superscript or a circled digit has none, and
a numeral can have too many digits: a segment with such digits stands for no position, and a
query that meets it in an array is refused.

Main results:

- Relation {lit}`Lookup.Denotes` says which position a segment stands for.
- Relation {lit}`Lookup.Leads` says where segments lead.
- Theorems {lit}`Lookup.walk_eq_some_iff` and {lit}`Lookup.walk_eq_error_iff`: following segments
  finds where they lead, and it is refused exactly where they reach digits that stand for no
  position.
-/

namespace Rune

/-! ## Characters between two boundaries -/

namespace Unicode

/-- A member of the class of a table lies between two neighbouring boundaries of it. -/
theorem Table.exists_of_contains {table : Array Nat} (hsorted : table.toList.Pairwise (· ≤ ·))
    (heven : table.size % 2 = 0) {c : Char} (h : contains table c = true) :
    ∃ i < table.size, i % 2 = 0 ∧ table.getD i 0 ≤ c.toNat ∧ c.toNat < table.getD (i + 1) 0 := by
  have hfound : SortedSearch.Brackets table c.toNat _ _ :=
    SortedSearch.Brackets.bisect hsorted ⟨Nat.zero_le _, Nat.le_refl _,
      fun i hi => absurd hi (Nat.not_lt_zero i),
      fun i hle hi => absurd hi (Nat.not_lt.2 hle)⟩ (Nat.sub_le _ _)
  have hodd : SortedSearch.countUpTo table c.toNat % 2 = 1 := by simpa [contains] using h
  change SortedSearch.Brackets _ _ (SortedSearch.countUpTo _ _) (SortedSearch.countUpTo _ _)
    at hfound
  generalize SortedSearch.countUpTo table c.toNat = count at hfound hodd
  have hsize := hfound.le_size
  obtain ⟨i, rfl⟩ : ∃ i, count = i + 1 := ⟨count - 1, by omega⟩
  exact ⟨i, by omega, by omega, hfound.below i (by omega),
    hfound.above (i + 1) (Nat.le_refl _) (by omega)⟩

/-- White space is no digit. -/
theorem isDigit_of_isSpace {c : Char} (h : isSpace c = true) : isDigit c = false := by
  have hspaces : ∀ i < spaceTable.size, i % 2 = 0 → ∀ n ∈ List.range' (spaceTable.getD i 0)
      (spaceTable.getD (i + 1) 0 - spaceTable.getD i 0), isDigit (Char.ofNat n) = false := by
    decide +kernel
  obtain ⟨i, hi, hstart, hlow, hhigh⟩ := Table.exists_of_contains (by decide) (by decide) h
  rw [← Char.ofNat_toNat c]
  exact hspaces i hi hstart _ (by rw [List.mem_range'_1]; omega)

end Unicode

/-! ## Reading digits -/

namespace Numeral

variable {chars : List Char}

/-- Digits are read up to the first one that has no place in a numeral. -/
theorem readRun_of_digits (h : ∀ c ∈ chars, Unicode.isDigit c = true) :
    readRun chars = ((chars.takeWhile Unicode.isDecimal).filterMap Unicode.decimalValue?,
      chars.dropWhile Unicode.isDecimal) := by
  induction chars with
  | nil => rfl
  | cons c chars ih =>
    rw [List.forall_mem_cons] at h
    rw [readRun]
    cases hvalue : Unicode.decimalValue? c with
    | some n =>
      have hdecimal : Unicode.isDecimal c = true := by rw [Unicode.isDecimal, hvalue]; rfl
      rw [ih h.2]
      simp [hdecimal, hvalue]
    | none =>
      have hdecimal : Unicode.isDecimal c = false := by rw [Unicode.isDecimal, hvalue]; rfl
      have hunderscore : c ≠ '_' := by
        rintro rfl
        exact absurd h.1 (by decide)
      simp [hdecimal, hunderscore]

/-- They are so too where a numeral may not begin with an underscore. -/
theorem readDigits_of_digits (h : ∀ c ∈ chars, Unicode.isDigit c = true) :
    readDigits chars = ((chars.takeWhile Unicode.isDecimal).filterMap Unicode.decimalValue?,
      chars.dropWhile Unicode.isDecimal) := by
  rw [readDigits]
  split
  · exact readRun_of_digits h
  · rename_i hhead
    cases chars with
    | nil => rfl
    | cons c chars =>
      have hc : Unicode.isDecimal c = false := by simpa using hhead
      simp [hc]

/-- Digits have no padding around them and no sign before them. -/
theorem readSign_unpad_of_digits (h : ∀ c ∈ chars, Unicode.isDigit c = true) :
    readSign (unpad chars) = (false, chars) := by
  have hpadding : ∀ c ∈ chars, isPadding c = false := by
    intro c hc
    have hspace : Unicode.isSpace c = false := by
      refine Bool.eq_false_iff.2 fun hspace => ?_
      have hdigit := h c hc
      rw [Unicode.isDigit_of_isSpace hspace] at hdigit
      cases hdigit
    rw [isPadding, hspace, Bool.false_and]
  rw [unpad_eq_self hpadding]
  exact readSign_eq_self (fun hminus => absurd (h _ hminus) (by decide))
    fun hplus => absurd (h _ hplus) (by decide)

end Numeral

/-! ## Positions -/

namespace Lookup

/-- The position that a segment stands for: it is written with decimal digits of any scripts,
and not with too many of them. -/
structure Denotes (segment : String) (position : Nat) : Prop where
  ne_empty : segment ≠ ""
  decimal : ∀ c ∈ segment.toList, Unicode.isDecimal c = true
  few : segment.length ≤ Numeral.maxDigits
  ofDigits_eq : Numeral.ofDigits (segment.toList.filterMap Unicode.decimalValue?) = position

variable {segment : String}

/-- What stands for a position is taken for one. -/
theorem Denotes.isIndex {position : Nat} (h : Denotes segment position) :
    isIndex segment = true := by
  have hdigits : segment.toList.all Unicode.isDigit = true :=
    List.all_eq_true.2 fun c hc => Unicode.isDigit_of_isDecimal (h.decimal c hc)
  rw [Lookup.isIndex, hdigits, Bool.and_true, bne_iff_ne]
  exact h.ne_empty

/-- A segment that is taken for a position is read as the position that it stands for. -/
theorem readInt_eq_ok_iff (h : isIndex segment = true) {i : Int} :
    Numeral.readInt segment = .ok i ↔
      ∃ position : Nat, Denotes segment position ∧ i = position := by
  obtain ⟨hempty, hdigits⟩ : segment ≠ "" ∧ ∀ c ∈ segment.toList, Unicode.isDigit c = true := by
    simpa [isIndex] using h
  unfold Numeral.readInt
  rw [Numeral.readSign_unpad_of_digits hdigits]
  dsimp only
  rw [Numeral.readDigits_of_digits hdigits]
  dsimp only
  by_cases hall : ∀ c ∈ segment.toList, Unicode.isDecimal c = true
  · have htake : segment.toList.takeWhile Unicode.isDecimal = segment.toList :=
      List.takeWhile_eq_self_iff.2 hall
    have hdrop : segment.toList.dropWhile Unicode.isDecimal = [] := List.dropWhile_eq_nil_iff.2 hall
    have hlength : (segment.toList.filterMap Unicode.decimalValue?).length = segment.length := by
      rw [List.length_filterMap_eq_countP, ← String.length_toList, List.countP_eq_length]
      exact hall
    have hnonempty : (segment.toList.filterMap Unicode.decimalValue?).isEmpty = false := by
      rw [List.isEmpty_eq_false_iff, Ne, ← List.length_eq_zero_iff, hlength,
        ← String.length_toList, List.length_eq_zero_iff, String.toList_eq_nil_iff]
      exact hempty
    rw [htake, hdrop, hlength, hnonempty]
    by_cases hfew : segment.length ≤ Numeral.maxDigits
    · rw [if_neg (Nat.not_lt.2 hfew)]
      constructor
      · rintro ⟨⟩
        exact ⟨_, ⟨hempty, hall, hfew, rfl⟩, rfl⟩
      · rintro ⟨position, hdenotes, rfl⟩
        rw [← hdenotes.ofDigits_eq]
        rfl
    · rw [if_pos (Nat.lt_of_not_le hfew)]
      refine iff_of_false (by rintro ⟨⟩) ?_
      rintro ⟨_, hdenotes, -⟩
      exact hfew hdenotes.few
  · -- Behind the decimal digits something is left, or else there are too many of them already.
    have hdrop : (segment.toList.dropWhile Unicode.isDecimal).isEmpty = false := by
      rw [List.isEmpty_eq_false_iff, Ne, List.dropWhile_eq_nil_iff]
      exact hall
    refine iff_of_false ?_ ?_
    · rw [hdrop, Bool.not_false, Bool.or_true, if_pos rfl]
      split <;> rintro ⟨⟩
    · rintro ⟨_, hdenotes, -⟩
      exact hall hdenotes.decimal

/-! ## Following segments -/

/-- Segments lead from a value to a part of it: on from an object at its entry, and on from an
array at the position that a segment stands for. -/
inductive Leads : Value → List String → Value → Prop
  | here (value : Value) : Leads value [] value
  | entry {entries : Entries Value} {segment : String} {next found : Value}
      {segments : List String} (hentry : Entries.get? segment entries = some next)
      (hnext : Leads next segments found) : Leads (.object entries) (segment :: segments) found
  | item {items : List Value} {segment : String} {position : Nat} {next found : Value}
      {segments : List String} (hdenotes : Denotes segment position)
      (hitem : items[position]? = some next) (hnext : Leads next segments found) :
      Leads (.array items) (segment :: segments) found

/-- Segments lead to an array, and there to digits that stand for no position. -/
def Trips (value : Value) (segments : List String) : Prop :=
  ∃ before segment after items, segments = before ++ segment :: after ∧
    Leads value before (.array items) ∧ isIndex segment = true ∧
    ∀ position, ¬Denotes segment position

variable {value next found : Value} {segments : List String}

/-- The first of several segments leads to the part from which the others lead on. -/
theorem leads_cons_iff : Leads value (segment :: segments) found ↔
    ∃ next, child segment value = .ok (some next) ∧ Leads next segments found := by
  constructor
  · intro h
    cases h with
    | @entry _ _ next _ _ hentry hnext => exact ⟨next, congrArg Except.ok hentry, hnext⟩
    | @item items _ position next _ _ hdenotes hitem hnext =>
      refine ⟨next, ?_, hnext⟩
      rw [child, if_pos hdenotes.isIndex,
        (readInt_eq_ok_iff hdenotes.isIndex).2 ⟨position, hdenotes, rfl⟩, ← hitem]
      rfl
  · rintro ⟨next, hchild, hnext⟩
    unfold child at hchild
    split at hchild
    · exact .entry (Except.ok.inj hchild) hnext
    · split at hchild
      · rename_i items hindex
        cases hread : Numeral.readInt segment with
        | error fault =>
          rw [hread] at hchild
          cases hchild
        | ok i =>
          obtain ⟨position, hdenotes, rfl⟩ := (readInt_eq_ok_iff hindex).1 hread
          rw [hread] at hchild
          exact .item hdenotes (Except.ok.inj hchild) hnext
      · cases hchild
    · cases hchild

/-- A segment is refused in an array alone. -/
theorem child_eq_error_iff : (∃ fault, child segment value = .error fault) ↔
    (∃ items, value = .array items) ∧ isIndex segment = true ∧
      ∀ position, ¬Denotes segment position := by
  cases value with
  | array items =>
    by_cases hindex : isIndex segment = true
    · rw [child, if_pos hindex]
      cases hread : Numeral.readInt segment with
      | ok i =>
        obtain ⟨position, hdenotes, -⟩ := (readInt_eq_ok_iff hindex).1 hread
        refine iff_of_false (by rintro ⟨_, ⟨⟩⟩) ?_
        rintro ⟨-, -, h⟩
        exact h position hdenotes
      | error fault =>
        refine iff_of_true ⟨fault, rfl⟩ ⟨⟨items, rfl⟩, hindex, fun position hdenotes => ?_⟩
        rw [(readInt_eq_ok_iff hindex).2 ⟨position, hdenotes, rfl⟩] at hread
        cases hread
    · rw [child, if_neg hindex]
      refine iff_of_false (by rintro ⟨_, ⟨⟩⟩) ?_
      rintro ⟨-, h, -⟩
      exact hindex h
  | _ => exact iff_of_false (by rintro ⟨_, ⟨⟩⟩) (by rintro ⟨⟨_, ⟨⟩⟩, -⟩)

/-- Following segments finds what they lead to. -/
theorem walk_eq_some_iff : walk segments value = .ok (some found) ↔ Leads value segments found := by
  induction segments generalizing value with
  | nil =>
    constructor
    · rintro ⟨⟩
      exact .here _
    · rintro ⟨⟩
      rfl
  | cons segment segments ih =>
    rw [leads_cons_iff, walk]
    rcases hchild : child segment value with fault | _ | next
    · exact iff_of_false (by rintro ⟨⟩) (by rintro ⟨_, ⟨⟩, -⟩)
    · exact iff_of_false (by rintro ⟨⟩) (by rintro ⟨_, ⟨⟩, -⟩)
    · refine ih.trans ⟨fun h => ⟨next, rfl, h⟩, ?_⟩
      rintro ⟨_, ⟨⟩, h⟩
      exact h

/-- Without segments there is nothing to trip over. -/
theorem not_trips_nil : ¬Trips value [] := by
  rintro ⟨before, segment, after, items, h, -⟩
  exact List.append_ne_nil_of_right_ne_nil before (List.cons_ne_nil _ _) h.symm

/-- Segments trip at the first one, or behind what it leads to. -/
theorem trips_cons_iff : Trips value (segment :: segments) ↔
    (∃ fault, child segment value = .error fault) ∨
      ∃ next, child segment value = .ok (some next) ∧ Trips next segments := by
  rw [child_eq_error_iff]
  constructor
  · rintro ⟨before, tripping, after, items, hsegments, hbefore, htrips⟩
    cases before with
    | nil =>
      obtain ⟨rfl, rfl⟩ := List.cons.inj hsegments
      cases hbefore
      exact .inl ⟨⟨items, rfl⟩, htrips⟩
    | cons first before =>
      obtain ⟨rfl, rfl⟩ := List.cons.inj hsegments
      obtain ⟨next, hchild, hnext⟩ := leads_cons_iff.1 hbefore
      exact .inr ⟨next, hchild, before, tripping, after, items, rfl, hnext, htrips⟩
  · rintro (⟨⟨items, rfl⟩, htrips⟩ |
      ⟨next, hchild, before, tripping, after, items, rfl, hnext, htrips⟩)
    · exact ⟨[], segment, segments, items, rfl, .here _, htrips⟩
    · exact ⟨segment :: before, tripping, after, items, rfl,
        leads_cons_iff.2 ⟨next, hchild, hnext⟩, htrips⟩

/-- Following segments is refused where they trip. -/
theorem walk_eq_error_iff :
    (∃ fault, walk segments value = .error fault) ↔ Trips value segments := by
  induction segments generalizing value with
  | nil => exact iff_of_false (by rintro ⟨_, ⟨⟩⟩) not_trips_nil
  | cons segment segments ih =>
    rw [trips_cons_iff, walk]
    rcases hchild : child segment value with fault | _ | next
    · exact iff_of_true ⟨fault, rfl⟩ (.inl ⟨fault, rfl⟩)
    · exact iff_of_false (by rintro ⟨_, ⟨⟩⟩) (by rintro (⟨_, ⟨⟩⟩ | ⟨_, ⟨⟩, _⟩))
    · refine ih.trans ⟨fun h => .inr ⟨next, rfl, h⟩, ?_⟩
      rintro (⟨_, ⟨⟩⟩ | ⟨_, ⟨⟩, h⟩)
      exact h

end Lookup

end Rune
