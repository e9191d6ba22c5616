import Rune.Proofs.Json.Writing

/-!
# Rune - layouts of exported data

Exported data can be written in several layouts.  Their texts are equal once the white space
between tokens is left out: the layout changes nothing else, and nothing inside a string.

Main results:

- Definition {lit}`Json.unspaced` leaves out the white space outside of strings.
- Theorem {lit}`JsonText.unspaced_write`: the texts of two layouts are equal without it.
-/

namespace Rune

namespace Json

/-! ## White space outside of strings -/

/-- What a character belongs to: it stands outside of strings or inside of one, perhaps after
a backslash. -/
inductive Spot where
  | outside | inside | escaped
  deriving DecidableEq

/-- Where the character after a character stands. -/
def Spot.next (spot : Spot) (c : Char) : Spot :=
  match spot with
  | .outside => if c = '"' then .inside else .outside
  | .inside => if c = '"' then .outside else if c = '\\' then .escaped else .inside
  | .escaped => .inside

/-- A text without the white space outside of strings. -/
def unspaced (spot : Spot) : List Char → List Char
  | [] => []
  | c :: rest =>
    if spot = .outside ∧ isBlank c then unspaced spot rest
    else c :: unspaced (spot.next c) rest

/-- A character that stands outside of strings, is no white space and begins no string. -/
def isBare (c : Char) : Bool := c ≠ '"' && !isBlank c

theorem unspaced_blanks {blanks : List Char} (h : ∀ c ∈ blanks, isBlank c) (rest : List Char) :
    unspaced .outside (blanks ++ rest) = unspaced .outside rest := by
  induction blanks with
  | nil => rfl
  | cons c blanks ih =>
    rw [List.forall_mem_cons] at h
    rw [List.cons_append, unspaced, if_pos ⟨rfl, h.1⟩, ih h.2]

/-- Characters that neither begin nor end a string are kept, white space apart. -/
theorem unspaced_append {spot : Spot} {text : List Char}
    (h : ∀ c ∈ text, spot.next c = spot ∧ ¬ (spot = .outside ∧ isBlank c)) (rest : List Char) :
    unspaced spot (text ++ rest) = text ++ unspaced spot rest := by
  induction text with
  | nil => rfl
  | cons c text ih =>
    rw [List.forall_mem_cons] at h
    rw [List.cons_append, unspaced, if_neg h.1.2, h.1.1, ih h.2, List.cons_append]

/-- Two texts are equal without white space outside of strings, and so they are with anything
behind them that is equal without it. -/
structure Alike (text text' : List Char) : Prop where
  unspaced_eq {rest rest' : List Char} (h : unspaced .outside rest = unspaced .outside rest') :
    unspaced .outside (text ++ rest) = unspaced .outside (text' ++ rest')

namespace Alike

variable {text text' more more' : List Char}

theorem nil : Alike [] [] := ⟨id⟩

theorem append (h : Alike text text') (h' : Alike more more') :
    Alike (text ++ more) (text' ++ more') := by
  refine ⟨fun hrest => ?_⟩
  rw [List.append_assoc, List.append_assoc]
  exact h.unspaced_eq (h'.unspaced_eq hrest)

/-- White space is not kept. -/
theorem blanks (h : ∀ c ∈ text, isBlank c) (h' : ∀ c ∈ text', isBlank c) : Alike text text' := by
  refine ⟨fun hrest => ?_⟩
  rw [unspaced_blanks h, unspaced_blanks h', hrest]

/-- A text after which a string may begin is like itself. -/
theorem refl_of_append (h : ∀ rest, unspaced .outside (text ++ rest) =
    text ++ unspaced .outside rest) : Alike text text := by
  refine ⟨fun hrest => ?_⟩
  rw [h, h, hrest]

/-- What has neither white space nor strings is like itself. -/
theorem refl (h : ∀ c ∈ text, isBare c) : Alike text text := by
  refine refl_of_append (unspaced_append fun c hc => ?_)
  obtain ⟨hquote, hblank⟩ : c ≠ '"' ∧ isBlank c = false := by simpa [isBare] using h c hc
  exact ⟨if_neg hquote, fun hspot => by simp [hblank] at hspot⟩

/-- Words are like themselves. -/
theorem word (h : ∀ c ∈ text, isWordChar c) : Alike text text := by
  refine refl fun c hc => ?_
  have hquote : c ≠ '"' := fun heq => absurd (heq ▸ h c hc) (by decide)
  simp [isBare, hquote, isBlank_of_isWordChar (h c hc)]

end Alike

end Json

namespace JsonText

open Json (Alike unspaced isBare isBlank isWordChar unspaced_append)

/-! ## Strings and numbers -/

/-- An escaped character is kept, and the string goes on after it. -/
theorem unspaced_escape (c : Char) (rest : List Char) :
    unspaced .inside (escape c ++ rest) = escape c ++ unspaced .inside rest := by
  unfold escape
  iterate 7
    split
    · rfl
  split
  · rename_i hlow
    have hdigits : ∀ n < 32, (Quoted.hex 4 n).all
        fun digit => decide (Json.Spot.next .inside digit = .inside) := by
      decide
    have hkept := unspaced_append (fun digit hdigit =>
      ⟨of_decide_eq_true (List.all_eq_true.1 (hdigits _ hlow) digit hdigit), by simp⟩) rest
    exact congrArg (['\\', 'u'] ++ ·) hkept
  · rename_i hquote hbackslash _ _ _ _ _ _
    exact unspaced_append (by simp [Json.Spot.next, hquote, hbackslash]) rest

/-- A string is kept as it is. -/
theorem unspaced_quote (s : String) (rest : List Char) :
    unspaced .outside (quote s ++ rest) = quote s ++ unspaced .outside rest := by
  have hinside (text : List Char) : unspaced .inside (text.flatMap escape ++ '"' :: rest) =
      text.flatMap escape ++ '"' :: unspaced .outside rest := by
    induction text with
    | nil => rfl
    | cons c text ih =>
      rw [List.flatMap_cons, List.append_assoc, List.append_assoc, unspaced_escape, ih]
  rw [quote_append, quote_append, ← hinside]
  rfl

theorem isWordChar_number (n : Number) : ∀ c ∈ number n, isWordChar c := by
  by_cases h : n = .float .nan
  · subst h
    exact List.all_eq_true.1 rfl
  · rw [number_eq h]
    exact (Number.isNumber_token h).isWordChar

/-! ## Nested data -/

theorem alike_lineBreak (layout layout' : JsonLayout) (level level' : Nat) :
    Alike (lineBreak layout level) (lineBreak layout' level') :=
  .blanks (isBlank_lineBreak layout level) (isBlank_lineBreak layout' level')

theorem alike_separator (layout layout' : JsonLayout) (level level' : Nat) :
    Alike (separator layout level) (separator layout' level') := by
  obtain ⟨blanks, heq, h⟩ := exists_separator layout level
  obtain ⟨blanks', heq', h'⟩ := exists_separator layout' level'
  have hcomma : Alike [','] [','] := .refl (List.all_eq_true.1 rfl)
  rw [heq, heq']
  exact hcomma.append (.blanks h h')

/-- A key and what follows it are alike if the values are. -/
theorem alike_entry (key : String) {text text' : List Char} (h : Alike text text') :
    Alike (quote key ++ ([':', ' '] ++ text)) (quote key ++ ([':', ' '] ++ text')) := by
  have hquote : Alike (quote key) (quote key) := .refl_of_append (unspaced_quote key)
  have hcolon : Alike [':'] [':'] := .refl (List.all_eq_true.1 rfl)
  have hblank : Alike [' '] [' '] := .blanks (List.all_eq_true.1 rfl) (List.all_eq_true.1 rfl)
  exact hquote.append ((hcolon.append hblank).append h)

/-- What stands between two brackets may be broken into lines. -/
theorem alike_bracketed (left right : Char) (hleft : isBare left) (hright : isBare right)
    (layout layout' : JsonLayout) (level level' : Nat) {text text' : List Char}
    (h : Alike text text') :
    Alike ([left] ++ (lineBreak layout (level + 1) ++
        (text ++ (lineBreak layout level ++ [right]))))
      ([left] ++ (lineBreak layout' (level' + 1) ++
        (text' ++ (lineBreak layout' level' ++ [right])))) := by
  have hopen : Alike [left] [left] := .refl (by simpa using hleft)
  have hclose : Alike [right] [right] := .refl (by simpa using hright)
  have hbehind := (alike_lineBreak layout layout' level level').append hclose
  exact hopen.append ((alike_lineBreak ..).append (h.append hbehind))

mutual

/-- Data is written alike in all layouts, at any level. -/
theorem alike_writeAt (layout layout' : JsonLayout) (level level' : Nat) (datum : Datum) :
    Alike (writeAt layout level datum) (writeAt layout' level' datum) := by
  match datum with
  | .null | .bool true | .bool false => exact .word (List.all_eq_true.1 rfl)
  | .number n => exact .word (isWordChar_number n)
  | .text s => exact .refl_of_append (unspaced_quote s)
  | .list [] | .record [] => exact .refl (List.all_eq_true.1 rfl)
  | .list (item :: items) =>
    have hfirst := alike_writeAt layout layout' (level + 1) (level' + 1) item
    have hitems := alike_writeItems layout layout' (level + 1) (level' + 1) items
    have hall := alike_bracketed '[' ']' (by decide) (by decide) layout layout' level level'
      (hfirst.append hitems)
    simpa [writeAt] using hall
  | .record ((key, value) :: entries) =>
    have hfirst := alike_writeAt layout layout' (level + 1) (level' + 1) value
    have hentries := alike_writeEntries layout layout' (level + 1) (level' + 1) entries
    have hall := alike_bracketed '\x7b' '\x7d' (by decide) (by decide) layout layout' level level'
      ((alike_entry key hfirst).append hentries)
    simpa [writeAt] using hall

theorem alike_writeItems (layout layout' : JsonLayout) (level level' : Nat) (items : List Datum) :
    Alike (writeItems layout level items) (writeItems layout' level' items) := by
  match items with
  | [] => exact .nil
  | item :: items =>
    simp only [writeItems]
    exact ((alike_separator ..).append (alike_writeAt ..)).append (alike_writeItems ..)

theorem alike_writeEntries (layout layout' : JsonLayout) (level level' : Nat)
    (entries : List (String × Datum)) :
    Alike (writeEntries layout level entries) (writeEntries layout' level' entries) := by
  match entries with
  | [] => exact .nil
  | (key, value) :: entries =>
    have hentry := alike_entry key (alike_writeAt layout layout' level level' value)
    have hentries := alike_writeEntries layout layout' level level' entries
    have hall := (alike_separator layout layout' level level').append (hentry.append hentries)
    simpa [writeEntries] using hall

end

/-- The texts of two layouts are equal without the white space outside of strings. -/
theorem unspaced_write (layout layout' : JsonLayout) (datum : Datum) :
    unspaced .outside (write layout datum).toList =
      unspaced .outside (write layout' datum).toList := by
  have halike := alike_writeAt layout layout' 0 0 datum
  have hnothing : unspaced .outside [] = unspaced .outside [] := rfl
  rw [write, write, String.toList_ofList, String.toList_ofList]
  simpa using halike.unspaced_eq hnothing

end JsonText

end Rune
