import Rune.Proofs.Json.Numbers
import Rune.Value.JsonText

/-!
# Rune - exported data is read again

The text of exported data is read into the tree of that data: with the same keys in the same
order, the same strings, and the tokens of the numbers.

Main results:

- Definition {lit}`Datum.json` is the tree of exported data.
- Theorem {lit}`JsonText.derives_write_iff`: the text of exported data is read into its tree
  and into no other one.
-/

namespace Rune

/-! ## Trees of exported data -/

namespace Datum

mutual

/-- The tree of exported data. -/
def json : Datum → Json
  | .null => .null
  | .bool flag => .bool flag
  | .number n => .number n.token
  | .text s => .string s
  | .list items => .array (jsonItems items)
  | .record entries => .object (jsonEntries entries)

/-- The trees of several items. -/
def jsonItems : List Datum → List Json
  | [] => []
  | item :: items => json item :: jsonItems items

/-- The trees of several entries, under their keys. -/
def jsonEntries : List (String × Datum) → List (String × Json)
  | [] => []
  | (key, value) :: entries => (key, json value) :: jsonEntries entries

end

/-- Everything in exported data that should be a number is one. -/
inductive Sound : Datum → Prop
  | null : Sound .null
  | bool (flag : Bool) : Sound (.bool flag)
  | number {n : Number} (h : n ≠ .float .nan) : Sound (.number n)
  | text (s : String) : Sound (.text s)
  | list {items : List Datum} (h : ∀ item ∈ items, Sound item) : Sound (.list items)
  | record {entries : List (String × Datum)} (h : ∀ entry ∈ entries, Sound entry.2) :
    Sound (.record entries)

theorem Sound.number_ne {n : Number} (h : (Datum.number n).Sound) : n ≠ .float .nan := by
  cases h with
  | number h => exact h

theorem Sound.items {items : List Datum} (h : (Datum.list items).Sound) :
    ∀ item ∈ items, item.Sound := by
  cases h with
  | list h => exact h

theorem Sound.entries {entries : List (String × Datum)} (h : (Datum.record entries).Sound) :
    ∀ entry ∈ entries, entry.2.Sound := by
  cases h with
  | record h => exact h

end Datum

/-! ## White space -/

namespace Json

theorem skip_append {blanks : List Char} (h : ∀ c ∈ blanks, isBlank c) (input : List Char) :
    skip (blanks ++ input) = skip input := List.dropWhile_append_of_pos h

theorem skip_cons {c : Char} (h : isBlank c = false) (rest : List Char) :
    skip (c :: rest) = c :: rest := List.dropWhile_cons_of_neg (by simp [h])

theorem isBlank_of_isWordChar {c : Char} (h : isWordChar c) : isBlank c = false := by
  by_contra hc
  simp only [isBlank, Bool.not_eq_false, Bool.or_eq_true, decide_eq_true_eq] at hc
  rcases hc with ((rfl | rfl) | rfl) | rfl <;> exact absurd h (by decide)

/-- A value does not begin with white space. -/
theorem Value.skip_eq {input rest : List Char} {tree : Json} (h : Value input tree rest) :
    skip input = input := by
  cases h with
  | @word _ token _ _ hinput hword _ =>
    rw [hinput]
    cases token with
    | nil => exact absurd rfl hword.ne_nil
    | cons c token =>
      exact skip_cons (isBlank_of_isWordChar (hword.isWordChar c List.mem_cons_self)) _
  | string | emptyArray | array | emptyObject | object => exact skip_cons (by decide) _

/-- White space may stand before a value. -/
theorem Value.behind {blanks input rest : List Char} {tree : Json}
    (h : Value input tree rest) (hblanks : ∀ c ∈ blanks, isBlank c) :
    Value (skip (blanks ++ input)) tree rest := by
  rwa [skip_append hblanks, h.skip_eq]

/-- White space may stand before an entry. -/
theorem Entry.behind {blanks input rest : List Char} {entry : String × Json}
    (h : Entry input entry rest) (hblanks : ∀ c ∈ blanks, isBlank c) :
    Entry (skip (blanks ++ input)) entry rest := by
  cases h with
  | mk hkey hskip hvalue =>
    rw [skip_append hblanks, skip_cons (by decide)]
    exact .mk hkey hskip hvalue

theorem endsWord_cons {c : Char} (h : isWordChar c = false) (rest : List Char) :
    EndsWord (c :: rest) := by
  rintro _ ⟨⟩
  exact h

end Json

namespace JsonText

open Json (EndsWord Word Derives isBlank isWordChar skip codeUnit? endsWord_cons skip_append
  skip_cons)

theorem isBlank_lineBreak (layout : JsonLayout) (level : Nat) :
    ∀ c ∈ lineBreak layout level, isBlank c := by
  cases layout with
  | oneLine => exact nofun
  | lines width =>
    refine List.forall_mem_cons.2 ⟨by decide, fun c hc => ?_⟩
    rw [List.eq_of_mem_replicate hc]
    decide

/-- A separator is a comma with white space after it. -/
theorem exists_separator (layout : JsonLayout) (level : Nat) :
    ∃ blanks, separator layout level = ',' :: blanks ∧ ∀ c ∈ blanks, isBlank c := by
  cases layout with
  | oneLine => exact ⟨[' '], rfl, List.all_eq_true.1 rfl⟩
  | lines width => exact ⟨_, rfl, isBlank_lineBreak _ level⟩

/-- No word goes on where a line may be broken before punctuation. -/
theorem endsWord_lineBreak (layout : JsonLayout) (level : Nat) {c : Char}
    (h : isWordChar c = false) (rest : List Char) :
    EndsWord (lineBreak layout level ++ c :: rest) := by
  cases layout with
  | oneLine => exact endsWord_cons h rest
  | lines width => exact endsWord_cons (by decide) _

/-! ## Strings and numbers -/

/-- An escaped character is read again. -/
theorem spells_escape {input text rest : List Char} (h : Json.Spells input text rest) (c : Char) :
    Json.Spells (escape c ++ input) (c :: text) rest := by
  unfold escape
  split
  · rename_i hc
    subst hc
    exact .escape rfl h
  split
  · rename_i hc
    subst hc
    exact .escape rfl h
  split
  · rename_i hc
    exact .escape (hc ▸ rfl) h
  split
  · rename_i hc
    exact .escape (hc ▸ rfl) h
  split
  · rename_i hc
    exact .escape (hc ▸ rfl) h
  split
  · rename_i hc
    rw [← Char.ofNat_toNat c, hc]
    exact .escape rfl h
  split
  · rename_i hc
    rw [← Char.ofNat_toNat c, hc]
    exact .escape rfl h
  split
  · rename_i hc
    have hdigits : ∀ n < 32, Quoted.hex 4 n =
        ['0', '0', Quoted.hexDigit (n / 16), Quoted.hexDigit (n % 16)] := by decide
    have hunit : ∀ n < 32,
        codeUnit? '0' '0' (Quoted.hexDigit (n / 16)) (Quoted.hexDigit (n % 16)) = some n := by
      decide
    rw [hdigits _ hc]
    have hread := Json.Spells.unit (hunit _ hc) (.inl (by omega)) h
    rwa [Char.ofNat_toNat] at hread
  · rename_i hquote hbackslash _ _ _ _ _ hlow
    exact .plain hquote hbackslash (by omega) h

/-- The characters of a string are read again up to the quote. -/
theorem spells_flatMap (text rest : List Char) :
    Json.Spells (text.flatMap escape ++ '"' :: rest) text rest := by
  induction text with
  | nil => exact .close
  | cons c text ih =>
    rw [List.flatMap_cons, List.append_assoc]
    exact spells_escape ih c

theorem quote_append (s : String) (rest : List Char) :
    quote s ++ rest = '"' :: (s.toList.flatMap escape ++ '"' :: rest) := by
  simp [quote]

/-- A string is read again. -/
theorem value_quote (s : String) (rest : List Char) :
    Json.Value (quote s ++ rest) (.string s) rest := by
  rw [quote_append]
  simpa using Json.Value.string (spells_flatMap s.toList rest)

/-- A number is written as its token. -/
theorem number_eq {n : Number} (h : n ≠ .float .nan) : number n = n.token := by
  cases n with
  | int i => rfl
  | float x =>
    cases x with
    | nan => exact absurd rfl h
    | infinite | finite => rfl

theorem value_word {token rest : List Char} {tree : Json} (hword : Word token tree)
    (hrest : EndsWord rest) : Json.Value (token ++ rest) tree rest := .word rfl hword hrest

/-! ## Nested data -/

theorem endsWord_writeItems (layout : JsonLayout) (level outer : Nat) (items : List Datum)
    (rest : List Char) :
    EndsWord (writeItems layout level items ++ (lineBreak layout outer ++ ']' :: rest)) := by
  cases items with
  | nil => exact endsWord_lineBreak layout outer (by decide) rest
  | cons item items =>
    obtain ⟨blanks, hseparator, -⟩ := exists_separator layout level
    rw [writeItems, hseparator]
    exact endsWord_cons (by decide) _

theorem endsWord_writeEntries (layout : JsonLayout) (level outer : Nat)
    (entries : List (String × Datum)) (rest : List Char) :
    EndsWord (writeEntries layout level entries ++ (lineBreak layout outer ++ '\x7d' :: rest)) := by
  cases entries with
  | nil => exact endsWord_lineBreak layout outer (by decide) rest
  | cons entry entries =>
    obtain ⟨blanks, hseparator, -⟩ := exists_separator layout level
    rw [writeEntries, hseparator]
    exact endsWord_cons (by decide) _

/-- An entry is read again if its value is. -/
theorem entry_quote (key : String) {value : Json} {input rest : List Char}
    (h : Json.Value input value rest) :
    Json.Entry (quote key ++ ':' :: ' ' :: input) (key, value) rest := by
  rw [quote_append]
  have hvalue : Json.Value (skip ([' '] ++ input)) value rest := h.behind (List.all_eq_true.1 rfl)
  simpa using Json.Entry.mk (spells_flatMap key.toList _) (skip_cons (by decide) _) hvalue

mutual

/-- Exported data is read again, before whatever does not go on with a word. -/
theorem value_writeAt (layout : JsonLayout) (level : Nat) (datum : Datum) (h : datum.Sound)
    {rest : List Char} (hrest : EndsWord rest) :
    Json.Value (writeAt layout level datum ++ rest) datum.json rest := by
  match datum with
  | .null => exact value_word .null hrest
  | .bool true => exact value_word .true hrest
  | .bool false => exact value_word .false hrest
  | .number n =>
    rw [writeAt, number_eq h.number_ne]
    exact value_word (.number (Number.isNumber_token h.number_ne)) hrest
  | .text s => exact value_quote s rest
  | .list [] => exact .emptyArray (skip_cons (by decide) rest)
  | .list (item :: items) =>
    have hitems := List.forall_mem_cons.1 h.items
    have hfirst := value_writeAt layout (level + 1) item hitems.1
      (endsWord_writeItems layout (level + 1) level items rest)
    have hvalue := Json.Value.array (hfirst.behind (isBlank_lineBreak layout (level + 1)))
      (items_writeItems layout (level + 1) level items hitems.2 rest)
    simpa [writeAt, Datum.json, Datum.jsonItems] using hvalue
  | .record [] => exact .emptyObject (skip_cons (by decide) rest)
  | .record ((key, value) :: entries) =>
    have hentries := List.forall_mem_cons.1 h.entries
    have hfirst := value_writeAt layout (level + 1) value hentries.1
      (endsWord_writeEntries layout (level + 1) level entries rest)
    have hvalue := Json.Value.object
      ((entry_quote key hfirst).behind (isBlank_lineBreak layout (level + 1)))
      (entries_writeEntries layout (level + 1) level entries hentries.2 rest)
    simpa [writeAt, Datum.json, Datum.jsonEntries] using hvalue

/-- So are the items after the first one, up to the bracket. -/
theorem items_writeItems (layout : JsonLayout) (level outer : Nat) (items : List Datum)
    (h : ∀ item ∈ items, item.Sound) (rest : List Char) :
    Json.Items (skip (writeItems layout level items ++ (lineBreak layout outer ++ ']' :: rest)))
      (Datum.jsonItems items) rest := by
  match items with
  | [] =>
    rw [writeItems, List.nil_append, skip_append (isBlank_lineBreak layout outer),
      skip_cons (by decide)]
    exact .close
  | item :: items =>
    rw [List.forall_mem_cons] at h
    obtain ⟨blanks, hseparator, hblanks⟩ := exists_separator layout level
    have hfirst := value_writeAt layout level item h.1
      (endsWord_writeItems layout level outer items rest)
    have hitems := Json.Items.next (hfirst.behind hblanks)
      (items_writeItems layout level outer items h.2 rest)
    rw [writeItems, hseparator]
    simpa [skip_cons (show isBlank ',' = false by decide), Datum.jsonItems] using hitems

/-- So are the entries after the first one. -/
theorem entries_writeEntries (layout : JsonLayout) (level outer : Nat)
    (entries : List (String × Datum)) (h : ∀ entry ∈ entries, entry.2.Sound) (rest : List Char) :
    Json.Entries
      (skip (writeEntries layout level entries ++ (lineBreak layout outer ++ '\x7d' :: rest)))
      (Datum.jsonEntries entries) rest := by
  match entries with
  | [] =>
    rw [writeEntries, List.nil_append, skip_append (isBlank_lineBreak layout outer),
      skip_cons (by decide)]
    exact .close
  | (key, value) :: entries =>
    rw [List.forall_mem_cons] at h
    obtain ⟨blanks, hseparator, hblanks⟩ := exists_separator layout level
    have hfirst := value_writeAt layout level value h.1
      (endsWord_writeEntries layout level outer entries rest)
    have hentries := Json.Entries.next ((entry_quote key hfirst).behind hblanks)
      (entries_writeEntries layout level outer entries h.2 rest)
    rw [writeEntries, hseparator]
    simpa [skip_cons (show isBlank ',' = false by decide), Datum.jsonEntries] using hentries

end

/-- The text of exported data is read into its tree and into no other one. -/
theorem derives_write_iff {datum : Datum} (h : datum.Sound) (layout : JsonLayout) (tree : Json) :
    Derives (write layout datum).toList tree ↔ tree = datum.json := by
  have hwrite : Derives (write layout datum).toList datum.json := by
    have hvalue : Json.Value (writeAt layout 0 datum ++ []) datum.json [] :=
      value_writeAt layout 0 datum h nofun
    rw [List.append_nil] at hvalue
    rw [write, String.toList_ofList]
    exact ⟨[], hvalue.skip_eq.symm ▸ hvalue, rfl⟩
  constructor
  · exact fun hderives => hderives.unique hwrite
  · rintro rfl
    exact hwrite

end JsonText

end Rune
