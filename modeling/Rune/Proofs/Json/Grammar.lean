import Mathlib.Data.List.TakeWhile

/-!
# Rune - the grammar of JSON

A JSON text is read into a tree in which numbers are kept as they are written.  White space
may stand around values and punctuation.  Besides the numbers of the grammar an infinity may
be written.

Main results:

- Type {lit}`Json` holds the trees, and relation {lit}`Json.Value` is the grammar: what is
  read from the characters ahead, and the characters that are left.
- Definition {lit}`Json.Derives` says that a text is read into a tree.
- Theorem {lit}`Json.Derives.unique`: a text is read into one tree at most.
-/

namespace Rune

/-- What a JSON text is read into.  A number is the token that is written for it, and an
object keeps the order of its entries. -/
inductive Json where
  | null
  | bool (flag : Bool)
  | number (token : List Char)
  | string (text : String)
  | array (items : List Json)
  | object (entries : List (String × Json))

namespace Json

/-! ## Characters -/

/-- White space. -/
def isBlank (c : Char) : Bool := c = ' ' || c = '\t' || c = '\n' || c = '\r'

/-- What follows the white space ahead. -/
def skip (input : List Char) : List Char := input.dropWhile isBlank

/-- A character of a number or a name. -/
def isWordChar (c : Char) : Bool := c.isAlphanum || c = '-' || c = '+' || c = '.'

/-- The value of a hexadecimal digit. -/
def hexValue? (c : Char) : Option Nat :=
  if c.isDigit then some (c.toNat - 48)
  else if 'a' ≤ c ∧ c ≤ 'f' then some (c.toNat - 87)
  else if 'A' ≤ c ∧ c ≤ 'F' then some (c.toNat - 55)
  else none

/-- The number that four hexadecimal digits stand for. -/
def codeUnit? (a b c d : Char) : Option Nat := do
  let a ← hexValue? a
  let b ← hexValue? b
  let c ← hexValue? c
  let d ← hexValue? d
  return ((a * 16 + b) * 16 + c) * 16 + d

/-- The character that stands for a letter after a backslash. -/
def escaped? (letter : Char) : Option Char :=
  match letter with
  | '"' => some '"'
  | '\\' => some '\\'
  | '/' => some '/'
  | 'b' => some (Char.ofNat 8)
  | 'f' => some (Char.ofNat 12)
  | 'n' => some '\n'
  | 'r' => some '\r'
  | 't' => some '\t'
  | _ => none

/-! ## Strings -/

/-- The characters of a string up to its closing quote, and what follows the quote.  A
character beyond the first plane may be written as two surrogates. -/
inductive Spells : List Char → List Char → List Char → Prop
  | close {rest : List Char} : Spells ('"' :: rest) [] rest
  | plain {c : Char} {input text rest : List Char} :
      c ≠ '"' → c ≠ '\\' → 32 ≤ c.toNat → Spells input text rest →
      Spells (c :: input) (c :: text) rest
  | escape {letter c : Char} {input text rest : List Char} :
      escaped? letter = some c → Spells input text rest →
      Spells ('\\' :: letter :: input) (c :: text) rest
  | unit {a b c d : Char} {n : Nat} {input text rest : List Char} :
      codeUnit? a b c d = some n → n.isValidChar → Spells input text rest →
      Spells ('\\' :: 'u' :: a :: b :: c :: d :: input) (Char.ofNat n :: text) rest
  | pair {a b c d a' b' c' d' : Char} {high low : Nat} {input text rest : List Char} :
      codeUnit? a b c d = some high → 0xD800 ≤ high → high < 0xDC00 →
      codeUnit? a' b' c' d' = some low → 0xDC00 ≤ low → low < 0xE000 →
      Spells input text rest →
      Spells
        ('\\' :: 'u' :: a :: b :: c :: d :: '\\' :: 'u' :: a' :: b' :: c' :: d' :: input)
        (Char.ofNat (0x10000 + (high - 0xD800) * 0x400 + (low - 0xDC00)) :: text) rest

/-! ## Numbers and names -/

/-- At least one digit, and nothing else. -/
def IsDigits (digits : List Char) : Prop := digits ≠ [] ∧ ∀ c ∈ digits, c.isDigit

/-- A minus sign, or nothing. -/
def IsSign (sign : List Char) : Prop := sign = [] ∨ sign = ['-']

/-- The digits before the point: a zero stands alone. -/
inductive IsWhole : List Char → Prop
  | zero : IsWhole ['0']
  | digits {first : Char} {rest : List Char} : first.isDigit → first ≠ '0' →
      (∀ c ∈ rest, c.isDigit) → IsWhole (first :: rest)

/-- A point with digits after it, or nothing. -/
inductive IsFraction : List Char → Prop
  | nothing : IsFraction []
  | digits {digits : List Char} : IsDigits digits → IsFraction ('.' :: digits)

/-- An exponent, or nothing. -/
inductive IsExponent : List Char → Prop
  | nothing : IsExponent []
  | digits {mark : Char} {sign digits : List Char} : mark = 'e' ∨ mark = 'E' →
      IsSign sign ∨ sign = ['+'] → IsDigits digits → IsExponent (mark :: (sign ++ digits))

/-- The token of a number. -/
inductive IsNumber : List Char → Prop
  | finite {sign whole fraction exponent : List Char} : IsSign sign → IsWhole whole →
      IsFraction fraction → IsExponent exponent →
      IsNumber (sign ++ (whole ++ (fraction ++ exponent)))
  | infinite {sign : List Char} : IsSign sign → IsNumber (sign ++ "Infinity".toList)

/-- The tokens that are no strings, and what they stand for. -/
inductive Word : List Char → Json → Prop
  | null : Word "null".toList .null
  | true : Word "true".toList (.bool true)
  | false : Word "false".toList (.bool false)
  | number {token : List Char} : IsNumber token → Word token (.number token)

/-! ## Values -/

/-- A word ends where none of its characters follows. -/
def EndsWord (rest : List Char) : Prop := ∀ c ∈ rest.head?, isWordChar c = false

mutual

/-- The value that is written ahead, and what follows it. -/
inductive Value : List Char → Json → List Char → Prop
  | word {input token rest : List Char} {tree : Json} :
      input = token ++ rest → Word token tree → EndsWord rest → Value input tree rest
  | string {input text rest : List Char} : Spells input text rest →
      Value ('"' :: input) (.string (String.ofList text)) rest
  | emptyArray {input rest : List Char} : skip input = ']' :: rest →
      Value ('[' :: input) (.array []) rest
  | array {input mid rest : List Char} {item : Json} {items : List Json} :
      Value (skip input) item mid → Items (skip mid) items rest →
      Value ('[' :: input) (.array (item :: items)) rest
  | emptyObject {input rest : List Char} : skip input = '\x7d' :: rest →
      Value ('\x7b' :: input) (.object []) rest
  | object {input mid rest : List Char} {entry : String × Json}
      {entries : List (String × Json)} :
      Entry (skip input) entry mid → Entries (skip mid) entries rest →
      Value ('\x7b' :: input) (.object (entry :: entries)) rest

/-- The items of an array after the first one, each after a comma, up to the bracket. -/
inductive Items : List Char → List Json → List Char → Prop
  | close {rest : List Char} : Items (']' :: rest) [] rest
  | next {input mid rest : List Char} {item : Json} {items : List Json} :
      Value (skip input) item mid → Items (skip mid) items rest →
      Items (',' :: input) (item :: items) rest

/-- An entry of an object: a key, a colon and a value. -/
inductive Entry : List Char → String × Json → List Char → Prop
  | mk {input key mid next rest : List Char} {value : Json} :
      Spells input key mid → skip mid = ':' :: next → Value (skip next) value rest →
      Entry ('"' :: input) (String.ofList key, value) rest

/-- The entries of an object after the first one, each after a comma, up to the bracket. -/
inductive Entries : List Char → List (String × Json) → List Char → Prop
  | close {rest : List Char} : Entries ('\x7d' :: rest) [] rest
  | next {input mid rest : List Char} {entry : String × Json}
      {entries : List (String × Json)} :
      Entry (skip input) entry mid → Entries (skip mid) entries rest →
      Entries (',' :: input) (entry :: entries) rest

end

/-- A text is read into a tree: it is one value with white space around it. -/
def Derives (text : List Char) (tree : Json) : Prop :=
  ∃ rest, Value (skip text) tree rest ∧ skip rest = []

/-! ## Words -/

theorem isWordChar_of_isDigit {c : Char} (h : c.isDigit) : isWordChar c := by
  simp [isWordChar, Char.isAlphanum, h]

theorem IsSign.isWordChar {sign : List Char} (h : IsSign sign) : ∀ c ∈ sign, isWordChar c := by
  rcases h with rfl | rfl <;> exact List.all_eq_true.1 rfl

theorem IsWhole.isDigit {whole : List Char} (h : IsWhole whole) : ∀ c ∈ whole, c.isDigit := by
  cases h with
  | zero => exact List.all_eq_true.1 rfl
  | digits hfirst _ hrest => exact List.forall_mem_cons.2 ⟨hfirst, hrest⟩

theorem IsFraction.isWordChar {fraction : List Char} (h : IsFraction fraction) :
    ∀ c ∈ fraction, isWordChar c := by
  cases h with
  | nothing => exact nofun
  | digits hdigits =>
    exact List.forall_mem_cons.2
      ⟨by decide, fun c hc => isWordChar_of_isDigit (hdigits.2 c hc)⟩

theorem IsExponent.isWordChar {exponent : List Char} (h : IsExponent exponent) :
    ∀ c ∈ exponent, isWordChar c := by
  cases h with
  | nothing => exact nofun
  | digits hmark hsign hdigits =>
    refine List.forall_mem_cons.2 ⟨?_, List.forall_mem_append.2 ⟨?_, fun c hc =>
      isWordChar_of_isDigit (hdigits.2 c hc)⟩⟩
    · rcases hmark with rfl | rfl <;> decide
    · rcases hsign with hsign | rfl
      · exact hsign.isWordChar
      · exact List.all_eq_true.1 rfl

theorem IsNumber.isWordChar {token : List Char} (h : IsNumber token) :
    ∀ c ∈ token, isWordChar c := by
  cases h with
  | finite hsign hwhole hfraction hexponent =>
    simp only [List.forall_mem_append]
    exact ⟨hsign.isWordChar, fun c hc => isWordChar_of_isDigit (hwhole.isDigit c hc),
      hfraction.isWordChar, hexponent.isWordChar⟩
  | infinite hsign => exact List.forall_mem_append.2 ⟨hsign.isWordChar, List.all_eq_true.1 rfl⟩

/-- A number begins with a minus sign, a digit or the letter of infinity. -/
theorem IsNumber.exists_first {token : List Char} (h : IsNumber token) :
    ∃ first rest, token = first :: rest ∧ (first = '-' ∨ first.isDigit ∨ first = 'I') := by
  cases h with
  | finite hsign hwhole _ _ =>
    rcases hsign with rfl | rfl
    · cases hwhole with
      | zero => exact ⟨'0', _, rfl, by decide⟩
      | digits hfirst _ _ => exact ⟨_, _, rfl, .inr (.inl hfirst)⟩
    · exact ⟨'-', _, rfl, .inl rfl⟩
  | infinite hsign =>
    rcases hsign with rfl | rfl
    · exact ⟨'I', _, rfl, .inr (.inr rfl)⟩
    · exact ⟨'-', _, rfl, .inl rfl⟩

theorem Word.isWordChar {token : List Char} {tree : Json} (h : Word token tree) :
    ∀ c ∈ token, isWordChar c := by
  cases h with
  | null | true | false => exact List.all_eq_true.1 rfl
  | number hnumber => exact hnumber.isWordChar

theorem Word.ne_nil {token : List Char} {tree : Json} (h : Word token tree) : token ≠ [] := by
  cases h with
  | null | true | false => decide
  | number hnumber =>
    obtain ⟨first, rest, rfl, -⟩ := hnumber.exists_first
    exact List.cons_ne_nil _ _

/-- A word stands for one tree. -/
theorem Word.unique {token : List Char} {tree tree' : Json} (h : Word token tree)
    (h' : Word token tree') : tree = tree' := by
  have hname {first : Char} {rest : List Char} (hnumber : IsNumber (first :: rest)) :
      first = '-' ∨ first.isDigit ∨ first = 'I' := by
    obtain ⟨_, _, heq, hfirst⟩ := hnumber.exists_first
    cases heq
    exact hfirst
  generalize heq : token = token' at h'
  cases h with
  | null =>
    cases h' with
    | null => rfl
    | true | false => exact absurd heq (by decide)
    | number hnumber => exact absurd (hname (heq ▸ hnumber)) (by decide)
  | true =>
    cases h' with
    | true => rfl
    | null | false => exact absurd heq (by decide)
    | number hnumber => exact absurd (hname (heq ▸ hnumber)) (by decide)
  | false =>
    cases h' with
    | false => rfl
    | null | true => exact absurd heq (by decide)
    | number hnumber => exact absurd (hname (heq ▸ hnumber)) (by decide)
  | number hnumber =>
    subst heq
    cases h' with
    | null | true | false => exact absurd (hname hnumber) (by decide)
    | number _ => rfl

/-- The word ahead is as long as can be. -/
theorem eq_takeWhile {token rest : List Char} (hword : ∀ c ∈ token, isWordChar c)
    (hrest : EndsWord rest) :
    token = (token ++ rest).takeWhile isWordChar ∧ rest = (token ++ rest).dropWhile isWordChar := by
  have hstop : rest.takeWhile isWordChar = [] ∧ rest.dropWhile isWordChar = rest := by
    cases rest with
    | nil => exact ⟨rfl, rfl⟩
    | cons c rest => simp [hrest c rfl]
  rw [List.takeWhile_append_of_pos hword, List.dropWhile_append_of_pos hword, hstop.1, hstop.2]
  exact ⟨(List.append_nil token).symm, rfl⟩

/-! ## Only one tree -/

theorem Spells.unique {input text rest text' rest' : List Char} (h : Spells input text rest)
    (h' : Spells input text' rest') : text = text' ∧ rest = rest' := by
  induction h generalizing text' with
  | close =>
    cases h' with
    | close => exact ⟨rfl, rfl⟩
    | plain hquote => exact absurd rfl hquote
  | plain hquote hbackslash hlow _ ih =>
    cases h' with
    | close => exact absurd rfl hquote
    | plain _ _ _ hinput =>
      obtain ⟨rfl, rfl⟩ := ih hinput
      exact ⟨rfl, rfl⟩
    | escape | unit | pair => exact absurd rfl hbackslash
  | escape hletter _ ih =>
    cases h' with
    | plain _ hbackslash => exact absurd rfl hbackslash
    | escape hletter' hinput =>
      obtain ⟨rfl, rfl⟩ := ih hinput
      cases hletter.symm.trans hletter'
      exact ⟨rfl, rfl⟩
    | unit | pair => exact nomatch hletter
  | unit hunit hvalid _ ih =>
    cases h' with
    | plain _ hbackslash => exact absurd rfl hbackslash
    | escape hletter => exact nomatch hletter
    | unit hunit' _ hinput =>
      obtain ⟨rfl, rfl⟩ := ih hinput
      cases hunit.symm.trans hunit'
      exact ⟨rfl, rfl⟩
    | pair hhigh hle hlt =>
      cases hunit.symm.trans hhigh
      rcases hvalid with hvalid | hvalid <;> omega
  | pair hhigh hle hlt hlow _ _ _ ih =>
    cases h' with
    | plain _ hbackslash => exact absurd rfl hbackslash
    | escape hletter => exact nomatch hletter
    | unit hunit hvalid =>
      cases hunit.symm.trans hhigh
      rcases hvalid with hvalid | hvalid <;> omega
    | pair hhigh' _ _ hlow' _ _ hinput =>
      obtain ⟨rfl, rfl⟩ := ih hinput
      cases hhigh.symm.trans hhigh'
      cases hlow.symm.trans hlow'
      exact ⟨rfl, rfl⟩

/-- No word begins with a character of no word. -/
theorem Word.not_starts {token rest input : List Char} {tree : Json} {c : Char}
    (h : Word token tree) (hinput : c :: input = token ++ rest) : Json.isWordChar c := by
  cases token with
  | nil => exact absurd rfl h.ne_nil
  | cons first token =>
    obtain ⟨rfl, -⟩ := List.cons.inj hinput
    exact h.isWordChar _ List.mem_cons_self

mutual

theorem Value.unique {input rest rest' : List Char} {tree tree' : Json}
    (h : Value input tree rest) (h' : Value input tree' rest') : tree = tree' ∧ rest = rest' := by
  match h with
  | .word hinput hword hends =>
    cases h' with
    | word hinput' hword' hends' =>
      obtain ⟨htoken, hrest⟩ := eq_takeWhile hword.isWordChar hends
      obtain ⟨htoken', hrest'⟩ := eq_takeWhile hword'.isWordChar hends'
      rw [← hinput] at htoken hrest
      rw [← hinput'] at htoken' hrest'
      cases htoken.trans htoken'.symm
      exact ⟨hword.unique hword', hrest.trans hrest'.symm⟩
    | _ => exact absurd (hword.not_starts hinput) (by decide)
  | .string hspells =>
    cases h' with
    | word hinput' hword' => exact absurd (hword'.not_starts hinput') (by decide)
    | string hspells' =>
      obtain ⟨rfl, rfl⟩ := hspells.unique hspells'
      exact ⟨rfl, rfl⟩
  | .emptyArray hskip =>
    cases h' with
    | word hinput' hword' => exact absurd (hword'.not_starts hinput') (by decide)
    | emptyArray hskip' =>
      cases hskip.symm.trans hskip'
      exact ⟨rfl, rfl⟩
    | array hitem _ =>
      rw [hskip] at hitem
      cases hitem with
      | word hinput' hword' => exact absurd (hword'.not_starts hinput') (by decide)
  | .array hitem hitems =>
    cases h' with
    | word hinput' hword' => exact absurd (hword'.not_starts hinput') (by decide)
    | emptyArray hskip' =>
      rw [hskip'] at hitem
      cases hitem with
      | word hinput' hword' => exact absurd (hword'.not_starts hinput') (by decide)
    | array hitem' hitems' =>
      obtain ⟨rfl, rfl⟩ := hitem.unique hitem'
      obtain ⟨rfl, rfl⟩ := hitems.unique hitems'
      exact ⟨rfl, rfl⟩
  | .emptyObject hskip =>
    cases h' with
    | word hinput' hword' => exact absurd (hword'.not_starts hinput') (by decide)
    | emptyObject hskip' =>
      cases hskip.symm.trans hskip'
      exact ⟨rfl, rfl⟩
    | object hentry _ =>
      rw [hskip] at hentry
      cases hentry
  | .object hentry hentries =>
    cases h' with
    | word hinput' hword' => exact absurd (hword'.not_starts hinput') (by decide)
    | emptyObject hskip' =>
      rw [hskip'] at hentry
      cases hentry
    | object hentry' hentries' =>
      obtain ⟨rfl, rfl⟩ := hentry.unique hentry'
      obtain ⟨rfl, rfl⟩ := hentries.unique hentries'
      exact ⟨rfl, rfl⟩

theorem Items.unique {input rest rest' : List Char} {items items' : List Json}
    (h : Items input items rest) (h' : Items input items' rest') :
    items = items' ∧ rest = rest' := by
  match h with
  | .close =>
    cases h'
    exact ⟨rfl, rfl⟩
  | .next hitem hitems =>
    cases h' with
    | next hitem' hitems' =>
      obtain ⟨rfl, rfl⟩ := hitem.unique hitem'
      obtain ⟨rfl, rfl⟩ := hitems.unique hitems'
      exact ⟨rfl, rfl⟩

theorem Entry.unique {input rest rest' : List Char} {entry entry' : String × Json}
    (h : Entry input entry rest) (h' : Entry input entry' rest') :
    entry = entry' ∧ rest = rest' := by
  match h with
  | .mk hkey hskip hvalue =>
    cases h' with
    | mk hkey' hskip' hvalue' =>
      obtain ⟨rfl, rfl⟩ := hkey.unique hkey'
      cases hskip.symm.trans hskip'
      obtain ⟨rfl, rfl⟩ := hvalue.unique hvalue'
      exact ⟨rfl, rfl⟩

theorem Entries.unique {input rest rest' : List Char} {entries entries' : List (String × Json)}
    (h : Entries input entries rest) (h' : Entries input entries' rest') :
    entries = entries' ∧ rest = rest' := by
  match h with
  | .close =>
    cases h'
    exact ⟨rfl, rfl⟩
  | .next hentry hentries =>
    cases h' with
    | next hentry' hentries' =>
      obtain ⟨rfl, rfl⟩ := hentry.unique hentry'
      obtain ⟨rfl, rfl⟩ := hentries.unique hentries'
      exact ⟨rfl, rfl⟩

end

/-- A text is read into one tree at most. -/
theorem Derives.unique {text : List Char} {tree tree' : Json} (h : Derives text tree)
    (h' : Derives text tree') : tree = tree' := by
  obtain ⟨rest, hvalue, -⟩ := h
  obtain ⟨rest', hvalue', -⟩ := h'
  exact (hvalue.unique hvalue').1

end Json

end Rune
