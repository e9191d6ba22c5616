import Rune.Unicode.NameTable

/-!
# Rune - names of characters

A character can be meant by its name.  Syllables of the Korean script and Chinese
characters are named by rules, in capital letters only; a few families of names
end in the code point itself; all others stand in a table, and letters of either
case are the same in them.

Main results:

- Definition {lit}`ofName?` finds the code point of a name.
-/

namespace Rune.Unicode

/-! ## Names that end in a code point -/

/-- The value of a hexadecimal digit that is no small letter. -/
def capitalHexValue? (c : Char) : Option Nat :=
  if '0' ≤ c && c ≤ '9' then some (c.toNat - 48)
  else if 'A' ≤ c && c ≤ 'F' then some (c.toNat - 55)
  else none

/-- The number that hexadecimal digits without small letters stand for. -/
def ofCapitalHex? (digits : List Char) : Option Nat :=
  digits.foldlM (fun n c => (capitalHexValue? c).map (16 * n + ·)) 0

/-- The code points of Chinese characters, from the first to the last one of each
block. -/
def ideographs : List (Nat × Nat) :=
  [(0x3400, 0x4DBF), (0x4E00, 0x9FFF), (0x20000, 0x2A6DF), (0x2A700, 0x2B738),
    (0x2B740, 0x2B81D), (0x2B820, 0x2CEA1), (0x2CEB0, 0x2EBE0), (0x30000, 0x3134A)]

/-- What stands before the code point in the name of a Chinese character. -/
def ideographName : List Char := "CJK UNIFIED IDEOGRAPH-".toList

/-- The Chinese character of four or five digits. -/
def ofIdeograph? (digits : List Char) : Option Nat :=
  if digits.length = 4 || digits.length = 5 then
    (ofCapitalHex? digits).filter fun code =>
      ideographs.any fun (first, last) => first ≤ code && code ≤ last
  else none

/-- What stands before the code point in the names of a family, with the first and
the last code point. -/
def nameFamilies : List (List Char × Nat × Nat) :=
  [("CJK COMPATIBILITY IDEOGRAPH-".toList, 0xF900, 0xFA6D),
    ("CJK COMPATIBILITY IDEOGRAPH-".toList, 0xFA70, 0xFAD9),
    ("CJK COMPATIBILITY IDEOGRAPH-".toList, 0x2F800, 0x2FA1D),
    ("KHITAN SMALL SCRIPT CHARACTER-".toList, 0x18B00, 0x18CD5),
    ("NUSHU CHARACTER-".toList, 0x1B170, 0x1B2FB)]

/-- The character of a family with a given name.  The code point is written without
needless zeros. -/
def ofFamily? (name : List Char) : Option Nat :=
  nameFamilies.findSome? fun (common, first, last) => do
    let digits ← common.isPrefixOf? name
    let code ← ofCapitalHex? digits
    if first ≤ code && code ≤ last && digits.head? != some '0' then some code else none

/-! ## Syllables -/

/-- What stands before the letters in the name of a syllable. -/
def syllableName : List Char := "HANGUL SYLLABLE ".toList

/-- The first consonants of a syllable. -/
def syllableHeads : List String :=
  ["G", "GG", "N", "D", "DD", "R", "M", "B", "BB", "S", "SS", "", "J", "JJ", "C", "K", "T", "P",
    "H"]

/-- The vowels of a syllable. -/
def syllableVowels : List String :=
  ["A", "AE", "YA", "YAE", "EO", "E", "YEO", "YE", "O", "WA", "WAE", "OE", "YO", "U", "WEO", "WE",
    "WI", "YU", "EU", "YI", "I"]

/-- The last consonants of a syllable. -/
def syllableTails : List String :=
  ["", "G", "GG", "GS", "N", "NJ", "NH", "D", "L", "LG", "LM", "LB", "LS", "LT", "LP", "LH", "M",
    "B", "BS", "S", "SS", "NG", "J", "C", "K", "T", "P", "H"]

/-- The number of the longest of some texts that a name begins with, and the rest
of the name. -/
def longest? (name : List Char) (texts : List String) : Option (Nat × List Char) :=
  let found := (texts.zipIdx).filterMap fun (text, i) =>
    (text.toList.isPrefixOf? name).map (i, ·)
  found.foldl (fun best next =>
    match best with
    | some b => if next.2.length < b.2.length then some next else best
    | none => some next) none

/-- The syllable of two or three groups of letters. -/
def ofSyllable? (letters : List Char) : Option Nat := do
  let (first, rest) ← longest? letters syllableHeads
  let (vowel, rest) ← longest? rest syllableVowels
  let (last, rest) ← longest? rest syllableTails
  if rest.isEmpty then
    some (0xAC00 + (first * syllableVowels.length + vowel) * syllableTails.length + last)
  else none

/-! ## The table -/

/-- The code point of a name in rows of the table, after a row that ended before
`code` and whose names begin with `common`. -/
def ofRows? (name : List Char) (code : Nat) (common : List Char) : List String → Option Nat
  | [] => none
  | row :: rows =>
    let fields := row.splitOn ";"
    let (code, common, ends) :=
      match fields with
      | "" :: ends => (code, common, ends)
      | first :: common :: ends => ((ofCapitalHex? first.toList).getD 0, common.toList, ends)
      | _ => (code, common, [])
    match common.isPrefixOf? name with
    | some rest =>
      match ends.idxOf? (String.ofList rest) with
      | some i => some (code + i)
      | none => ofRows? name (code + ends.length) common rows
    | none => ofRows? name (code + ends.length) common rows

/-- The code point of a name in a table. -/
def ofTable? (name : List Char) (table : String) : Option Nat :=
  ofRows? name 0 [] (table.splitOn "\n")

/-! ## All names -/

/-- The code point of a character with a given name. -/
def ofName? (name : String) : Option Nat :=
  let letters := name.toList
  match syllableName.isPrefixOf? letters, ideographName.isPrefixOf? letters with
  | some rest, _ => ofSyllable? rest
  | _, some rest => ofIdeograph? rest
  | _, _ =>
    let capitals := letters.map Char.toUpper
    (ofFamily? capitals).or ((ofTable? capitals nameRows).or (ofTable? capitals aliasRows))

end Rune.Unicode
