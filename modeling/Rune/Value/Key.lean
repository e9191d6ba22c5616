/-!
# Rune - keys

A key may be spelt with hyphens or with underscores.  The canonical spelling has
underscores only, and values are stored under it.

Main results:

- Definition {lit}`Key.canonical` gives the canonical spelling.
- Theorem {lit}`Key.canonical_canonical`: canonical spellings do not change.
- Definition {lit}`Key.path` splits a dotted path into canonical keys.
-/

namespace Rune.Key

/-- The canonical spelling of one character. -/
def canonicalChar (c : Char) : Char := if c = '-' then '_' else c

/-- The canonical spelling of a key. -/
def canonical (key : String) : String := String.ofList (key.toList.map canonicalChar)

/-- Split characters at every dot. -/
def splitDots : List Char → List (List Char)
  | [] => [[]]
  | c :: rest =>
    if c = '.' then [] :: splitDots rest
    else
      match splitDots rest with
      | [] => [[c]]
      | segment :: segments => (c :: segment) :: segments

/-- The canonical keys of a dotted path; empty segments are dropped. -/
def path (text : String) : List String :=
  ((splitDots text.toList).filter (· ≠ [])).map fun segment => canonical (String.ofList segment)

/-- Canonical spellings do not change. -/
@[simp] theorem canonical_canonical (key : String) :
    canonical (canonical key) = canonical key := by
  simp only [canonical, String.toList_ofList, List.map_map]
  congr 1
  apply List.map_congr_left
  intro c _
  by_cases h : c = '-' <;> simp [canonicalChar, h]

end Rune.Key
