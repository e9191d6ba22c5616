import Rune.Text.Quoted
import Rune.Value.Datum

/-!
# Rune - exported data as JSON

Exported data is written as JSON text, on one line or with one item a line.
Characters beyond the first 128 are written as they are.

Main results:

- Definition {lit}`JsonText.write` writes exported data.
-/

namespace Rune

/-- Where line breaks are written. -/
inductive JsonLayout where
  | oneLine
  /-- Every item stands on a line of its own, indented by `width` blanks a
  level. -/
  | lines (width : Nat)
  deriving DecidableEq

namespace JsonText

/-- One character inside a string. -/
def escape (c : Char) : List Char :=
  if c = '"' then ['\\', '"']
  else if c = '\\' then ['\\', '\\']
  else if c = '\n' then ['\\', 'n']
  else if c = '\r' then ['\\', 'r']
  else if c = '\t' then ['\\', 't']
  else if c.toNat = 8 then ['\\', 'b']
  else if c.toNat = 12 then ['\\', 'f']
  else if c.toNat < 32 then '\\' :: 'u' :: Quoted.hex 4 c.toNat
  else [c]

/-- A string in double quotes. -/
def quote (text : String) : List Char := '"' :: (text.toList.flatMap escape ++ ['"'])

/-- A number.  What is no finite number is written as a word. -/
def number : Number → List Char
  | .int i => (toString i).toList
  | .float .nan => "NaN".toList
  | .float (.infinite negative) => (if negative then "-Infinity" else "Infinity").toList
  | .float x => x.text.toList

/-- What stands between an opening bracket and the first item at a level. -/
def lineBreak (layout : JsonLayout) (level : Nat) : List Char :=
  match layout with
  | .oneLine => []
  | .lines width => '\n' :: List.replicate (width * level) ' '

/-- What stands between two items at a level. -/
def separator (layout : JsonLayout) (level : Nat) : List Char :=
  match layout with
  | .oneLine => [',', ' ']
  | .lines _ => ',' :: lineBreak layout level

mutual

/-- Exported data at a level of nesting. -/
def writeAt (layout : JsonLayout) (level : Nat) : Datum → List Char
  | .null => "null".toList
  | .bool b => (if b then "true" else "false").toList
  | .number n => number n
  | .text s => quote s
  | .list [] => ['[', ']']
  | .list (item :: items) =>
    '[' :: lineBreak layout (level + 1) ++ writeAt layout (level + 1) item
      ++ writeItems layout (level + 1) items ++ lineBreak layout level ++ [']']
  | .record [] => ['\x7b', '\x7d']
  | .record ((key, value) :: entries) =>
    '\x7b' :: lineBreak layout (level + 1) ++ quote key ++ [':', ' ']
      ++ writeAt layout (level + 1) value
      ++ writeEntries layout (level + 1) entries ++ lineBreak layout level ++ ['\x7d']

/-- The items after the first one, each after a separator. -/
def writeItems (layout : JsonLayout) (level : Nat) : List Datum → List Char
  | [] => []
  | item :: items =>
    separator layout level ++ writeAt layout level item ++ writeItems layout level items

/-- The entries after the first one, each after a separator. -/
def writeEntries (layout : JsonLayout) (level : Nat) : List (String × Datum) → List Char
  | [] => []
  | (key, value) :: entries =>
    separator layout level ++ quote key ++ [':', ' '] ++ writeAt layout level value
      ++ writeEntries layout level entries

end

/-- Exported data as JSON text. -/
def write (layout : JsonLayout) (datum : Datum) : String :=
  String.ofList (writeAt layout 0 datum)

end JsonText

end Rune
