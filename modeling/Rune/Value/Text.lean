import Rune.Value.Basic

/-!
# Rune - the text of a value

Values are written into strings and compared as text.  Inside an object the
parts of a value are displayed with the marks that tell them apart: strings in
quotes, lists in brackets, patterns with their flags.

Main results:

- Definition {lit}`Value.text` is the text of a value inside a string.
- Definition {lit}`Value.display` is the text of a value inside an object.
-/

namespace Rune

/-- The flags of a pattern that are displayed, in their order, with their
names. -/
def RegexFlag.displayed : List (RegexFlag × String) :=
  [(.template, "re.TEMPLATE"), (.ignoreCase, "re.IGNORECASE"), (.multiline, "re.MULTILINE"),
    (.dotAll, "re.DOTALL"), (.verbose, "re.VERBOSE"), (.ascii, "re.ASCII")]

/-- The text of a pattern inside an object: its source in quotes, cut to two
hundred characters, and the flags that it turns on. -/
def Pattern.display (p : Pattern) : String :=
  let source := String.ofList ((Quoted.quote p.source).toList.take 200)
  let names := RegexFlag.displayed.filterMap fun (flag, name) =>
    if p.program.on.contains flag then some name else none
  let flags := if names = [] then "" else ", " ++ "|".intercalate names
  "re.compile(" ++ source ++ flags ++ ")"

namespace Value

mutual

/-- The text of a value inside an object. -/
def display : Value → String
  | .string s => Quoted.quote s
  | .number n => n.literalText
  | .bool b => if b then "True" else "False"
  | .null => "None"
  | .pattern p => p.display
  | .array items => "[" ++ ", ".intercalate (displayItems items) ++ "]"
  | .object entries => "\x7b" ++ ", ".intercalate (displayEntries entries) ++ "\x7d"

/-- The texts of the items of an array. -/
def displayItems : List Value → List String
  | [] => []
  | item :: items => display item :: displayItems items

/-- The texts of the entries of an object. -/
def displayEntries : List (String × Value) → List String
  | [] => []
  | (key, value) :: entries => (Quoted.quote key ++ ": " ++ display value) :: displayEntries entries

end

mutual

/-- The text of a value inside a string. -/
def text : Value → String
  | .string s => s
  | .number n => n.text
  | .bool b => if b then "true" else "false"
  | .null => ""
  | .pattern p => p.source
  | .array items => ", ".intercalate (textItems items)
  | .object entries => display (.object entries)

/-- The texts of the items of an array. -/
def textItems : List Value → List String
  | [] => []
  | item :: items => text item :: textItems items

end

end Value

end Rune
