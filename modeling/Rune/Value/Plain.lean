import Rune.Value.Basic

/-!
# Rune - plain data

Queries hand values out as plain data, in the type that the caller expects.

Main results:

- Type {lit}`Plain` holds plain data; {lit}`Value.plain` is a value as plain data.
- Definition {lit}`Value.extract` converts a value to an expected type, or says that
  it has another one.
-/

namespace Rune

/-- Plain data. -/
inductive Plain where
  | absent
  | bool (flag : Bool)
  | number (number : Number)
  | text (text : String)
  | list (items : List Plain)
  | tuple (items : List Plain)
  | record (entries : List (String × Plain))
  | pattern (pattern : Pattern)
  | value (value : Value)

namespace Value

mutual

/-- A value as plain data. -/
def plain : Value → Plain
  | .string s => .text s
  | .number n => .number n
  | .bool b => .bool b
  | .null => .absent
  | .pattern p => .pattern p
  | .array items => .list (plainItems items)
  | .object entries => .record (plainEntries entries)

/-- The items of an array as plain data. -/
def plainItems : List Value → List Plain
  | [] => []
  | item :: items => plain item :: plainItems items

/-- Entries as plain data. -/
def plainEntries : List (String × Value) → List (String × Plain)
  | [] => []
  | (key, value) :: entries => (key, plain value) :: plainEntries entries

end

end Value

/-! ## Expected types -/

/-- The type that a caller expects. -/
inductive Expected where
  | text | int | float | bool | list | tuple | record | pattern
  /-- The value itself, of a given kind. -/
  | value (kind : ValueKind)
  /-- A type that no value has. -/
  | foreign (name : String)
  deriving DecidableEq

namespace Expected

/-- The name of an expected type. -/
def name : Expected → String
  | .text => "str"
  | .int => "int"
  | .float => "float"
  | .bool => "bool"
  | .list => "list"
  | .tuple => "tuple"
  | .record => "dict"
  | .pattern => "pattern"
  | .value kind => kind.typeName
  | .foreign name => name

/-- Every expected type that values can have. -/
def known : List Expected :=
  [.text, .int, .float, .bool, .list, .tuple, .record, .pattern, .value .string,
    .value .number, .value .bool, .value .null, .value .array, .value .object, .value .pattern]

/-- The expected type with a given name. -/
def ofName (name : String) : Expected :=
  (known.find? (·.name = name)).getD (.foreign name)

/-- The type of plain data, if it has one. -/
def ofPlain? : Plain → Option Expected
  | .absent => none
  | .bool _ => some .bool
  | .number (.int _) => some .int
  | .number (.float _) => some .float
  | .text _ => some .text
  | .list _ => some .list
  | .tuple _ => some .tuple
  | .record _ => some .record
  | .pattern _ => some .pattern
  | .value v => some (.value v.kind)

end Expected

namespace Value

/-- A value converted to an expected type; nothing if it has another type. -/
def extractAs (value : Value) : Expected → Except Fault (Option Plain)
  | .value kind => .ok (if value.kind = kind then some (.value value) else none)
  | .text =>
    match value with
    | .string s => .ok (some (.text s))
    | _ => .ok none
  | .bool =>
    match value with
    | .bool b => .ok (some (.bool b))
    | _ => .ok none
  | .int =>
    match value with
    | .number n => .ok (n.toInt?.map fun i => .number (.int i))
    | _ => .ok none
  | .float =>
    match value with
    | .number n => n.toFloat.map fun x => some (.number (.float x))
    | _ => .ok none
  | .list =>
    match value with
    | .array items => .ok (some (.list (plainItems items)))
    | _ => .ok none
  | .tuple =>
    match value with
    | .array items => .ok (some (.tuple (plainItems items)))
    | _ => .ok none
  | .record =>
    match value with
    | .object entries => .ok (some (.record (plainEntries entries)))
    | _ => .ok none
  | .pattern =>
    match value with
    | .pattern p => .ok (some (.pattern p))
    | _ => .ok none
  | .foreign _ => .ok none

/-- A value converted to an expected type, or to the type that it has by
itself; nothing if it has another type. -/
def extract (value : Value) : Option Expected → Except Fault (Option Plain)
  | none => .ok (some value.plain)
  | some expected => value.extractAs expected

end Value

/-! ## Tests on plain data -/

namespace Plain

/-- The number that plain data counts as: a truth value counts as one or zero. -/
def number? : Plain → Option Number
  | .number n => some n
  | .bool b => some (.int (if b then 1 else 0))
  | _ => none

/-- Whether plain data counts as true: neither absent, nor zero, nor empty. -/
def truthy : Plain → Bool
  | .absent => false
  | .bool b => b
  | .number n => !n.isZero
  | .text s => s != ""
  | .list items | .tuple items => !items.isEmpty
  | .record entries => !entries.isEmpty
  | .pattern _ => true
  | .value (.array items) => !items.isEmpty
  | .value (.object entries) => !entries.isEmpty
  | .value _ => true

mutual

/-- Whether plain data is equal.  Records are compared without regard to
order. -/
def eq : Plain → Plain → Bool
  | .absent, .absent => true
  | .text a, .text b => a = b
  | .list a, .list b => eqItems a b
  | .tuple a, .tuple b => eqItems a b
  | .record a, .record b => a.length = b.length && eqEntries a b
  | .pattern a, .pattern b => a.source = b.source
  | .value a, .value b => a.eq b
  | .number a, .number b => a.eq b
  | .bool a, .bool b => a = b
  | .number a, .bool b => a.eq (.int (if b then 1 else 0))
  | .bool a, .number b => b.eq (.int (if a then 1 else 0))
  | _, _ => false

/-- Whether two lists are equal. -/
def eqItems : List Plain → List Plain → Bool
  | [], [] => true
  | a :: as, b :: bs => eq a b && eqItems as bs
  | _, _ => false

/-- Whether every entry is among other entries. -/
def eqEntries : List (String × Plain) → List (String × Plain) → Bool
  | [], _ => true
  | (key, a) :: entries, others =>
    (match Entries.get? key others with
      | some b => eq a b
      | none => false) && eqEntries entries others

end

/-- The name of the type of plain data. -/
def typeName : Plain → String
  | .absent => "NoneType"
  | .pattern _ => "re.Pattern"
  | plain => ((Expected.ofPlain? plain).map Expected.name).getD ""

/-- An order in which plain data is compared. -/
inductive Relation where
  | less | greater
  deriving DecidableEq

namespace Relation

/-- The sign of a relation. -/
def sign : Relation → String
  | .less => "<"
  | .greater => ">"

/-- A relation as a choice: whether the first thing is less than the second, or the
second less than the first. -/
def holds (relation : Relation) (less greater : Bool) : Bool :=
  match relation with
  | .less => less
  | .greater => greater

end Relation

mutual

/-- Whether plain data is less or greater than other plain data: numbers by value,
texts in the order of their characters, lists by the first items that differ. -/
def compare (relation : Relation) : Plain → Plain → Except Fault Bool
  | .text a, .text b => .ok (relation.holds (a < b) (b < a))
  | .list a, .list b => compareItems relation a b
  | .tuple a, .tuple b => compareItems relation a b
  | a, b =>
    match a.number?, b.number? with
    | some x, some y => .ok (relation.holds (x.lt y) (y.lt x))
    | _, _ => .error (.misuse (.unordered relation.sign a.typeName b.typeName))

/-- Whether a list is less or greater than another one.  A list is less than one
that goes on after it. -/
def compareItems (relation : Relation) : List Plain → List Plain → Except Fault Bool
  | [], bs => .ok (relation.holds (!bs.isEmpty) false)
  | _ :: _, [] => .ok (relation.holds false true)
  | a :: as, b :: bs => if eq a b then compareItems relation as bs else compare relation a b

end

/-- Whether the characters begin with other characters somewhere. -/
def hasPart (part : List Char) : List Char → Bool
  | [] => part.isEmpty
  | c :: rest => part.isPrefixOf (c :: rest) || hasPart part rest

mutual

/-- Why plain data can be no key of a record, if it cannot: it is or holds a list or
a record. -/
def notKey? : Plain → Option Misuse
  | .list _ => some (.notKey "list")
  | .record _ => some (.notKey "dict")
  | .tuple items => notKeys? items
  | _ => none

/-- Why the first of some items that can be no key cannot. -/
def notKeys? : List Plain → Option Misuse
  | [] => none
  | item :: items => (notKey? item).or (notKeys? items)

end

/-- Whether a record has plain data as a key.  Its keys are texts. -/
def hasKey (entries : Entries Plain) (part : Plain) : Except Fault Bool :=
  match part.notKey?, part with
  | some misuse, _ => .error (.misuse misuse)
  | none, .text key => .ok (Entries.contains key entries)
  | none, _ => .ok false

/-- Whether plain data contains other plain data. -/
def contains (whole part : Plain) : Except Fault Bool :=
  match whole with
  | .text chars =>
    match part with
    | .text other => .ok (hasPart other.toList chars.toList)
    | _ => .error (.misuse (.notPartOfText part.typeName))
  | .list items | .tuple items => .ok (items.any (eq · part))
  | .record entries => hasKey entries part
  | .value (.array items) =>
    match part with
    | .value item => .ok (items.any (·.eq item))
    | _ => .ok false
  | .value (.object entries) =>
    match part with
    | .text key => .ok (Value.member? key (.object entries)).isSome
    | _ => .ok false
  | _ => .error (.misuse (.noContainer whole.typeName))

end Plain

end Rune
