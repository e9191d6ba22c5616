import Rune.Tree.Basic
import Rune.Pattern.Basic
import Rune.Value.Entries
import Rune.Value.Key

/-!
# Rune - resolved values

The values of a resolved configuration: strings, numbers, booleans, null,
patterns, arrays and objects.

Main results:

- Type {lit}`Value` holds the values; {lit}`Value.kind` names their kinds.
- Definition {lit}`Value.eq` compares two values: numbers by what they are worth,
  patterns by their source, and objects entry by entry in their order.
-/

namespace Rune

/-- The kind of a value. -/
inductive ValueKind where
  | string | number | bool | null | array | object | pattern
  deriving DecidableEq

/-- The name of a kind. -/
def ValueKind.name : ValueKind → String
  | .string => "string"
  | .number => "number"
  | .bool => "bool"
  | .null => "null"
  | .array => "array"
  | .object => "object"
  | .pattern => "pattern"

/-- The name under which a kind is known outside of documents. -/
def ValueKind.typeName : ValueKind → String
  | .string => "StringValue"
  | .number => "NumberValue"
  | .bool => "BoolValue"
  | .null => "NullValue"
  | .array => "ArrayValue"
  | .object => "ObjectValue"
  | .pattern => "PatternValue"

/-- A resolved value. -/
inductive Value where
  | string (text : String)
  | number (number : Number)
  | bool (flag : Bool)
  | null
  | pattern (pattern : Pattern)
  | array (items : List Value)
  | object (entries : List (String × Value))

namespace Value

/-- The kind of a value. -/
def kind : Value → ValueKind
  | .string _ => .string
  | .number _ => .number
  | .bool _ => .bool
  | .null => .null
  | .pattern _ => .pattern
  | .array _ => .array
  | .object _ => .object

/-- Whether a value is null. -/
def isNull : Value → Bool
  | .null => true
  | _ => false

/-- The value that a scalar stands for. -/
def ofScalar : Scalar → Value
  | .text s => .string s
  | .number n => .number n
  | .bool b => .bool b
  | .null => .null

mutual

/-- Whether two values are equal. -/
def eq : Value → Value → Bool
  | .string a, .string b => a = b
  | .number a, .number b => a.eq b
  | .bool a, .bool b => a = b
  | .null, .null => true
  | .pattern a, .pattern b => a.source = b.source
  | .array a, .array b => eqItems a b
  | .object a, .object b => eqEntries a b
  | _, _ => false

/-- Whether two lists of values are equal. -/
def eqItems : List Value → List Value → Bool
  | [], [] => true
  | a :: as, b :: bs => eq a b && eqItems as bs
  | _, _ => false

/-- Whether two lists of entries are equal, order included. -/
def eqEntries : List (String × Value) → List (String × Value) → Bool
  | [], [] => true
  | (k, a) :: as, (l, b) :: bs => k = l && eq a b && eqEntries as bs
  | _, _ => false

end

/-- The value of a key of an object, in any spelling of the key. -/
def member? (key : String) : Value → Option Value
  | .object entries => Entries.get? (Key.canonical key) entries
  | _ => none

/-! ## What values of some kinds have -/

/-- The fault of asking a value for what its kind does not have. -/
def lacks (value : Value) (property : String) : Fault :=
  .misuse (.noProperty value.kind.typeName property)

/-- The entries of an object. -/
def entries : Value → Except Fault (Entries Value)
  | .object entries => .ok entries
  | value => .error (value.lacks "entries")

/-- The keys of an object. -/
def keys : Value → Except Fault (List String)
  | .object entries => .ok (Entries.keys entries)
  | value => .error (value.lacks "keys")

/-- The value of a key of an object, in any spelling of the key. -/
def get (key : String) : Value → Except Fault (Option Value)
  | .object entries => .ok (member? key (.object entries))
  | value => .error (value.lacks "get")

/-- Whether an object has a key, in any spelling.  An array holds values and no
keys. -/
def hasKey (key : String) : Value → Except Fault Bool
  | .object entries => .ok (member? key (.object entries)).isSome
  | .array _ => .ok false
  | value => .error (.misuse (.noContainer value.kind.typeName))

/-- The number of items of an array or of entries of an object. -/
def size : Value → Except Fault Nat
  | .array items => .ok items.length
  | .object entries => .ok entries.length
  | value => .error (.misuse (.noSize value.kind.typeName))

/-- Whether a number is a whole number. -/
def isIntegral : Value → Except Fault Bool
  | .number n => .ok n.isIntegral
  | value => .error (value.lacks "is_integral")

/-- Whether an item of an array accepts a text: a pattern by matching, a string
by being equal. -/
def itemAccepts (candidate : String) : Value → Except Fault Bool
  | .pattern p => p.matchesText candidate
  | .string s => .ok (s = candidate)
  | _ => .ok false

/-- Whether a pattern or an array accepts a text; an array does if one of its
items does, and the items after that one are not asked. -/
def accepts (candidate : String) : Value → Except Fault Bool
  | .pattern p => p.matchesText candidate
  | .array items => items.anyM (itemAccepts candidate)
  | value => .error (value.lacks "matches")

end Value

end Rune
