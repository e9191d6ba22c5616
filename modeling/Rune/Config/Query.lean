import Rune.Config.Basic
import Rune.Config.Export
import Rune.Config.Lookup
import Rune.Unicode.Case
import Rune.Value.JsonText
import Rune.Value.Plain

/-!
# Rune - queries

A query follows a dotted path through one namespace of a configuration.  The
complaint of a failed query points to the binding nearest to the path.

Main results:

- Definitions {lit}`Config.value` and {lit}`Config.get` give the value at a path, as
  it is or as plain data of an expected type.
- Definition {lit}`Config.getOr` gives a default where there is no such value.
- Definitions {lit}`Config.getChoice` and {lit}`Config.getValidated` also check the
  value.
-/

namespace Rune.Config

/-- The value at a path, if there is one. -/
def find (config : Config) (space : Namespace) (path : String) : Except Fault (Option Value) :=
  Lookup.find (config.values space) path

/-- The diagnostic of a complaint about a path.  It points to the line of the
nearest binding. -/
def diagnose (config : Config) (space : Namespace) (path : String) (complaint : Complaint) :
    Diagnostic :=
  match config.nearest? space path with
  | none => .detached complaint 0 "" config.sourcePath
  | some location => .detached complaint location.line location.lineText location.sourcePath

/-- The value at a path. -/
def value (config : Config) (space : Namespace) (path : String) : Except Failure Value := do
  match ← config.find space path with
  | some value => return value
  | none =>
    let complaint := .worded .queryNotFound s!"Path '{path}' not found in configuration"
    throw (.queryNotFound (config.diagnose space path complaint) path)

/-- The value at a path, converted to a type with the given name. -/
def convert {α : Type} (config : Config) (space : Namespace) (path wanted : String)
    (conversion : Value → Except Fault (Option α)) : Except Failure α := do
  let value ← config.value space path
  match ← conversion value with
  | some converted => return converted
  | none =>
    let found := value.kind.name
    let complaint :=
      .worded .queryTypeMismatch s!"Expected {wanted} at '{path}', found {found}"
    throw (.queryType (config.diagnose space path complaint) path)

/-- The value at a path as plain data of an expected type. -/
def get (config : Config) (space : Namespace) (path : String) (expected : Option Expected) :
    Except Failure Plain :=
  config.convert space path ((expected.map Expected.name).getD "") (·.extract expected)

/-- The value at a path, or nothing if there is none.  Without an expected type it
is not converted. -/
def getOptional (config : Config) (space : Namespace) (path : String)
    (expected : Option Expected) : Except Failure Plain := do
  match ← config.find space path, expected with
  | none, _ => return .absent
  | some value, none => return .value value
  | some _, some _ => config.get space path expected

/-- The value at a path, or a default if there is none or if it has another type.
The type of the default is expected unless another one is given. -/
def getOr (config : Config) (space : Namespace) (path : String) (default : Plain)
    (expected : Option Expected) : Except Fault Plain := do
  match ← config.find space path with
  | none => return default
  | some value => return (← value.extract (expected.or (Expected.ofPlain? default))).getD default

/-- Whether there is a value at a path. -/
def has (config : Config) (space : Namespace) (path : String) : Except Fault Bool :=
  (config.find space path).map Option.isSome

/-- The keys of the object at a path; without a path, those of the namespace. -/
def keys (config : Config) (space : Namespace) (path : String) : Except Failure (List String) := do
  if Key.path path = [] then return Entries.keys (config.values space)
  match ← config.value space path with
  | .object entries => return Entries.keys entries
  | _ =>
    let complaint :=
      .hinted .queryTypeMismatch s!"Path '{path}' is not an object" "Only objects have keys."
    throw (.queryType (config.diagnose space path complaint) path)

/-- The text of a string. -/
def stringText : Value → Except Fault (Option String)
  | .string text => .ok (some text)
  | _ => .ok none

/-- The string at a path, which has to be one of the given ones but for the case
of its letters. -/
def getChoice (config : Config) (space : Namespace) (path : String) (allowed : List String) :
    Except Failure String := do
  let text ← config.convert space path Expected.text.name stringText
  if (allowed.map Unicode.lowercase).contains (Unicode.lowercase text) then return text
  let choices := ", ".intercalate allowed
  let complaint :=
    .hinted .invalidValue s!"Invalid value '{text}' for `{path}`" s!"Expected one of: {choices}"
  throw (.validation (config.diagnose space path complaint))

/-- The value at a path as plain data of an expected type, which has to pass a
test.  The description of the valid values, if there is one, goes into the hint. -/
def getValidated (config : Config) (space : Namespace) (path : String)
    (expected : Option Expected) (test : Plain → Except Fault Bool) (valid : Option String) :
    Except Failure Plain := do
  let plain ← config.get space path expected
  if ← test plain then return plain
  let hint := (valid.filter (· ≠ "")).map fun values => s!"Valid values are: {values}"
  let complaint : Complaint := ⟨.invalidValue, some s!"Invalid value for `{path}`", hint⟩
  throw (.validation (config.diagnose space path complaint))

/-- A configuration as exported data. -/
def document (config : Config) : Datum :=
  Export.document config.globals config.items config.metadata

/-- A configuration as a text in a layout. -/
def json (config : Config) (layout : JsonLayout) : String :=
  JsonText.write layout config.document

end Rune.Config
