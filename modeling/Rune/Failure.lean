import Rune.Diagnostic.Basic
import Rune.Text.Quoted

/-!
# Rune - failures

Everything that can go wrong is one of two things: a complaint about a
document, which carries a diagnostic, or a fault in a number, a file or a
request, which carries none.

Main results:

- Type {lit}`Failure` has one constructor for each kind of complaint.
- Definition {lit}`Failure.diagnostic?` gives the diagnostic of a complaint.
- Definition {lit}`Failure.message` gives the short text of any failure.
-/

namespace Rune

/-- What is asked of something of the wrong kind.  Kinds are given by their names. -/
inductive Misuse where
  /-- Two things without an order are compared. -/
  | unordered (relation left right : String)
  /-- Something that has no parts is asked for a part. -/
  | noContainer (kind : String)
  /-- A text is asked for a part that is no text. -/
  | notPartOfText (kind : String)
  /-- A record is asked for something that can be no key. -/
  | notKey (kind : String)
  /-- Something that has no parts is asked for their number. -/
  | noSize (kind : String)
  /-- Something is asked for what its kind does not have. -/
  | noProperty (kind property : String)
  deriving DecidableEq

/-- The wording of a misuse. -/
def Misuse.message : Misuse → String
  | .unordered relation left right =>
    s!"'{relation}' not supported between instances of '{left}' and '{right}'"
  | .noContainer kind => s!"argument of type '{kind}' is not iterable"
  | .notPartOfText kind => s!"'in <string>' requires string as left operand, not {kind}"
  | .notKey kind => s!"unhashable type: '{kind}'"
  | .noSize kind => s!"object of type '{kind}' has no len()"
  | .noProperty kind property => s!"'{kind}' object has no attribute '{property}'"

/-- What goes wrong without being a complaint about a document. -/
inductive Fault where
  /-- A pair of integers is no range. -/
  | badRange (fault : RangeFault)
  /-- A numeral or a count is not acceptable. -/
  | badNumeral (message : String)
  /-- A number leaves the range of its target. -/
  | overflow (message : String)
  /-- The bytes of a file are no text. -/
  | badEncoding (message : String)
  /-- A file cannot be read. -/
  | unreadable (message : String)
  /-- A path holds a NUL, which no name of a file does. -/
  | nullInPath
  /-- A name stands for no namespace. -/
  | unknownNamespace (name : String)
  | misuse (misuse : Misuse)
  /-- A list of tokens does not end with the end of the file. -/
  | missingEnd
  /-- A place lies before the first token, also when it is counted from the end. -/
  | noToken
  /-- A loop of the grammar took no token. -/
  | stalled (found : String) (range : TextRange)
  /-- A regular expression looks back further than its program can. -/
  | unfitProgram
  /-- A match leaves a group that ends before it starts. -/
  | disorderedGroup
  deriving DecidableEq

/-- The wording of a fault. -/
def Fault.message : Fault → String
  | .badRange f => f.message
  | .badNumeral message | .overflow message | .badEncoding message | .unreadable message => message
  | .nullInPath => "embedded null byte"
  | .unknownNamespace name =>
    let shown := Quoted.quote name
    s!"{shown} is not a valid Namespace"
  | .misuse m => m.message
  | .missingEnd => "Token list must be terminated by EOF"
  | .noToken => "list index out of range"
  | .stalled found range =>
    let place := range.label
    s!"Parser stopped making progress at {found} {place}"
  | .unfitProgram => "invalid SRE code"
  | .disorderedGroup =>
    "The span of capturing group is wrong, please report a bug for the re module."

/-- What stops a run. -/
inductive Failure where
  | lexical (diagnostic : Diagnostic)
  | grammatical (diagnostic : Diagnostic)
  | importNotFound (diagnostic : Diagnostic)
  | importCycle (diagnostic : Diagnostic) (chain : List String)
  | unresolved (diagnostic : Diagnostic)
  | typeMismatch (diagnostic : Diagnostic)
  | badPattern (diagnostic : Diagnostic) (pattern : String)
  | queryNotFound (diagnostic : Diagnostic) (path : String)
  | queryType (diagnostic : Diagnostic) (path : String)
  | validation (diagnostic : Diagnostic)
  | fault (fault : Fault)
  deriving DecidableEq

namespace Failure

/-- The diagnostic of a complaint about a document. -/
def diagnostic? : Failure → Option Diagnostic
  | .lexical d | .grammatical d | .importNotFound d | .importCycle d _ | .unresolved d
  | .typeMismatch d | .badPattern d _ | .queryNotFound d _ | .queryType d _
  | .validation d => some d
  | .fault _ => none

/-- The short text of a failure. -/
def message (failure : Failure) : String :=
  match failure.diagnostic?, failure with
  | some d, _ => d.summary
  | none, .fault f => f.message
  | none, _ => ""

end Failure

/-- A fault is a failure. -/
instance : MonadLift (Except Fault) (Except Failure) where
  monadLift
    | .ok a => .ok a
    | .error fault => .error (.fault fault)

end Rune
