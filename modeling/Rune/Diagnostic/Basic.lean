import Rune.Diagnostic.Spec
import Rune.Text.Source
import Rune.Unicode.Space

/-!
# Rune - diagnostics

A diagnostic is a complaint about a place: a line, a column and the text of the
line.  Complaints that belong to no place have line zero.

Main results:

- Definition {lit}`Source.diagnose` builds the diagnostic of a range of a source.
- Definition {lit}`Diagnostic.detached` builds one without a range.
- Definitions {lit}`Diagnostic.summary` and {lit}`Diagnostic.report` give its short
  and its full text.
-/

namespace Rune

/-- A kind of complaint with the wording and the hint of one occasion, where
they differ from the standing ones. -/
structure Complaint where
  spec : DiagnosticSpec
  message : Option String
  hint : Option String
  deriving DecidableEq

namespace Complaint

/-- A complaint in its standing wording. -/
def standing (spec : DiagnosticSpec) : Complaint := ⟨spec, none, none⟩

/-- A complaint in words of its own. -/
def worded (spec : DiagnosticSpec) (message : String) : Complaint := ⟨spec, some message, none⟩

/-- A complaint in words and with a hint of its own. -/
def hinted (spec : DiagnosticSpec) (message hint : String) : Complaint :=
  ⟨spec, some message, some hint⟩

/-- The wording of a complaint. -/
def text (complaint : Complaint) : String :=
  complaint.message.getD complaint.spec.message

/-- The hint of a complaint. -/
def advice (complaint : Complaint) : Option String :=
  complaint.hint.or complaint.spec.hint

end Complaint

/-- A complaint about a place in a text.  Lines count from one; a line that is
not positive stands for no line. -/
structure Diagnostic where
  code : String
  message : String
  range : TextRange
  severity : Severity
  hint : Option String
  category : Option String
  line : Int
  column : Nat
  lineText : String
  sourcePath : Option String
  deriving DecidableEq

/-- The diagnostic of a complaint about a range of a source. -/
def Source.diagnose (source : Source) (complaint : Complaint) (range : TextRange) :
    Diagnostic :=
  let place := source.locate range
  { code := complaint.spec.code
    message := complaint.text
    range := range
    severity := complaint.spec.severity
    hint := complaint.advice
    category := complaint.spec.category
    line := place.line
    column := place.column
    lineText := place.lineText
    sourcePath := source.path }

namespace Diagnostic

/-- The diagnostic of a complaint that belongs to no range: at best it names a
line. -/
def detached (complaint : Complaint) (line : Int) (lineText : String)
    (sourcePath : Option String) : Diagnostic where
  code := complaint.spec.code
  message := complaint.text
  range := TextRange.empty 0
  severity := complaint.spec.severity
  hint := complaint.advice
  category := complaint.spec.category
  line := line
  column := if line = 0 then 0 else 1
  lineText := lineText
  sourcePath := sourcePath

/-- The category of a diagnostic, or the general one. -/
def kind (d : Diagnostic) : String :=
  match d.category with
  | some category => if category = "" then "error" else category
  | none => "error"

/-- The wording and, if there is one, the line with its text. -/
def summary (d : Diagnostic) : String :=
  if 0 < d.line then
    let stripped := String.ofList (Unicode.trim d.lineText.toList)
    s!"{d.message} (line {d.line}: {stripped})"
  else d.message

/-- The lines that say where a diagnostic belongs. -/
def placeLines (d : Diagnostic) : List String :=
  let path := d.sourcePath.getD ""
  if 0 < d.line then
    let shown := if path = "" then "<memory>" else path
    [s!"  --> {shown}:{d.line}:{d.column}", s!"  | {d.lineText}"]
  else if path = "" then []
  else [s!"  --> {path}"]

/-- The line that gives advice, if there is any. -/
def hintLines (d : Diagnostic) : List String :=
  match d.hint with
  | some hint => if hint = "" then [] else [s!"Hint: {hint}"]
  | none => []

/-- The full text of a diagnostic, as it is shown to people. -/
def report (d : Diagnostic) (withHint : Bool) : String :=
  let heading := s!"{d.severity.heading} [{d.code}]: {d.message}"
  let hints := if withHint then d.hintLines else []
  "\n".intercalate (heading :: (d.placeLines ++ hints))

end Diagnostic

end Rune
