/-!
# Rune - catalogue of complaints

Every kind of complaint has a code, a standing wording and usually a hint.  The
catalogue lists them all.

Main results:

- Structure {lit}`DiagnosticSpec` is one kind of complaint.
- Definition {lit}`DiagnosticSpec.catalogue` lists every kind.
-/

namespace Rune

/-- How serious a complaint is. -/
inductive Severity where
  | error
  | warning
  | other (label : String)
  deriving DecidableEq

namespace Severity

/-- The severity with a given label. -/
def ofLabel (label : String) : Severity :=
  if label = "error" then .error
  else if label = "warning" then .warning
  else .other label

/-- The label of a severity. -/
def label : Severity → String
  | .error => "error"
  | .warning => "warning"
  | .other label => label

/-- The heading of a report: everything that is no error is a warning. -/
def heading : Severity → String
  | .error => "Error"
  | _ => "Warning"

/-- Reading a label keeps it. -/
@[simp] theorem label_ofLabel (text : String) : (ofLabel text).label = text := by
  unfold ofLabel
  split
  · simp_all [label]
  · split <;> simp_all [label]

end Severity

/-- One kind of complaint. -/
structure DiagnosticSpec where
  code : String
  message : String
  hint : Option String
  severity : Severity
  category : Option String
  deriving DecidableEq

namespace DiagnosticSpec

/-- A kind of error with a standing hint or without one. -/
def standing (category code message : String) (hint : Option String) : DiagnosticSpec :=
  { code := code, message := message, hint := hint, severity := .error, category := some category }

/-! ## Tokens -/

def unterminatedString : DiagnosticSpec :=
  standing "lexer" "LEXER_UNTERMINATED_STRING" "Unterminated string literal."
    (some "Close the string with the same quote it was opened with.")

def unterminatedRawString : DiagnosticSpec :=
  standing "lexer" "LEXER_UNTERMINATED_RAW_STRING" "Unterminated raw string literal."
    (some "Close the pattern with a double quote, e.g. r\"^abc$\".")

def malformedNumber : DiagnosticSpec :=
  standing "lexer" "LEXER_MALFORMED_NUMBER" "Malformed number literal."
    (some "Numbers look like 42, -7 or 3.14.")

def unexpectedCharacter : DiagnosticSpec :=
  standing "lexer" "LEXER_UNEXPECTED_CHARACTER" "Unexpected character." none

def unknownNamespace : DiagnosticSpec :=
  standing "lexer" "LEXER_UNKNOWN_NAMESPACE" "Unknown `$` namespace."
    (some "Use $env.NAME or $sys.KEY.")

/-! ## Grammar -/

def unexpectedToken : DiagnosticSpec :=
  standing "parser" "PARSER_UNEXPECTED_TOKEN" "Unexpected token" none

def expectedToken : DiagnosticSpec :=
  standing "parser" "PARSER_EXPECTED_TOKEN" "Expected token" none

def expectedValue : DiagnosticSpec :=
  standing "parser" "PARSER_EXPECTED_VALUE" "Expected a value"
    (some "Values must start on the same line as their key.")

def unclosedBlock : DiagnosticSpec :=
  standing "parser" "PARSER_UNCLOSED_BLOCK" "Object block is missing its closing `end`."
    (some "Close object blocks with `end`.")

def unclosedConditional : DiagnosticSpec :=
  standing "parser" "PARSER_UNCLOSED_CONDITIONAL"
    "Block conditional is missing its closing `endif`."
    (some "Close if-blocks with `endif`, not `end`.")

def malformedCondition : DiagnosticSpec :=
  standing "parser" "PARSER_MALFORMED_CONDITION" "Malformed condition."
    (some "Conditions look like `name = \"value\"` or `$env.NAME = \"1\"`.")

/-! ## Gathered files -/

def importNotFound : DiagnosticSpec :=
  standing "import" "IMPORT_NOT_FOUND" "Could not load gathered file."
    (some "Check that the file exists relative to the importing file.")

def importCycle : DiagnosticSpec :=
  standing "import" "IMPORT_CYCLE" "Import cycle detected."
    (some "Break the cycle by moving shared values into a separate file.")

/-! ## References -/

def unresolvedReference : DiagnosticSpec :=
  standing "resolve" "RESOLVE_UNRESOLVED_REFERENCE" "Unresolved reference."
    (some "Define the name before using it, or check for typos.")

def unknownAlias : DiagnosticSpec :=
  standing "resolve" "RESOLVE_UNKNOWN_ALIAS" "Unknown import alias." none

def referenceCycle : DiagnosticSpec :=
  standing "resolve" "RESOLVE_REFERENCE_CYCLE" "Reference cycle detected."
    (some "A value cannot depend on itself.")

def unknownSystemKey : DiagnosticSpec :=
  standing "resolve" "RESOLVE_UNKNOWN_SYS_KEY" "Unknown $sys key."
    (some ("Available keys: os, hostname, kernel_version, os_version, cpu_arch, cpu_count, "
      ++ "memory_total, memory_free, memory_used, uptime, product_name"))

def typeMismatch : DiagnosticSpec :=
  standing "type" "RESOLVE_TYPE_MISMATCH" "Condition compares incompatible values."
    (some "Compare numbers with numbers and strings with strings.")

def badPattern : DiagnosticSpec :=
  standing "regex" "REGEX_COMPILE_FAILED" "Invalid regex pattern."
    (some "Check your regex syntax.")

/-! ## Queries -/

def queryNotFound : DiagnosticSpec :=
  standing "query" "QUERY_NOT_FOUND" "Path not found in configuration."
    (some "Check that the path exists in your config file.")

def queryTypeMismatch : DiagnosticSpec :=
  standing "query" "QUERY_TYPE_MISMATCH" "Value has the wrong type." none

def invalidValue : DiagnosticSpec :=
  standing "validation" "VALIDATION_INVALID_VALUE" "Invalid configuration value." none

/-- Every kind of complaint. -/
def catalogue : List DiagnosticSpec :=
  [unterminatedString, unterminatedRawString, malformedNumber, unexpectedCharacter,
    unknownNamespace, unexpectedToken, expectedToken, expectedValue, unclosedBlock,
    unclosedConditional, malformedCondition, importNotFound, importCycle,
    unresolvedReference, unknownAlias, referenceCycle, unknownSystemKey, typeMismatch,
    badPattern, queryNotFound, queryTypeMismatch, invalidValue]

/-- The kind of complaint with a given code. -/
def ofCode? (code : String) : Option DiagnosticSpec :=
  catalogue.find? (·.code = code)

end DiagnosticSpec

end Rune
