import Rune.File.Path
import Rune.Number.Numeral
import Rune.Tree.Cursor
import Rune.Tree.Interpolation

/-!
# Rune - the grammar

The grammar turns tokens into a tree by recursive descent, without going back
and without repair: the first complaint ends it.  A line break matters in a few
places only, and each of them is named here.

Main results:

- Definitions {lit}`Grammar.value`, {lit}`Grammar.members` and
  {lit}`Grammar.document` read values, members of blocks and whole documents.
- Definition {lit}`Source.parse` reads the document of a source.

The nested parts recur on a fuel that the wrappers compute from the number of
tokens ahead; it lasts because every level of nesting takes a token.
-/

namespace Rune

/-- Why tokens are no document. -/
inductive GrammarFault where
  | metadataKey (found : Token)
  | gatherPath (found : Token)
  | segment (found : Token)
  | namespaceDot (marker : String)
  | namespaceName (marker : String) (found : Token)
  | arraySeparator (found : Token)
  | unclosedArray
  | assignedHost
  | topLevelConditional
  | unexpectedAtTop (found : Token)
  | unexpectedInBlock (found : Token)
  | unclosedBlock (name : String)
  | strayWord (found : Token)
  | repeatedElse
  | endOfConditional
  | unclosedConditional
  | missingValue (key : Token)
  | noValue (found : Token)
  | missingCondition
  | badOperand (found : Token)
  deriving DecidableEq

namespace GrammarFault

/-- The wording for a token that may not stand at a place. -/
def unexpected (found : Token) (place : String) : String :=
  match found.kind with
  | .endWord => s!"Unexpected `end` {place} (no open object block)"
  | .elseWord | .endifWord => s!"Unexpected `{found.text}` {place} (no matching `if`)"
  | _ =>
    let shown := found.describe
    s!"Unexpected {shown} {place}"

/-- The wording for a token that something else should have stood for. -/
def expected (wanted : String) (found : Token) : String :=
  let shown := found.describe
  s!"Expected {wanted}, found {shown}"

/-- The complaint of a fault of the grammar. -/
def complaint : GrammarFault → Complaint
  | .metadataKey found => .worded .expectedToken (expected "identifier after `@`" found)
  | .gatherPath found =>
    .hinted .expectedToken (expected "string after `gather`" found)
      "Use: gather \"path/to/file.rune\" as alias"
  | .segment found => .worded .expectedToken (expected "identifier after `.`" found)
  | .namespaceDot marker =>
    .hinted .expectedToken s!"Expected `.` after `{marker}`" s!"Use {marker}.NAME"
  | .namespaceName marker found =>
    .worded .expectedToken (expected s!"name after `{marker}.`" found)
  | .arraySeparator found => .worded .expectedToken (expected "`,` or `]` in array" found)
  | .unclosedArray => .worded .expectedToken "Unclosed array, expected `]`"
  | .assignedHost =>
    .hinted .unexpectedToken "Dollar variables ($env, $sys) cannot be assigned at top level"
      "Dollar variables can only be used as values."
  | .topLevelConditional =>
    .worded .unexpectedToken "Block conditionals are only allowed inside object blocks"
  | .unexpectedAtTop found => .worded .unexpectedToken (unexpected found "at top level")
  | .unexpectedInBlock found =>
    .hinted .unexpectedToken (unexpected found "inside object block")
      "Expected a key, `if`, or `end`."
  | .unclosedBlock name =>
    .worded .unclosedBlock s!"Object block `{name}` is missing its closing `end`"
  | .strayWord found => .worded .unexpectedToken s!"`{found.text}` without a matching `if`"
  | .repeatedElse => .worded .unexpectedToken "Unexpected `else` (no matching `if`?)"
  | .endOfConditional =>
    .worded .unclosedConditional "Found `end` while parsing an if-block; did you mean `endif`?"
  | .unclosedConditional => .standing .unclosedConditional
  | .missingValue key => .worded .expectedValue s!"Expected a value after `{key.text}`"
  | .noValue found => .worded .expectedValue (expected "a value" found)
  | .missingCondition => .worded .malformedCondition "Expected a condition after `if`"
  | .badOperand found =>
    let shown := found.describe
    .worded .malformedCondition s!"Malformed condition: unexpected {shown}"

end GrammarFault

namespace Grammar

open Parse

/-- Stop with a fault about a range. -/
def failAt {α : Type} (fault : GrammarFault) (range : TextRange) : Parse α :=
  complainAt fault.complaint range

/-- Stop with a fault about the token at the cursor. -/
def fail {α : Type} (fault : GrammarFault) : Parse α := complain fault.complaint

/-- Stop because a loop of the grammar stands still. -/
def stall {α : Type} : Parse α := fun cursor => .error (Progress.stalled cursor) cursor

/-- Whether the token at the cursor is of a kind and on the line of the token
before it. -/
def isAtOnLine (kind : TokenKind) : Parse Bool :=
  look fun cursor => cursor.kind = kind && !cursor.lineBreak

/-- Whether a colon follows the token at the cursor. -/
def isBeforeColon : Parse Bool := look fun cursor => decide ((cursor.nth 1).kind = .colon)

/-- Take a token of a kind on the same line, or stop with a fault about the token
that stands there. -/
def take (kind : TokenKind) (fault : Token → GrammarFault) : Parse Token := do
  if ← isAtOnLine kind then bump
  else
    let found ← look Cursor.current
    fail (fault found)

/-! ## References and literals -/

/-- The scalar that a literal token stands for. -/
def scalarOf (token : Token) : Except Fault Scalar :=
  match token.kind with
  | .int => (Numeral.readInt token.text).map fun i => .number (.int i)
  | .float => (Numeral.readFloat token.text).map fun x => .number (.float x)
  | .trueWord => .ok (.bool true)
  | .falseWord => .ok (.bool false)
  | .null => .ok .null
  | _ => .ok (.text token.value)

/-- Take a literal. -/
def literal : Parse Operand := do
  let token ← bump
  let scalar ← ofExcept (scalarOf token)
  return .literal scalar token.range

/-- Take a string. -/
def string : Parse Operand := do
  let token ← bump
  return Interpolation.operandOf token

/-- The segments after a name: each one a dot and a name on the same line.  The
fuel is the number of segments that may follow. -/
def segments : Nat → Parse (List String)
  | 0 => return []
  | fuel + 1 => do
    if ← isAtOnLine .dot then
      let _ ← bump
      let segment ← take .identifier .segment
      let rest ← segments fuel
      return segment.text :: rest
    else return []

/-- A name or a dotted reference. -/
def reference : Parse Operand := do
  let first ← expect .identifier TokenKind.identifier.describe
  let fuel ← look fun cursor => cursor.ahead.length
  let rest ← segments fuel
  let range ← rangeFrom first.range
  match rest with
  | [] => return .name first.text range
  | next :: rest => return .path first.text next rest range

/-- A reference to the environment or to the host. -/
def hostReference : Parse Operand := do
  let marker ← bump
  let shown := if marker.kind = .env then "$env" else "$sys"
  let _ ← take .dot fun _ => .namespaceDot shown
  let name ← take .identifier (.namespaceName shown)
  let range ← rangeFrom marker.range
  return .host (if marker.kind = .env then .env name.text range else .sys name.text range)

/-! ## Conditions -/

/-- One side of a condition. -/
def conditionOperand : Parse Operand := do
  let token ← look Cursor.current
  match token.kind with
  | .identifier => reference
  | .env | .sys => hostReference
  | .string => string
  | .int | .float | .trueWord | .falseWord | .null => literal
  | _ => fail (.badOperand token)

/-- The condition that begins with an operand: an equality if an equals sign
follows. -/
def comparison (start : TextRange) (left : Operand) : Parse Condition := do
  if ← eat .equal then
    let right ← conditionOperand
    return .equality left right (← rangeFrom start)
  return .presence left (← rangeFrom start)

/-- A condition, on the line of its keyword, perhaps between parentheses. -/
def condition : Parse Condition := do
  let start ← look Cursor.range
  if ← look Cursor.lineBreak then fail .missingCondition
  let parenthesized ← eat .leftParen
  let left ← conditionOperand
  let result ← comparison start left
  if parenthesized then
    let _ ← expect .rightParen "`)` to close condition"
  return result

/-! ## Values -/

mutual

/-- A value, with fuel. -/
def valueWith : Nat → Parse ValueExpr
  | 0 => stall
  | fuel + 1 => do
    let token ← look Cursor.current
    match token.kind with
    | .string => return .operand (← string)
    | .rawString =>
      let _ ← bump
      return .rawString token.value token.range
    | .int | .float | .trueWord | .falseWord | .null => return .operand (← literal)
    | .identifier => return .operand (← reference)
    | .env | .sys => return .operand (← hostReference)
    | .leftBracket => arrayWith fuel
    | .ifWord => conditionalWith fuel
    | _ => fail (.noValue token)

/-- An array, with fuel. -/
def arrayWith : Nat → Parse ValueExpr
  | 0 => stall
  | fuel + 1 => do
    let opening ← bump
    let items ← itemsWith fuel opening.range .start
    return .array items (← rangeFrom opening.range)

/-- The items of an array and its closing bracket, with fuel.  Between two items
stands a comma or a line break; a comma may follow the last one. -/
def itemsWith : Nat → TextRange → Progress → Parse (List ValueExpr)
  | 0, _, _ => stall
  | fuel + 1, opening, progress => do
    if ← eat .rightBracket then return []
    let progress ← progress.step
    if ← isAt .eof then failAt .unclosedArray opening
    let item ← valueWith fuel
    if !(← eat .comma) then
      let separated ← look fun cursor => cursor.kind = .rightBracket || cursor.lineBreak
      if !separated then fail (.arraySeparator (← look Cursor.current))
    let rest ← itemsWith fuel opening progress
    return item :: rest

/-- A choice between two values, with fuel.  An `else` before a colon belongs to
a block around the value. -/
def conditionalWith : Nat → Parse ValueExpr
  | 0 => stall
  | fuel + 1 => do
    let keyword ← bump
    let condition ← condition
    let thenValue ← valueWith fuel
    let elseValue ←
      if (← isAt .elseWord) && !(← isBeforeColon) then do
        let _ ← bump
        pure (some (← valueWith fuel))
      else pure none
    return .conditional condition thenValue elseValue (← rangeFrom keyword.range)

end

/-- Fuel that lasts for all tokens ahead. -/
def fuelFor (cursor : Cursor) : Nat := 3 * cursor.ahead.length + 3

/-- A value. -/
def value : Parse ValueExpr := fun cursor => valueWith (fuelFor cursor) cursor

/-- An array. -/
def array : Parse ValueExpr := fun cursor => arrayWith (fuelFor cursor) cursor

/-- A choice between two values. -/
def inlineConditional : Parse ValueExpr := fun cursor => conditionalWith (fuelFor cursor) cursor

/-- A value on the line of its key. -/
def boundValue : Parse ValueExpr := do
  if ← look fun cursor => cursor.kind = .eof || cursor.lineBreak then
    let key ← look Cursor.previous
    failAt (.missingValue key) key.range
  value

/-- A name with its value; an equals sign may stand between them on the line of
the name. -/
def binding : Parse (String × ValueExpr × TextRange) := do
  let name ← bump
  if ← isAtOnLine .equal then
    let _ ← bump
  let value ← boundValue
  return (name.text, value, ← rangeFrom name.range)

/-! ## Blocks -/

/-- Whether a kind ends a list of members. -/
def endsMembers : TokenKind → Bool
  | .endWord | .elseWord | .endifWord | .eof => true
  | _ => false

/-- The end of a choice between two lists of members that began with a keyword. -/
def conditionalEnd (keyword : Token) (condition : Condition)
    (thenChildren elseChildren : List Member) : Parse Member := do
  match ← look Cursor.kind with
  | .endifWord =>
    let _ ← bump
    return .conditional condition thenChildren elseChildren (← rangeFrom keyword.range)
  | .endWord => fail .endOfConditional
  | _ => failAt .unclosedConditional keyword.range

mutual

/-- The members of a block, with fuel. -/
def membersWith : Nat → Progress → Parse (List Member)
  | 0, _ => stall
  | fuel + 1, progress => do
    if ← look fun cursor => endsMembers cursor.kind then return []
    let progress ← progress.step
    let member ← memberWith fuel
    let rest ← membersWith fuel progress
    return member :: rest

/-- One member of a block, with fuel. -/
def memberWith : Nat → Parse Member
  | 0 => stall
  | fuel + 1 => do
    let token ← look Cursor.current
    match token.kind with
    | .identifier =>
      if ← isBeforeColon then
        let (name, children, range) ← blockWith fuel
        return .block name children range
      else
        let (name, value, range) ← binding
        return .field name value range
    | .ifWord => blockConditionalWith fuel
    | _ => fail (.unexpectedInBlock token)

/-- An object block, with fuel: its name, its members and its range. -/
def blockWith : Nat → Parse (String × List Member × TextRange)
  | 0 => stall
  | fuel + 1 => do
    let name ← bump
    let _ ← expect .colon TokenKind.colon.describe
    let children ← membersWith fuel .start
    let token ← look Cursor.current
    match token.kind with
    | .endWord =>
      let _ ← bump
      return (name.text, children, ← rangeFrom name.range)
    | .eof => failAt (.unclosedBlock name.text) name.range
    | _ => fail (.strayWord token)

/-- A choice between two lists of members, with fuel. -/
def blockConditionalWith : Nat → Parse Member
  | 0 => stall
  | fuel + 1 => do
    let keyword ← bump
    let condition ← condition
    let _ ← expect .colon "`:` after if condition"
    let thenChildren ← membersWith fuel .start
    let elseChildren ←
      if ← eat .elseWord then do
        let _ ← expect .colon "`:` after else"
        let children ← membersWith fuel .start
        if ← isAt .elseWord then fail .repeatedElse
        pure children
      else pure []
    conditionalEnd keyword condition thenChildren elseChildren

end

/-- The members of a block. -/
def members : Parse (List Member) := fun cursor => membersWith (fuelFor cursor) .start cursor

/-- An object block: its name, its members and its range. -/
def block : Parse (String × List Member × TextRange) := fun cursor =>
  blockWith (fuelFor cursor) cursor

/-- A choice between two lists of members. -/
def blockConditional : Parse Member := fun cursor => blockConditionalWith (fuelFor cursor) cursor

/-! ## Statements -/

/-- A binding of metadata. -/
def metadata : Parse Statement := do
  let marker ← bump
  let key ← take .identifier .metadataKey
  let value ← boundValue
  return .metadata key.text value (← rangeFrom marker.range)

/-- A gather.  Without an alias of its own it is known by the stem of its path. -/
def gather : Parse Gather := do
  let keyword ← bump
  let path ← take .string .gatherPath
  let explicitAlias ← isAtOnLine .asWord
  let aliasName ←
    if explicitAlias then do
      let _ ← bump
      pure (← expect .identifier "identifier after `as`").text
    else
      let stem := FilePath.stem path.value
      pure (if stem = "" then "imported" else stem)
  return ⟨path.value, aliasName, ← rangeFrom keyword.range, explicitAlias⟩

/-- One statement of a document. -/
def statement : Parse Statement := do
  let token ← look Cursor.current
  match token.kind with
  | .atSign => metadata
  | .gather => return .gather (← gather)
  | .identifier =>
    if ← isBeforeColon then
      let (name, children, range) ← block
      return .block name children range
    else
      let (name, value, range) ← binding
      return .global name value range
  | .env | .sys => fail .assignedHost
  | .ifWord => fail .topLevelConditional
  | _ => fail (.unexpectedAtTop token)

/-- The statements up to the end, with fuel. -/
def statementsWith : Nat → Progress → Parse Document
  | 0, _ => stall
  | fuel + 1, progress => do
    if ← isAt .eof then return []
    let progress ← progress.step
    let statement ← statement
    let rest ← statementsWith fuel progress
    return statement :: rest

/-- A whole document. -/
def document : Parse Document := fun cursor => statementsWith (fuelFor cursor) .start cursor

end Grammar

/-- The document of a source. -/
def Source.parse (source : Source) : Except Failure Document := do
  let tokens ← source.tokens
  let cursor ← Cursor.ofTokens source tokens
  match Grammar.document cursor with
  | .ok document _ => return document
  | .error failure _ => throw failure

end Rune
