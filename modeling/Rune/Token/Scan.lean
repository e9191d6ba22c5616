import Rune.Diagnostic.Basic
import Rune.Text.Quoted
import Rune.Token.Basic
import Rune.Unicode.Letters

/-!
# Rune - scanning one token

Scanning looks at the characters that lie ahead and takes one token off them.
It knows nothing of what came before, so a token depends only on its own
characters and on the few that follow it.

Main results:

- Definition {lit}`scan` takes one token, or says why the characters ahead begin
  none and how many of them are given up.
- Theorem {lit}`Scan.consumed_pos`: every scan moves on.
-/

namespace Rune

/-- Why the characters ahead begin no token. -/
inductive LexFault where
  | unterminatedString (quote : Char)
  | unterminatedRawString
  | loneMinus
  | malformedNumber (literal : String)
  | unexpectedCharacter (c : Char)
  | unknownNamespace (name : String)
  deriving DecidableEq

/-- The complaint of a fault among the characters. -/
def LexFault.complaint : LexFault → Complaint
  | .unterminatedString quote =>
    .worded .unterminatedString s!"Unterminated string literal (opened with {quote})."
  | .unterminatedRawString => .standing .unterminatedRawString
  | .loneMinus =>
    .worded .malformedNumber "Malformed number: `-` must be followed by digits."
  | .malformedNumber literal =>
    let shown := Quoted.quote literal
    .worded .malformedNumber s!"Malformed number {shown}."
  | .unexpectedCharacter c =>
    let shown := Quoted.quote (String.singleton c)
    .worded .unexpectedCharacter s!"Unexpected character {shown}."
  | .unknownNamespace name =>
    .worded .unknownNamespace s!"Unknown namespace `${name}`."

/-- A token apart from its place: the kind, and for strings the decoded
contents with what is known about their spelling. -/
structure Lexeme where
  kind : TokenKind
  contents : Option String
  quoted : Bool
  escaped : Bool
  dollars : List Nat
  deriving DecidableEq

namespace Lexeme

/-- A lexeme whose payload is its own text. -/
def plain (kind : TokenKind) : Lexeme := ⟨kind, none, false, false, []⟩

end Lexeme

/-- What a scan found, and how many characters it took beyond the first. -/
structure Scan where
  outcome : Except LexFault Lexeme
  beyond : Nat

namespace Scan

/-- The number of characters taken. -/
def consumed (scan : Scan) : Nat := scan.beyond + 1

/-- Every scan takes at least one character. -/
theorem consumed_pos (scan : Scan) : 0 < scan.consumed := Nat.succ_pos _

end Scan

/-! ## Quoted strings -/

/-- The character that a backslash and a character stand for. -/
def unescape : Char → Char
  | 'n' => '\n'
  | 't' => '\t'
  | 'r' => '\r'
  | c => c

/-- The inside of a quoted string as far as it has been read: contents and
dollar offsets with the last first, and the number of characters taken. -/
structure StringBody where
  contents : List Char
  length : Nat
  dollars : List Nat
  escaped : Bool
  taken : Nat
  closed : Bool

namespace StringBody

/-- Nothing read yet. -/
def start : StringBody := ⟨[], 0, [], false, 0, false⟩

/-- Take a character that stands for itself. -/
def push (body : StringBody) (c : Char) : StringBody :=
  { body with
    contents := c :: body.contents
    length := body.length + 1
    dollars := if c = '$' then body.length :: body.dollars else body.dollars
    taken := body.taken + 1 }

/-- Take a backslash and the character after it. -/
def pushEscape (body : StringBody) (c : Char) : StringBody :=
  { body with
    contents := unescape c :: body.contents
    length := body.length + 1
    escaped := true
    taken := body.taken + 2 }

/-- Take a backslash that nothing follows. -/
def pushLoneBackslash (body : StringBody) : StringBody :=
  { body with escaped := true, taken := body.taken + 1 }

/-- Take the closing quote. -/
def close (body : StringBody) : StringBody :=
  { body with taken := body.taken + 1, closed := true }

/-- Read the inside of a string that was opened with `quote`.  The string ends
at the same quote; a line feed without a backslash leaves it open. -/
def read (quote : Char) (body : StringBody) : List Char → StringBody
  | [] => body
  | c :: rest =>
    if c = quote then body.close
    else if c = '\\' then
      match rest with
      | [] => body.pushLoneBackslash
      | d :: rest => read quote (body.pushEscape d) rest
    else if c = '\n' then body
    else read quote (body.push c) rest

end StringBody

/-- Scan a quoted string after its opening quote. -/
def scanString (quote : Char) (rest : List Char) : Scan :=
  let body := StringBody.read quote .start rest
  { outcome :=
      if body.closed then
        .ok { kind := .string
              contents := some (String.ofList body.contents.reverse)
              quoted := true
              escaped := body.escaped
              dollars := body.dollars.reverse }
      else .error (.unterminatedString quote)
    beyond := body.taken }

/-! ## Raw strings -/

/-- Read the inside of a raw string up to its closing quote.  A backslash stays
in the contents together with the character after it.  The result holds the
contents and whether the string was closed. -/
def readRaw : List Char → List Char × Bool
  | [] => ([], false)
  | c :: rest =>
    if c = '"' then ([], true)
    else if c = '\\' then
      match rest with
      | [] => ([c], false)
      | d :: rest =>
        let (contents, closed) := readRaw rest
        (c :: d :: contents, closed)
    else if c = '\n' then ([], false)
    else
      let (contents, closed) := readRaw rest
      (c :: contents, closed)

/-- Scan a raw string after its opening letter and quote. -/
def scanRawString (rest : List Char) : Scan :=
  let (contents, closed) := readRaw rest
  { outcome :=
      if closed then
        .ok { kind := .rawString
              contents := some (String.ofList contents)
              quoted := true
              escaped := false
              dollars := [] }
      else .error .unterminatedRawString
    beyond := 1 + contents.length + (if closed then 1 else 0) }

/-! ## Numbers -/

/-- The digits of a number with at most one dot, which must lie between digits:
how many characters they are, and whether the dot was met. -/
def readDigits (sawDot : Bool) : List Char → Nat × Bool
  | [] => (0, sawDot)
  | c :: rest =>
    if Unicode.isDigit c then
      let (count, dot) := readDigits sawDot rest
      (count + 1, dot)
    else if c = '.' && !sawDot && rest.head?.any Unicode.isDigit then
      let (count, dot) := readDigits true rest
      (count + 1, dot)
    else (0, sawDot)

/-- A character that may not follow a number. -/
def spoilsNumber (c : Char) : Bool := c = '.' || c = '_' || Unicode.isAlpha c

/-- A character that a spoilt number drags along. -/
def trailsNumber (c : Char) : Bool := Unicode.isAlnum c || c = '.' || c = '_'

/-- Scan a number whose first character is a digit, or a minus sign before a
digit. -/
def scanNumber (first : Char) (rest : List Char) : Scan :=
  let (count, sawDot) := readDigits false rest
  let after := rest.drop count
  if after.head?.any spoilsNumber then
    let junk := after.takeWhile trailsNumber
    { outcome := .error (.malformedNumber (String.ofList (first :: (rest.take count ++ junk))))
      beyond := count + junk.length }
  else
    { outcome := .ok (.plain (if sawDot then .float else .int))
      beyond := count }

/-! ## Words -/

/-- A character that may begin a word. -/
def startsWord (c : Char) : Bool := Unicode.isAlpha c || c = '_'

/-- A character that may continue a word. -/
def continuesWord (c : Char) : Bool := Unicode.isAlnum c || c = '_' || c = '-'

/-- Scan a word: an identifier or a reserved word. -/
def scanWord (first : Char) (rest : List Char) : Scan :=
  let tail := rest.takeWhile continuesWord
  let word := String.ofList (first :: tail)
  { outcome := .ok (.plain ((TokenKind.ofWord? word).getD .identifier))
    beyond := tail.length }

/-- A character of the name after a dollar sign. -/
def namesNamespace (c : Char) : Bool := Unicode.isAlnum c || c = '_'

/-- Scan a dollar sign with the name after it. -/
def scanNamespace (rest : List Char) : Scan :=
  let name := rest.takeWhile namesNamespace
  { outcome :=
      match TokenKind.ofNamespace? (String.ofList name) with
      | some kind => .ok (.plain kind)
      | none => .error (.unknownNamespace (String.ofList name))
    beyond := name.length }

/-! ## One token -/

/-- Take one token off the characters `first :: rest`. -/
def scan (first : Char) (rest : List Char) : Scan :=
  if first = 'r' && rest.head? == some '"' then scanRawString rest.tail
  else if first = '"' || first = '\'' then scanString first rest
  else if Unicode.isDigit first || (first = '-' && rest.head?.any Unicode.isDigit) then
    scanNumber first rest
  else if first = '-' then ⟨.error .loneMinus, 0⟩
  else if startsWord first then scanWord first rest
  else if first = '$' then scanNamespace rest
  else
    match TokenKind.ofPunctuation? first with
    | some kind => ⟨.ok (.plain kind), 0⟩
    | none => ⟨.error (.unexpectedCharacter first), 0⟩

end Rune
