import Rune.Text.Range

/-!
# Rune - tokens

A token is a piece of source text with its kind, its decoded payload and what
the grammar wants to know about how it was written.

Main results:

- Structure {lit}`Token` holds one token; {lit}`Token.interpolates` says whether it
  is a string in which references may stand.
- Definition {lit}`Token.describe` names a token in messages.
-/

namespace Rune

/-- What a token is. -/
inductive TokenKind where
  | eof
  | identifier | string | rawString | int | float | trueWord | falseWord | null
  | ifWord | elseWord | endWord | endifWord | gather | asWord
  | colon | comma | dot | equal | atSign
  | leftBracket | rightBracket | leftParen | rightParen
  | env | sys
  deriving DecidableEq

namespace TokenKind

/-- Every kind of token. -/
def all : List TokenKind :=
  [.eof, .identifier, .string, .rawString, .int, .float, .trueWord, .falseWord, .null,
    .ifWord, .elseWord, .endWord, .endifWord, .gather, .asWord, .colon, .comma, .dot,
    .equal, .atSign, .leftBracket, .rightBracket, .leftParen, .rightParen, .env, .sys]

/-- The name of a kind. -/
def name : TokenKind → String
  | .eof => "EOF"
  | .identifier => "IDENTIFIER"
  | .string => "STRING"
  | .rawString => "RAW_STRING"
  | .int => "INT"
  | .float => "FLOAT"
  | .trueWord => "TRUE"
  | .falseWord => "FALSE"
  | .null => "NULL"
  | .ifWord => "IF"
  | .elseWord => "ELSE"
  | .endWord => "END"
  | .endifWord => "ENDIF"
  | .gather => "GATHER"
  | .asWord => "AS"
  | .colon => "COLON"
  | .comma => "COMMA"
  | .dot => "DOT"
  | .equal => "EQUAL"
  | .atSign => "AT"
  | .leftBracket => "LBRACKET"
  | .rightBracket => "RBRACKET"
  | .leftParen => "LPAREN"
  | .rightParen => "RPAREN"
  | .env => "ENV"
  | .sys => "SYS"

/-- The kind with a given name. -/
def ofName? (name : String) : Option TokenKind := all.find? (·.name = name)

/-- How messages speak of a kind. -/
def describe : TokenKind → String
  | .eof => "end of file"
  | .identifier => "identifier"
  | .string => "string"
  | .rawString => "raw string"
  | .int => "number"
  | .float => "number"
  | .trueWord => "`true`"
  | .falseWord => "`false`"
  | .null => "`null`"
  | .ifWord => "`if`"
  | .elseWord => "`else`"
  | .endWord => "`end`"
  | .endifWord => "`endif`"
  | .gather => "`gather`"
  | .asWord => "`as`"
  | .colon => "`:`"
  | .comma => "`,`"
  | .dot => "`.`"
  | .equal => "`=`"
  | .atSign => "`@`"
  | .leftBracket => "`[`"
  | .rightBracket => "`]`"
  | .leftParen => "`(`"
  | .rightParen => "`)`"
  | .env => "`$env`"
  | .sys => "`$sys`"

/-- The kind of a reserved word. -/
def ofWord? (word : String) : Option TokenKind :=
  if word = "if" then some .ifWord
  else if word = "else" then some .elseWord
  else if word = "end" then some .endWord
  else if word = "endif" then some .endifWord
  else if word = "gather" then some .gather
  else if word = "as" then some .asWord
  else if word = "true" then some .trueWord
  else if word = "false" then some .falseWord
  else if word = "null" ∨ word = "None" then some .null
  else none

/-- The kind of a character that is a token of its own. -/
def ofPunctuation? : Char → Option TokenKind
  | ':' => some .colon
  | ',' => some .comma
  | '.' => some .dot
  | '=' => some .equal
  | '@' => some .atSign
  | '[' => some .leftBracket
  | ']' => some .rightBracket
  | '(' => some .leftParen
  | ')' => some .rightParen
  | _ => none

/-- The kind of a word that follows a dollar sign. -/
def ofNamespace? (word : String) : Option TokenKind :=
  if word = "env" then some .env
  else if word = "sys" then some .sys
  else none

/-- Every kind is in the list of kinds. -/
theorem mem_all (kind : TokenKind) : kind ∈ all := by
  cases kind <;> decide

/-- A kind is found by its name. -/
theorem ofName?_name (kind : TokenKind) : ofName? kind.name = some kind := by
  cases kind <;> decide

end TokenKind

/-- One token.  `text` is the source text of the token; `value` is its payload:
the contents of a string, and the source text of anything else.  `dollars` are
the offsets into `value` of the dollar signs that were written without a
backslash. -/
structure Token where
  kind : TokenKind
  range : TextRange
  text : String
  value : String
  line : Nat
  column : Nat
  lineBreakBefore : Bool
  quoted : Bool
  escaped : Bool
  dollars : List Nat
  deriving DecidableEq

namespace Token

/-- Whether references may stand inside a token. -/
def interpolates (token : Token) : Bool :=
  token.kind = .string && !token.dollars.isEmpty

/-- How messages speak of a token. -/
def describe (token : Token) : String :=
  match token.kind with
  | .string | .rawString | .int | .float | .identifier =>
    s!"{token.kind.describe} `{token.text}`"
  | _ => token.kind.describe

end Token

end Rune
