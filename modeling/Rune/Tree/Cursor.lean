import Rune.Token.Lexer

/-!
# Rune - a cursor over tokens

The grammar reads tokens through a cursor.  The tokens behind the cursor are
kept with the last one first, and the token that ends the list is kept apart, so
a cursor can never run over the end.

Main results:

- Type {lit}`Parse` is a step of the grammar, which moves the cursor.
- Definitions {lit}`Parse.bump`, {lit}`Parse.eat` and {lit}`Parse.expect` take
  tokens.
- Structure {lit}`Progress` notices a loop that takes no token.
-/

namespace Rune

/-- A place in a list of tokens: the tokens behind it with the last one first,
the tokens ahead, and the token that ends the list. -/
structure Cursor where
  source : Source
  behind : List Token
  ahead : List Token
  finish : Token

namespace Cursor

/-- A cursor at the first token of a list that ends with an end token. -/
def ofTokens (source : Source) (tokens : List Token) : Except Failure Cursor :=
  match tokens.getLast? with
  | none => .error (.fault .missingEnd)
  | some finish =>
    if finish.kind = .eof then .ok ⟨source, [], tokens.dropLast, finish⟩
    else .error (.fault .missingEnd)

/-- The token at the cursor. -/
def current (cursor : Cursor) : Token := cursor.ahead.head?.getD cursor.finish

/-- The kind of the token at the cursor. -/
def kind (cursor : Cursor) : TokenKind := cursor.current.kind

/-- The range of the token at the cursor. -/
def range (cursor : Cursor) : TextRange := cursor.current.range

/-- The offset of the token at the cursor. -/
def position (cursor : Cursor) : Nat := cursor.range.start

/-- Whether a line break lies before the token at the cursor. -/
def lineBreak (cursor : Cursor) : Bool := cursor.current.lineBreakBefore

/-- The token before the cursor; at the first token, that token itself. -/
def previous (cursor : Cursor) : Token := cursor.behind.head?.getD cursor.current

/-- The token `n` places ahead; beyond the end, the token that ends the list. -/
def nth (cursor : Cursor) (n : Nat) : Token := (cursor.ahead[n]?).getD cursor.finish

/-- The token at a place relative to the cursor: beyond the end, the token that ends
the list; before the first token, the one at that place counted from the end. -/
def tokenAt (cursor : Cursor) (distance : Int) : Except Fault Token :=
  let tokens := cursor.behind.reverse ++ cursor.ahead ++ [cursor.finish]
  let place := cursor.behind.length + distance
  let counted := if place < 0 then place + tokens.length else place
  if counted < 0 then .error .noToken
  else .ok ((tokens[counted.toNat]?).getD cursor.finish)

/-- The cursor behind its token; at the end it stays. -/
def advance (cursor : Cursor) : Cursor :=
  match cursor.ahead with
  | [] => cursor
  | token :: rest => { cursor with behind := token :: cursor.behind, ahead := rest }

/-- The range from `start` to the last token taken. -/
def rangeFrom (cursor : Cursor) (start : TextRange) : TextRange :=
  start.cover cursor.previous.range

/-- Advancing shortens what lies ahead by one token. -/
theorem advance_ahead (cursor : Cursor) : cursor.advance.ahead = cursor.ahead.tail := by
  unfold advance
  split <;> simp_all

end Cursor

/-! ## Steps -/

/-- A step of the grammar: it moves the cursor and gives a result or a failure.
Tokens taken before a failure stay taken. -/
abbrev Parse := EStateM Failure Cursor

namespace Parse

/-- Look at the cursor. -/
def look {α : Type} (f : Cursor → α) : Parse α := fun cursor => .ok (f cursor) cursor

/-- Stop with a complaint about a range. -/
def complainAt {α : Type} (complaint : Complaint) (range : TextRange) : Parse α := fun cursor =>
  .error (.grammatical (cursor.source.diagnose complaint range)) cursor

/-- Stop with a complaint about the token at the cursor. -/
def complain {α : Type} (complaint : Complaint) : Parse α := fun cursor =>
  complainAt complaint cursor.range cursor

/-- Take the token at the cursor. -/
def bump : Parse Token := fun cursor => .ok cursor.current cursor.advance

/-- Whether the token at the cursor is of a kind. -/
def isAt (kind : TokenKind) : Parse Bool := look fun cursor => cursor.kind = kind

/-- Take the token at the cursor if it is of a kind. -/
def eat (kind : TokenKind) : Parse Bool := do
  if ← isAt kind then
    let _ ← bump
    return true
  return false

/-- Take a token of a kind, or complain that it is missing.  A kind that is wanted
under no name is wanted under its own. -/
def expect (kind : TokenKind) (name : String) : Parse Token := do
  let token ← look Cursor.current
  if token.kind = kind then bump
  else
    let wanted := if name = "" then kind.describe else name
    let found := token.describe
    complain (.worded .expectedToken s!"Expected {wanted}, found {found}")

/-- The range from `start` to the last token taken. -/
def rangeFrom (start : TextRange) : Parse TextRange := look fun cursor => cursor.rangeFrom start

/-- Give the result of a computation that needs no tokens. -/
def ofExcept {α : Type} : Except Fault α → Parse α
  | .ok a => pure a
  | .error fault => throw (.fault fault)

end Parse

/-! ## Progress -/

/-- The offset at which a loop was last seen. -/
structure Progress where
  lastSeen : Option Nat

namespace Progress

/-- A loop that has not run yet. -/
def start : Progress := ⟨none⟩

/-- Whether the cursor has moved on since the loop was last seen. -/
def hasProgressed (progress : Progress) (cursor : Cursor) : Bool :=
  match progress.lastSeen with
  | none => true
  | some offset => offset < cursor.position

/-- The loop as it is seen now. -/
def seen (cursor : Cursor) : Progress := ⟨some cursor.position⟩

/-- The failure of a loop that stands still. -/
def stalled (cursor : Cursor) : Failure :=
  .fault (.stalled cursor.kind.name cursor.range)

/-- Stop a loop that stands still; otherwise remember where it is. -/
def step (progress : Progress) : Parse Progress := fun cursor =>
  if progress.hasProgressed cursor then .ok (seen cursor) cursor
  else .error (stalled cursor) cursor

end Progress

end Rune
