import Rune.Number.Numeral
import Rune.Pattern.Program
import Rune.Unicode.Letters
import Rune.Unicode.Names

/-!
# Rune - reading regular expressions

An expression is read from left to right, one character or one escape at a time.
The first complaint ends the reading.

Main results:

- Definition {lit}`Regex.read` reads an expression and makes it ready to be
  matched.
-/

namespace Rune

/-! ## Pieces -/

/-- A piece of an expression: a character, or a backslash with the character
after it. -/
inductive RegexPiece where
  | plain (c : Char)
  | escaped (c : Char)
  | dangling
  deriving DecidableEq

namespace RegexPiece

/-- The pieces of an expression. -/
def ofChars : List Char → List RegexPiece
  | [] => []
  | '\\' :: [] => [.dangling]
  | '\\' :: c :: rest => .escaped c :: ofChars rest
  | c :: rest => .plain c :: ofChars rest

/-- The text of a piece. -/
def text : RegexPiece → String
  | .plain c => String.singleton c
  | .escaped c => String.ofList ['\\', c]
  | .dangling => "\\"

end RegexPiece

/-! ## Reading -/

/-- What the reader knows: the pieces ahead, the widths of the groups that were
opened, which are known once a group is closed, the names of groups, the number
of groups before the lookbehind that is being read, the groups that conditions
speak of, and the flags that were turned on. -/
structure RegexReader where
  ahead : List RegexPiece
  widths : List (Option Width)
  names : List (String × Nat)
  lookbehind : Option Nat
  conditions : List Nat
  on : List RegexFlag

/-- A step of reading. -/
abbrev ReadRegex := StateT RegexReader (Except RegexFault)

namespace ReadRegex

/-- The number of groups opened so far, the whole expression among them. -/
def groupCount : ReadRegex Nat := return (← get).widths.length + 1

/-- The piece ahead. -/
def peek : ReadRegex (Option RegexPiece) := return (← get).ahead.head?

/-- Let `ahead` be what lies ahead.  A backslash at the very end is refused as
soon as it is next. -/
def setAhead (ahead : List RegexPiece) : ReadRegex Unit := do
  if ahead.head? = some .dangling then throw .danglingBackslash
  modify fun s => { s with ahead := ahead }

/-- Take the piece ahead. -/
def take : ReadRegex (Option RegexPiece) := do
  match (← get).ahead with
  | [] => return none
  | piece :: rest =>
    setAhead rest
    return some piece

/-- Take the piece ahead if it is a given character. -/
def accept (c : Char) : ReadRegex Bool := do
  if (← peek) = some (.plain c) then
    let _ ← take
    return true
  return false

/-- Take up to `count` characters of a kind. -/
def takeWhile (test : Char → Bool) : (count : Nat) → ReadRegex (List Char)
  | 0 => return []
  | count + 1 => do
    match ← peek with
    | some (.plain c) =>
      if test c then
        let _ ← take
        let rest ← takeWhile test count
        return c :: rest
      return []
    | _ => return []

/-- Take everything up to a terminator, and the terminator; `what` is the thing
that is being named. -/
def takeName (terminator : Char) (what : String) : (fuel : Nat) → String → ReadRegex String
  | 0, _ => throw (.missingName what)
  | fuel + 1, name => do
    match ← take with
    | none =>
      if name = "" then throw (.missingName what)
      throw (.unterminatedName (String.singleton terminator))
    | some piece =>
      if piece = .plain terminator then
        if name = "" then throw (.missingName what)
        return name
      takeName terminator what fuel (name ++ piece.text)

/-- Take a name up to a terminator. -/
def name (terminator : Char) (what : String) : ReadRegex String := do
  takeName terminator what ((← get).ahead.length + 1) ""

/-- Refuse a name that is no identifier. -/
def checkGroupName (name : String) : ReadRegex Unit := do
  if !Unicode.isIdentifier name.toList then throw (.badGroupName name)

/-- The width of a group, if it has been closed. -/
def closedWidth? (number : Nat) : ReadRegex (Option Width) := do
  if number = 0 then return none
  return ((← get).widths[number - 1]?).join

/-- Refuse a group that a lookbehind may not speak of. -/
def checkLookbehind (number : Nat) : ReadRegex Unit := do
  match (← get).lookbehind with
  | none => return ()
  | some before =>
    if (← closedWidth? number).isNone then throw .openGroup
    if before ≤ number then throw .lookbehindGroup

/-- Open a group, perhaps with a name. -/
def openGroup (groupName : Option String) : ReadRegex Nat := do
  let number ← groupCount
  modify fun s => { s with widths := s.widths ++ [none] }
  match groupName with
  | none => return number
  | some text =>
    match (← get).names.lookup text with
    | some before => throw (.redefinedGroup text number before)
    | none =>
      modify fun s => { s with names := (text, number) :: s.names }
      return number

/-- Close a group. -/
def closeGroup (number : Nat) (body : List Regex) : ReadRegex Unit :=
  modify fun s =>
    { s with widths := s.widths.set (number - 1) (some (Regex.totalWidth body)) }

/-! ### Escapes -/

/-- A hexadecimal digit. -/
def isHex (c : Char) : Bool :=
  ('0' ≤ c && c ≤ '9') || ('a' ≤ c && c ≤ 'f') || ('A' ≤ c && c ≤ 'F')

/-- An octal digit. -/
def isOctal (c : Char) : Bool := '0' ≤ c && c ≤ '7'

/-- A decimal digit of the first 128 characters. -/
def isDigit (c : Char) : Bool := '0' ≤ c && c ≤ '9'

/-- The value of a hexadecimal digit. -/
def hexValue (c : Char) : Nat :=
  if c.toNat < 58 then c.toNat - 48 else (c.toNat ||| 32) - 87

/-- The number that digits stand for in a base. -/
def ofDigits (base : Nat) (digits : List Char) : Nat :=
  digits.foldl (fun n c => n * base + hexValue c) 0

/-- A member of a set of characters as an expression of its own. -/
def ofItem : SetItem → Regex
  | .code n => .literal false n
  | item => .set false [item]

/-- The escapes that stand for one control character. -/
def control? : Char → Option Nat
  | 'a' => some 7
  | 'b' => some 8
  | 'f' => some 12
  | 'n' => some 10
  | 'r' => some 13
  | 't' => some 9
  | 'v' => some 11
  | '\\' => some 92
  | _ => none

/-- The escapes that stand for a class of characters. -/
def charClass? : Char → Option SetItem
  | 'd' => some (.charClass .digit false)
  | 'D' => some (.charClass .digit true)
  | 's' => some (.charClass .space false)
  | 'S' => some (.charClass .space true)
  | 'w' => some (.charClass .word false)
  | 'W' => some (.charClass .word true)
  | _ => none

/-- The escapes that stand for a place. -/
def anchor? : Char → Option Anchor
  | 'A' => some .textStart
  | 'b' => some .boundary
  | 'B' => some .notBoundary
  | 'Z' => some .textEnd
  | _ => none

/-- The text of an escape with more characters after it. -/
def escapeText (c : Char) (more : List Char) : String := String.ofList ('\\' :: c :: more)

/-- A code point written with a fixed number of hexadecimal digits. -/
def hexEscape (c : Char) (digits : Nat) : ReadRegex Nat := do
  let more ← takeWhile isHex digits
  if more.length < digits then throw (.incompleteEscape (escapeText c more))
  let code := ofDigits 16 more
  if 0x110000 ≤ code then throw (.badEscape (escapeText c more))
  return code

/-- A code point written by the name of its character. -/
def namedEscape : ReadRegex Nat := do
  if !(← accept '\x7b') then throw .missingBrace
  let characterName ← name '\x7d' "character name"
  match Unicode.ofName? characterName with
  | some code => return code
  | none => throw (.unknownCharacterName characterName)

/-- An octal escape of up to three digits. -/
def octalEscape (c : Char) : ReadRegex Nat := do
  let more ← takeWhile isOctal 2
  let code := ofDigits 8 (c :: more)
  if 0o377 < code then throw (.octalTooLarge (escapeText c more))
  return code

/-- The escapes that may stand both inside and outside of sets, if the escape is
one. -/
def sharedEscape? (c : Char) : Option (ReadRegex Nat) :=
  match c with
  | 'x' => some (hexEscape 'x' 2)
  | 'u' => some (hexEscape 'u' 4)
  | 'U' => some (hexEscape 'U' 8)
  | 'N' => some namedEscape
  | _ => none

/-- An escape that stands for the character itself, unless it is a letter. -/
def plainEscape (c : Char) : ReadRegex Nat := do
  if Unicode.isAsciiLetter c then throw (.badEscape (escapeText c []))
  return c.toNat

/-- The member of a set that an escape stands for. -/
def setEscape (c : Char) : ReadRegex SetItem := do
  match control? c, charClass? c, sharedEscape? c with
  | some code, _, _ => return .code code
  | _, some item, _ => return item
  | _, _, some read => return .code (← read)
  | _, _, _ =>
    if isOctal c then return .code (← octalEscape c)
    if isDigit c then throw (.badEscape (escapeText c []))
    return .code (← plainEscape c)

/-- A reference to a group. -/
def referenceTo (number : Nat) : ReadRegex Regex := do
  match ← closedWidth? number with
  | none => throw .openGroup
  | some w =>
    checkLookbehind number
    return .reference number w

/-- An escape that begins with a digit other than zero: three octal digits, or a
reference to a group of one or two digits. -/
def numberEscape (c : Char) : ReadRegex Regex := do
  let second ← takeWhile isDigit 1
  match second with
  | [d] =>
    if isOctal c && isOctal d then
      let third ← takeWhile isOctal 1
      if third ≠ [] then
        let code := ofDigits 8 (c :: d :: third)
        if 0o377 < code then throw (.octalTooLarge (escapeText c (d :: third)))
        return .literal false code
  | _ => pure ()
  let number := ofDigits 10 (c :: second)
  if number < (← groupCount) then referenceTo number
  else throw (.invalidGroup number)

/-- The expression that an escape outside of sets stands for. -/
def escape (c : Char) : ReadRegex Regex := do
  match charClass? c, anchor? c, control? c, sharedEscape? c with
  | some item, _, _, _ => return ofItem item
  | _, some a, _, _ => return .anchor a
  | _, _, some code, _ => return .literal false code
  | _, _, _, some read => return .literal false (← read)
  | _, _, _, _ =>
    if c = '0' then
      let more ← takeWhile isOctal 2
      return .literal false (ofDigits 8 (c :: more))
    if isDigit c then numberEscape c
    else return .literal false (← plainEscape c)

/-! ### Sets -/

/-- One member of a set, or the lower end of a range. -/
def setItem : RegexPiece → ReadRegex SetItem
  | .plain c => return .code c.toNat
  | .escaped c => setEscape c
  | .dangling => throw .danglingBackslash

/-- The members of a set up to its closing bracket; `first` says that no member
was read yet, in which case the bracket is a member. -/
def setItems : (fuel : Nat) → (first : Bool) → ReadRegex (List SetItem)
  | 0, _ => throw .unterminatedSet
  | fuel + 1, first => do
    match ← take with
    | none => throw .unterminatedSet
    | some this =>
      if this = .plain ']' && !first then return []
      let low ← setItem this
      if ← accept '-' then
        match ← take with
        | none => throw .unterminatedSet
        | some that =>
          if that = .plain ']' then return [low, .code 45]
          let high ← setItem that
          match low, high with
          | .code a, .code b =>
            if b < a then throw (.badRange this.text that.text)
            let rest ← setItems fuel false
            return .range a b :: rest
          | _, _ => throw (.badRange this.text that.text)
      else
        let rest ← setItems fuel false
        return low :: rest

/-- A set after its opening bracket.  A set of one character is that character. -/
def set : ReadRegex Regex := do
  let negated ← accept '^'
  let items ← setItems ((← get).ahead.length + 1) true
  match items.eraseDups with
  | [.code n] => return .literal negated n
  | items => return .set negated items

/-! ### Flags -/

/-- Flags that are turned on, up to the character that ends them. -/
def flagsOn : (fuel : Nat) → Char → List RegexFlag → ReadRegex (List RegexFlag × Char)
  | 0, _, _ => throw .missingFlagEnd
  | fuel + 1, letter, on => do
    match RegexFlag.ofLetter? letter with
    | none => throw .missingFlagEnd
    | some flag =>
      if flag = .locale then throw .localeFlag
      let on := if on.contains flag then on else on ++ [flag]
      if flag.isAlphabet && on.any (fun other => other.isAlphabet && other != flag) then
        throw .incompatibleFlags
      match ← take with
      | none => throw .missingFlagEnd
      | some piece =>
        match piece with
        | .plain c =>
          if c = ')' ∨ c = '-' ∨ c = ':' then return (on, c)
          if (RegexFlag.ofLetter? c).isSome then flagsOn fuel c on
          else throw (if Unicode.isAlpha c then .unknownFlag else .missingFlagEnd)
        | _ => throw .missingFlagEnd

/-- Flags that are turned off, up to a colon. -/
def flagsOff : (fuel : Nat) → Char → List RegexFlag → ReadRegex (List RegexFlag)
  | 0, _, _ => throw .missingColon
  | fuel + 1, letter, off => do
    match RegexFlag.ofLetter? letter with
    | none => throw .missingFlag
    | some flag =>
      if flag.isAlphabet then throw .alphabetOff
      let off := if off.contains flag then off else off ++ [flag]
      match ← take with
      | none => throw .missingColon
      | some piece =>
        match piece with
        | .plain c =>
          if c = ':' then return off
          if (RegexFlag.ofLetter? c).isSome then flagsOff fuel c off
          else throw (if Unicode.isAlpha c then .unknownFlag else .missingColon)
        | _ => throw .missingColon

/-- Flags after a question mark: none if they were meant for the whole
expression, or those that a group turns on and off. -/
def flagChange (first : Char) : ReadRegex (Option (List RegexFlag × List RegexFlag)) := do
  let fuel := (← get).ahead.length + 1
  let (on, terminator) ← if first = '-' then pure ([], '-') else flagsOn fuel first []
  if terminator = ')' then
    modify fun s => { s with on := s.on ++ on.filter fun flag => !s.on.contains flag }
    return none
  if on.any (·.isGlobal) then throw .globalFlagOn
  let off ←
    if terminator = '-' then
      match ← take with
      | none => throw .missingFlag
      | some (.plain c) =>
        if (RegexFlag.ofLetter? c).isSome then flagsOff fuel c []
        else throw (if Unicode.isAlpha c then .unknownFlag else .missingFlag)
      | some _ => throw .missingFlag
    else pure []
  if off.any (·.isGlobal) then throw .globalFlagOff
  if on.any (off.contains ·) then throw .flagOnAndOff
  return some (on, off)

/-! ### Repetitions -/

/-- The largest bound of a repetition; a larger one is refused. -/
def maxBound : Nat := Nat.pow 2 32 - 1

/-- The bound that digits stand for. -/
def bound (digits : List Char) : ReadRegex Nat := do
  match Numeral.readInt (String.ofList digits) with
  | .error fault => throw (.numeral fault)
  | .ok n =>
    if (maxBound : Int) ≤ n then throw .repeatTooLarge
    return n.toNat

/-- The bounds between braces, after the opening brace; none if the brace stands
for itself. -/
def bracedBounds : ReadRegex (Option (Nat × Option Nat)) := do
  if (← peek) = some (.plain '\x7d') then return none
  let here := (← get).ahead
  let low ← takeWhile isDigit here.length
  let comma ← accept ','
  let high ← if comma then takeWhile isDigit here.length else pure low
  if !(← accept '\x7d') then
    setAhead here
    return none
  let least ← if low = [] then pure 0 else bound low
  if high = [] then return some (least, none)
  let greatest ← bound high
  if greatest < least then throw .disorderedRepeat
  return some (least, some greatest)

/-- The bounds of a repetition; none if the character stands for itself. -/
def bounds (c : Char) : ReadRegex (Option (Nat × Option Nat)) := do
  match c with
  | '?' => return some (0, some 1)
  | '*' => return some (0, none)
  | '+' => return some (1, none)
  | _ => bracedBounds

/-- The mark after a repetition that says how much it takes. -/
def greed : ReadRegex Greed := do
  if ← accept '?' then return .lazy
  if ← accept '+' then return .possessive
  return .greedy

/-- Repeat the last part read.  `parts` holds the parts with the last one first. -/
def repeatLast (parts : List Regex) (least : Nat) (greatest : Option Nat) :
    ReadRegex (List Regex) := do
  match parts with
  | [] => throw .nothingToRepeat
  | .anchor _ :: _ => throw .nothingToRepeat
  | .repetition .. :: _ => throw .multipleRepeat
  | part :: before =>
    return .repetition least greatest (← greed) (Regex.repeatable part) :: before

/-! ### Groups -/

/-- Skip a comment up to its closing parenthesis. -/
def skipComment : (fuel : Nat) → ReadRegex Unit
  | 0 => throw .unterminatedComment
  | fuel + 1 => do
    match ← take with
    | none => throw .unterminatedComment
    | some piece => if piece = .plain ')' then return () else skipComment fuel

/-- Skip a comment of a verbose expression up to the end of its line. -/
def skipLine : (fuel : Nat) → ReadRegex Unit
  | 0 => return ()
  | fuel + 1 => do
    match ← take with
    | none => return ()
    | some piece => if piece = .plain '\n' then return () else skipLine fuel

/-- The largest number of a group. -/
def maxGroups : Nat := 2147483647

/-- The number of the group that a condition speaks of. -/
def conditionGroup (text : String) : ReadRegex Nat := do
  if Unicode.isIdentifier text.toList then
    match (← get).names.lookup text with
    | some number => return number
    | none => throw (.unknownGroupName text)
  match Numeral.readInt text with
  | .error _ => throw (.badGroupName text)
  | .ok n =>
    if n < 0 then throw (.badGroupName text)
    let number := n.toNat
    if number = 0 then throw .badGroupNumber
    if maxGroups ≤ number then throw (.invalidGroup number)
    modify fun s =>
      { s with
        conditions := if s.conditions.contains number then s.conditions
          else s.conditions ++ [number] }
    return number

/-- Take a closing parenthesis. -/
def closeParenthesis : ReadRegex Unit := do
  if !(← accept ')') then throw .unterminatedGroup

/-- Whether the whole expression is verbose. -/
def isVerbose : ReadRegex Bool := return (← get).on.contains .verbose

/-- White space of a verbose expression. -/
def isVerboseSpace (c : Char) : Bool := c = ' ' || (9 ≤ c.toNat && c.toNat ≤ 13)

/-- How a group begins. -/
inductive GroupHead where
  | capturing (name : Option String)
  | plain
  | atomic
  | scoped (on off : List RegexFlag)
  | look (ahead negated : Bool)
  | reference (regex : Regex)
  | condition (number : Nat)
  | comment
  | globalFlags

/-- The head of a group that continues with a `P`. -/
def namedHead : ReadRegex GroupHead := do
  if ← accept '<' then
    let text ← name '>' "group name"
    checkGroupName text
    return .capturing (some text)
  if ← accept '=' then
    let text ← name ')' "group name"
    checkGroupName text
    match (← get).names.lookup text with
    | none => throw (.unknownGroupName text)
    | some number => return .reference (← referenceTo number)
  match ← take with
  | none => throw .unexpectedEnd
  | some piece => throw (.unknownExtension ("?P" ++ piece.text))

/-- The head of a lookbehind. -/
def lookbehindHead : ReadRegex GroupHead := do
  match ← take with
  | none => throw .unexpectedEnd
  | some (.plain '=') => return .look false false
  | some (.plain '!') => return .look false true
  | some piece => throw (.unknownExtension ("?<" ++ piece.text))

/-- The head of a group, after its opening parenthesis. -/
def groupHead : ReadRegex GroupHead := do
  if !(← accept '?') then return .capturing none
  match ← take with
  | none => throw .unexpectedEnd
  | some (.plain 'P') => namedHead
  | some (.plain ':') => return .plain
  | some (.plain '#') =>
    skipComment ((← get).ahead.length + 1)
    return .comment
  | some (.plain '=') => return .look true false
  | some (.plain '!') => return .look true true
  | some (.plain '<') => lookbehindHead
  | some (.plain '(') =>
    let text ← name ')' "group name"
    let number ← conditionGroup text
    checkLookbehind number
    return .condition number
  | some (.plain '>') => return .atomic
  | some piece =>
    match piece with
    | .plain c =>
      if c = '-' ∨ (RegexFlag.ofLetter? c).isSome then
        match ← flagChange c with
        | none => return .globalFlags
        | some (on, off) => return .scoped on off
      else throw (.unknownExtension ("?" ++ piece.text))
    | _ => throw (.unknownExtension ("?" ++ piece.text))

/-! ### Expressions -/

/-- Parts read so far, with the last one first, in order. -/
def ofParts (parts : List Regex) : List Regex := Regex.unpack parts.reverse

mutual

/-- Alternatives, with fuel.  `nested` says that a group is around them. -/
def alternatives : (fuel : Nat) → (verbose nested : Bool) → List (List Regex) →
    ReadRegex (List Regex)
  | 0, _, _, _ => throw .unexpectedEnd
  | fuel + 1, verbose, nested, branches => do
    let branch ← sequence fuel verbose (!nested && branches.isEmpty) []
    let branches := branch :: branches
    if ← accept '|' then
      let whole ← isVerbose
      alternatives fuel (if nested then verbose else whole) nested branches
    else return Regex.choice branches.reverse

/-- A sequence of parts, with fuel.  `first` says that flags for the whole
expression may still be turned on. -/
def sequence : (fuel : Nat) → (verbose first : Bool) → List Regex → ReadRegex (List Regex)
  | 0, _, _, _ => throw .unexpectedEnd
  | fuel + 1, verbose, first, parts => do
    match ← peek with
    | none => return ofParts parts
    | some (.plain '|') | some (.plain ')') => return ofParts parts
    | some piece =>
      let _ ← take
      match piece with
      | .dangling => throw .danglingBackslash
      | .escaped c =>
        let part ← escape c
        sequence fuel verbose first (part :: parts)
      | .plain c =>
        if verbose && isVerboseSpace c then sequence fuel verbose first parts
        else if verbose && c = '#' then
          skipLine ((← get).ahead.length + 1)
          sequence fuel verbose first parts
        else if c = '[' then
          let part ← set
          sequence fuel verbose first (part :: parts)
        else if c = '*' ∨ c = '+' ∨ c = '?' ∨ c = '\x7b' then
          match ← bounds c with
          | none => sequence fuel verbose first (.literal false c.toNat :: parts)
          | some (least, greatest) =>
            let parts ← repeatLast parts least greatest
            sequence fuel verbose first parts
        else if c = '.' then sequence fuel verbose first (.any :: parts)
        else if c = '^' then sequence fuel verbose first (.anchor .lineStart :: parts)
        else if c = '$' then sequence fuel verbose first (.anchor .lineEnd :: parts)
        else if c = '(' then
          match ← groupHead with
          | .comment => sequence fuel verbose first parts
          | .globalFlags =>
            if !first || !parts.isEmpty then throw .lateFlags
            let whole ← isVerbose
            sequence fuel whole first parts
          | .reference regex => sequence fuel verbose first (regex :: parts)
          | head =>
            let part ← groupBody fuel verbose head
            sequence fuel verbose first (part :: parts)
        else sequence fuel verbose first (.literal false c.toNat :: parts)

/-- The rest of a group after its head, with fuel. -/
def groupBody : (fuel : Nat) → (verbose : Bool) → GroupHead → ReadRegex Regex
  | 0, _, _ => throw .unexpectedEnd
  | fuel + 1, verbose, head => do
    match head with
    | .capturing groupName =>
      let number ← openGroup groupName
      let body ← alternatives fuel verbose true []
      closeParenthesis
      closeGroup number body
      return .group number body
    | .scoped on off =>
      let inner := (verbose || on.contains .verbose) && !off.contains .verbose
      let body ← alternatives fuel inner true []
      closeParenthesis
      return .scoped on off body
    | .atomic =>
      let body ← alternatives fuel verbose true []
      closeParenthesis
      return .atomic body
    | .look ahead negated =>
      let outer := (← get).lookbehind
      let count ← groupCount
      if !ahead && outer.isNone then modify fun s => { s with lookbehind := some count }
      let body ← alternatives fuel verbose true []
      if !ahead && outer.isNone then modify fun s => { s with lookbehind := none }
      closeParenthesis
      return .look ahead negated body
    | .condition number =>
      let whenSet ← sequence fuel verbose false []
      let whenUnset ←
        if ← accept '|' then do
          let other ← sequence fuel verbose false []
          if (← peek) = some (.plain '|') then throw .tooManyBranches
          pure other
        else pure []
      closeParenthesis
      return .conditional number whenSet whenUnset
    | _ =>
      let body ← alternatives fuel verbose true []
      closeParenthesis
      return .scoped [] [] body

end

end ReadRegex

/-! ## Whole expressions -/

namespace Regex

/-- An expression as it is read from its pieces, with the flags that it turns on as
a whole. -/
def readWhole (pieces : List RegexPiece) : ReadRegex (List Regex × List RegexFlag) := do
  ReadRegex.setAhead pieces
  let parts ← ReadRegex.alternatives (3 * pieces.length + 3) false false []
  let on := (← get).on
  if on.contains .ascii && on.contains .unicode then throw .asciiAndUnicode
  if (← ReadRegex.peek).isSome then throw .unbalancedParenthesis
  let count ← ReadRegex.groupCount
  match (← get).conditions.find? (count ≤ ·) with
  | some number => throw (.invalidGroup number)
  | none => return (parts, on)

/-- Read an expression and make it ready to be matched. -/
def read (source : String) : Except RegexFault Program := do
  let pieces := RegexPiece.ofChars source.toList
  let ((parts, on), _) ← (readWhole pieces).run ⟨[], [], [], none, [], []⟩
  program on parts

end Regex

end Rune
