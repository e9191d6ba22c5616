import Rune.Pattern.CharTest
import Rune.Pattern.Fault

/-!
# Rune - programs of regular expressions

Before an expression is matched, its flags are worked into its parts: what is
left is a program, a list of instructions.  The start and the end of a group
become marks, and a repetition of one character is an instruction of its own.  A
program also knows where a match can begin.

Main results:

- Type {lit}`Instruction` is a step of a program.
- Definition {lit}`Regex.program` turns an expression into a program, or says what
  makes it unfit.
-/

namespace Rune

/-! ## Instructions -/

/-- A step of a program. -/
inductive Instruction where
  | take (test : CharTest)
  /-- Remember the place under a number: an even one where a group starts, the
  next one where it ends. -/
  | mark (index : Nat)
  | anchor (anchor : Anchor) (multiline ascii : Bool)
  | branch (branches : List (List Instruction))
  /-- Repeat one character. -/
  | repeatChar (least : Nat) (greatest : Option Nat) (greed : Greed) (test : CharTest)
  /-- Repeat instructions. -/
  | repeatAll (least : Nat) (greatest : Option Nat) (greed : Greed) (body : List Instruction)
  | atomic (body : List Instruction)
  /-- Look from some characters further back. -/
  | look (back : Nat) (negated : Bool) (body : List Instruction)
  | reference (group : Nat) (fold : Fold)
  | conditional (group : Nat) (whenSet whenUnset : List Instruction)

namespace Instruction

/-- The mark at the start of a group. -/
def startMark (group : Nat) : Nat := 2 * (group - 1)

/-- The mark at the end of a group. -/
def endMark (group : Nat) : Nat := 2 * (group - 1) + 1

/-- How far a program can look back. -/
def maxBack : Nat := Nat.pow 2 31 - 1

mutual

/-- Whether an instruction looks back no further than a program can. -/
def looksBackInReach : Instruction → Bool
  | .branch branches => allBranchesInReach branches
  | .repeatAll _ _ _ body | .atomic body => allInReach body
  | .look back _ body => back ≤ maxBack && allInReach body
  | .conditional _ whenSet whenUnset => allInReach whenSet && allInReach whenUnset
  | _ => true

/-- Whether instructions look back no further than a program can. -/
def allInReach : List Instruction → Bool
  | [] => true
  | step :: steps => looksBackInReach step && allInReach steps

/-- Whether branches look back no further than a program can. -/
def allBranchesInReach : List (List Instruction) → Bool
  | [] => true
  | first :: others => allInReach first && allBranchesInReach others

end

end Instruction

/-! ## From parts to instructions -/

namespace Regex

/-- The test of parts that take exactly one character, whatever flags are around
it. -/
def charTest? (flags : Flags) : List Regex → Option CharTest
  | [.literal negated code] => some (.ofLiteral flags negated code)
  | [.any] => some (if flags.dotAll then .any else .notLineFeed)
  | [.set negated items] => some (.ofSet flags negated items)
  | [.scoped on off body] => charTest? (flags.apply on off) body
  | _ => none

mutual

/-- The instructions of a part. -/
def code (flags : Flags) : Regex → Except RegexFault (List Instruction)
  | .literal negated n => .ok [.take (.ofLiteral flags negated n)]
  | .any => .ok [.take (if flags.dotAll then .any else .notLineFeed)]
  | .set negated items => .ok [.take (.ofSet flags negated items)]
  | .anchor a => .ok [.anchor a flags.multiline flags.ascii]
  | .alternation branches => do return [.branch (← codeBranches flags branches)]
  | .repetition least greatest greed body => do
    if flags.template then throw (.templateRepeat greed)
    match charTest? flags body with
    | some test => return [.repeatChar least greatest greed test]
    | none => return [.repeatAll least greatest greed (← codeAll flags body)]
  | .group number body => do
    let inner ← codeAll flags body
    return .mark (Instruction.startMark number) :: inner
      ++ [.mark (Instruction.endMark number)]
  | .scoped on off body => codeAll (flags.apply on off) body
  | .atomic body => do return [.atomic (← codeAll flags body)]
  | .look ahead negated body => do
    let w := totalWidth body
    if !ahead && w.least != w.greatest then throw .variableLookbehind
    return [.look (if ahead then 0 else w.least) negated (← codeAll flags body)]
  | .reference number _ => .ok [.reference number flags.fold]
  | .conditional number whenSet whenUnset => do
    let first ← codeAll flags whenSet
    return [.conditional number first (← codeAll flags whenUnset)]

/-- The instructions of parts one after another. -/
def codeAll (flags : Flags) : List Regex → Except RegexFault (List Instruction)
  | [] => .ok []
  | part :: parts => do
    let first ← code flags part
    return first ++ (← codeAll flags parts)

/-- The instructions of branches. -/
def codeBranches (flags : Flags) :
    List (List Regex) → Except RegexFault (List (List Instruction))
  | [] => .ok []
  | branch :: branches => do
    let first ← codeAll flags branch
    return first :: (← codeBranches flags branches)

end

end Regex

/-! ## Where a match can begin -/

/-- Where a match can begin. -/
inductive Opening where
  /-- At a character that an expression requires; nothing else matches there. -/
  | character
  /-- At a character that passes a test. -/
  | test (test : CharTest)
  /-- Wherever enough characters follow. -/
  | anywhere

namespace Opening

mutual

/-- Whether a part begins with a character that is taken as it is; none if it
takes no character, so that the next part decides. -/
def startsPlain? (flags : Flags) : Regex → Option Bool
  | .literal false n => some (!flags.fold.isCased n)
  | .group _ body => allStartPlain? flags body
  | .scoped on off body => allStartPlain? (flags.apply on off) body
  | _ => some false

/-- Whether parts begin with a character that is taken as it is; none if there is
no part that takes a character. -/
def allStartPlain? (flags : Flags) : List Regex → Option Bool
  | [] => none
  | part :: parts =>
    match startsPlain? flags part with
    | some found => some found
    | none => allStartPlain? flags parts

end

/-- The members of a set whose first character is taken as it is: the characters
that branches begin with, or the set itself. -/
def setStart? (flags : Flags) : Regex → Option (Bool × List SetItem)
  | .alternation branches =>
    let first : List Regex → Option SetItem
      | .literal false n :: _ => if flags.fold.isCased n then none else some (.code n)
      | _ => none
    (branches.mapM first).map fun items => (false, items)
  | .set negated items =>
    let isPlain : SetItem → Bool
      | .code n => !flags.fold.isCased n
      | .range low high => !flags.fold.isCasedItem (.range low high)
      | .charClass .. => true
    if !flags.ignoreCase || items.all isPlain then some (negated, items) else none
  | _ => none

mutual

/-- The set that a part begins with, if it begins with one, under the flags of
that part. -/
def setOf? (flags : Flags) : Regex → Option (Bool × List SetItem)
  | .group _ body => firstSet? flags body
  | .scoped on off body => firstSet? (flags.apply on off) body
  | part => setStart? flags part

/-- The set that parts begin with. -/
def firstSet? (flags : Flags) : List Regex → Option (Bool × List SetItem)
  | [] => none
  | part :: _ => setOf? flags part

end

/-- Where a match of parts can begin.  The set that parts begin with is read under
the flags of the whole expression, whatever flags are turned on around it. -/
def ofParts (flags : Flags) (parts : List Regex) : Opening :=
  if (Regex.totalWidth parts).least = 0 then .anywhere
  else if allStartPlain? flags parts = some true then .character
  else
    match firstSet? flags parts with
    | some (negated, items) => .test (.set negated flags.ascii items .exact)
    | none => .anywhere

end Opening

/-! ## Programs -/

/-- A regular expression that is ready to be matched: the flags that it turns on as
a whole, its instructions, the least number of characters of a match, and where
one can begin. -/
structure Program where
  on : List RegexFlag
  code : List Instruction
  least : Nat
  opening : Opening

/-- The program of an expression and of the flags that it turns on as a whole. -/
def Regex.program (on : List RegexFlag) (parts : List Regex) : Except RegexFault Program := do
  let flags := Flags.none.apply on []
  let code ← Regex.codeAll flags parts
  if !Instruction.allInReach code then throw .lookbehindTooFar
  return ⟨on, code, (Regex.totalWidth parts).least, Opening.ofParts flags parts⟩

end Rune
