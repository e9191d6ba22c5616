import Rune.Pattern.Program

/-!
# Rune - matching regular expressions

A match is found by trying.  Each instruction is told what follows it; when the
rest cannot be matched, another way is tried.  What has been tried leaves a trail:
the place where matching went on last, and the marks that were set.

Giving a way up forgets the marks that it added.  A mark that was there before
and was only moved is put back inside a repetition, and stays moved elsewhere.
The place is not put back either, and what follows a possessive repetition goes
on from it, also after a repetition that failed halfway.

Main results:

- Type {lit}`Trail` is what trying leaves behind.
- Definition {lit}`Instruction.attempt` tries an instruction at a place.
- Definition {lit}`Program.matchFrom` tries a program at a place.
-/

namespace Rune

/-! ## Trails -/

/-- The marks that were set, by number.  Numbers in between may be without a place. -/
abbrev Marks := List (Option Nat)

namespace Marks

/-- Set a mark at a place. -/
def put (marks : Marks) (index place : Nat) : Marks :=
  if index < marks.length then marks.set index (some place)
  else marks ++ List.replicate (index - marks.length) none ++ [some place]

/-- The start and the end of a group, if both are set. -/
def ends? (marks : Marks) (group : Nat) : Option (Nat × Nat) :=
  match marks[Instruction.startMark group]?, marks[Instruction.endMark group]? with
  | some (some first), some (some last) => some (first, last)
  | _, _ => none

/-- The span of a group that has matched. -/
def span? (marks : Marks) (group : Nat) : Option (Nat × Nat) :=
  (marks.ends? group).filter fun (first, last) => first ≤ last

/-- The marks after a way was given up, from the marks before it. -/
def revert (marks : Marks) (repeating : Bool) (saved : Marks) : Marks :=
  if repeating then saved else marks.take saved.length

end Marks

/-- What trying leaves behind: the place where matching went on last, and the
marks. -/
structure Trail where
  place : Nat
  marks : Marks

/-- Trying something: whether it matches, with the trail that it leaves. -/
abbrev Attempt := StateM Trail Bool

namespace Attempt

/-- Fail at once. -/
def fail : Attempt := pure false

/-- Go on at a place. -/
def goto (place : Nat) : StateM Trail Unit := modify fun t => { t with place := place }

/-- Give up what was tried since the marks were saved. -/
def revert (repeating : Bool) (saved : Marks) : StateM Trail Unit :=
  modify fun t => { t with marks := t.marks.revert repeating saved }

/-- Match when all is read: the trail ends at the place reached. -/
def done (place : Nat) : Attempt := do
  goto place
  return true

end Attempt

/-- What follows an instruction: the character that must come next, if there is
one, and how matching goes on at a place. -/
structure Sequel where
  next : Option Nat
  run : Nat → Attempt

namespace Sequel

/-- Nothing follows. -/
def finish : Sequel := ⟨none, Attempt.done⟩

/-- Whether the text at a place has the character that must come next. -/
def isPossible (sequel : Sequel) (text : Array Char) (place : Nat) : Bool :=
  sequel.next.all fun code => text[place]?.any (·.toNat = code)

end Sequel

/-! ## Places -/

/-- Whether a place is where an anchor wants it. -/
def Anchor.holds (text : Array Char) (multiline ascii : Bool) (place : Nat) : Anchor → Bool
  | .textStart => place = 0
  | .textEnd => place = text.size
  | .lineStart => place = 0 || (multiline && text[place - 1]? == some '\n')
  | .lineEnd =>
    place = text.size
      || (text[place]? == some '\n' && (multiline || place + 1 = text.size))
  | .boundary => 0 < text.size && isBoundary
  | .notBoundary => 0 < text.size && !isBoundary
where
  /-- Whether exactly one side of the place is part of a word. -/
  isBoundary : Bool :=
    let isWord (c : Char) := CharClass.contains ascii c .word
    let before := 0 < place && text[place - 1]?.any isWord
    let after := text[place]?.any isWord
    before != after

/-- Whether the text at a place repeats a number of characters from further back. -/
def repeatsSpan (text : Array Char) (fold : Fold) (first count place : Nat) : Bool :=
  (List.range count).all fun i =>
    match text[first + i]?, text[place + i]? with
    | some c, some d => fold.lower c = fold.lower d
    | _, _ => false

/-- How many characters from a place on pass a test, as far as `limit`. -/
def CharTest.count (test : CharTest) (text : Array Char) : (limit place : Nat) → Nat
  | 0, _ => 0
  | limit + 1, place =>
    match text[place]? with
    | some c => if test.accepts c then test.count text limit (place + 1) + 1 else 0
    | none => 0

/-! ## Repetitions of one character -/

namespace Attempt

/-- Count the characters that pass a test, up to a bound.  Counting members of a
folded set moves the place. -/
def countChars (text : Array Char) (test : CharTest) (greatest : Option Nat) (place : Nat) :
    StateM Trail Nat := do
  let left := text.size - place
  let count := test.count text (min left (greatest.getD left)) place
  goto (if test.isFoldedSet then place + count else place)
  return count

/-- Go on after `least + extra` characters, then after one fewer each time. -/
def giveBack (text : Array Char) (repeating : Bool) (saved : Marks) (sequel : Sequel)
    (place : Nat) : (extra : Nat) → Attempt
  | 0 => tryAt place
  | extra + 1 => do
    if ← tryAt (place + extra + 1) then return true
    giveBack text repeating saved sequel place extra
where
  /-- Go on at a place, if the text allows it. -/
  tryAt (place : Nat) : Attempt := do
    if !sequel.isPossible text place then return false
    goto place
    if ← sequel.run place then return true
    revert repeating saved
    return false

/-- Go on after `count` characters, then after one more each time. -/
def takeMore (text : Array Char) (repeating : Bool) (saved : Marks) (test : CharTest)
    (greatest : Option Nat) (sequel : Sequel) : (fuel count place : Nat) → Attempt
  | 0, _, _ => fail
  | fuel + 1, count, place => do
    if greatest.any (· < count) then return false
    goto place
    if ← sequel.run place then return true
    revert repeating saved
    if (← countChars text test (some 1) place) = 0 then return false
    takeMore text repeating saved test greatest sequel fuel (count + 1) (place + 1)

/-- Repeat one character. -/
def repeatChar (text : Array Char) (repeating : Bool) (least : Nat) (greatest : Option Nat)
    (greed : Greed) (test : CharTest) (sequel : Sequel) (place : Nat) : Attempt := do
  if text.size < place + least then return false
  match greed with
  | .greedy =>
    let count ← countChars text test greatest place
    if count < least then return false
    let saved := (← get).marks
    giveBack text repeating saved sequel (place + least) (count - least)
  | .lazy =>
    goto place
    if 0 < least then
      if (← countChars text test (some least) place) < least then return false
    let saved := (← get).marks
    takeMore text repeating saved test greatest sequel (text.size + 2 - (place + least)) least
      (place + least)
  | .possessive =>
    let count ← countChars text test greatest place
    if count < least then return false
    sequel.run (place + count)

/-! ## Repetitions of instructions -/

/-- Whether one more repetition may be tried: the bound is not reached, and the
last one did not stand still. -/
def mayRepeat (greatest : Option Nat) (count : Nat) (last : Option Nat) (place : Nat) : Bool :=
  greatest.all (count < ·) && last != some place

/-- Repeat as often as possible, then less often. -/
def repeatGreedy (body : Sequel → Nat → Attempt) (sequel : Sequel) (least : Nat)
    (greatest : Option Nat) : (fuel count : Nat) → (last : Option Nat) → Nat → Attempt
  | 0, _, _, _ => fail
  | fuel + 1, count, last, place => do
    goto place
    if count < least then
      if ← body ⟨none, repeatGreedy body sequel least greatest fuel (count + 1) last⟩ place then
        return true
      goto place
      return false
    if mayRepeat greatest count last place then
      let saved := (← get).marks
      let again := repeatGreedy body sequel least greatest fuel (count + 1) (some place)
      if ← body ⟨none, again⟩ place then return true
      revert true saved
      goto place
    if ← sequel.run place then return true
    goto place
    return false

/-- Repeat as seldom as possible, then more often.  `repeating` says that a
repetition is around this one. -/
def repeatLazy (repeating : Bool) (body : Sequel → Nat → Attempt) (sequel : Sequel)
    (least : Nat) (greatest : Option Nat) :
    (fuel count : Nat) → (last : Option Nat) → Nat → Attempt
  | 0, _, _, _ => fail
  | fuel + 1, count, last, place => do
    goto place
    if count < least then
      if ← body ⟨none, repeatLazy repeating body sequel least greatest fuel (count + 1) last⟩
          place then
        return true
      goto place
      return false
    let saved := (← get).marks
    if ← sequel.run place then return true
    revert repeating saved
    goto place
    if !mayRepeat greatest count last place then return false
    let again := repeatLazy repeating body sequel least greatest fuel (count + 1) (some place)
    if ← body ⟨none, again⟩ place then return true
    goto place
    return false

/-- Repeat a number of times, each from where the trail has come to. -/
def repeatExactly (body : Nat → Attempt) : (count : Nat) → Attempt
  | 0 => return true
  | count + 1 => do
    if ← body (← get).place then repeatExactly body count else return false

/-- Repeat as often as possible, each time from where the trail has come to, which
is also where a failed repetition leaves it. -/
def repeatOn (body : Nat → Attempt) (greatest : Option Nat) :
    (fuel count : Nat) → (last : Option Nat) → StateM Trail Unit
  | 0, _, _ => return ()
  | fuel + 1, count, last => do
    let ⟨place, saved⟩ ← get
    if mayRepeat greatest count last place then
      if ← body place then repeatOn body greatest fuel (count + 1) (some place)
      else revert true saved

/-- Repeat as often as possible and keep to it. -/
def repeatPossessive (body : Nat → Attempt) (sequel : Sequel) (least : Nat)
    (greatest : Option Nat) (fuel place : Nat) : Attempt := do
  goto place
  if ← repeatExactly body least then
    repeatOn body greatest fuel least none
    sequel.run (← get).place
  else
    goto place
    return false

end Attempt

/-! ## Instructions -/

namespace Instruction

/-- The character that instructions begin with, if they begin with one that is
taken as it is; `after` is the character that follows them. -/
def nextCode (after : Option Nat) : List Instruction → Option Nat
  | [] => after
  | .take (.code false code) :: _ => some code
  | _ :: _ => none

/-- Whether a branch need not be given up before it is tried. -/
def mayStart (text : Array Char) (place : Nat) : List Instruction → Bool
  | .take test :: _ => !test.isPlain || text[place]?.any test.accepts
  | _ => true

/-- More repetitions than a match can have without standing still. -/
def repetitionFuel (text : Array Char) (least : Nat) : Nat :=
  least + (text.size + 2) * (text.size + 2)

open Attempt

mutual

/-- Try an instruction at a place.  `repeating` says that a repetition is around
it. -/
def attempt (text : Array Char) (repeating : Bool) :
    Instruction → Sequel → (place : Nat) → Attempt
  | .take test, sequel, place =>
    if text[place]?.any test.accepts then sequel.run (place + 1) else fail
  | .mark index, sequel, place => do
    modify fun t => { t with marks := t.marks.put index place }
    sequel.run place
  | .anchor a multiline ascii, sequel, place =>
    if a.holds text multiline ascii place then sequel.run place else fail
  | .branch branches, sequel, place => do
    let saved := (← get).marks
    attemptAny text repeating branches ⟨none, sequel.run⟩ saved place
  | .repeatChar least greatest greed test, sequel, place =>
    Attempt.repeatChar text repeating least greatest greed test sequel place
  | .repeatAll least greatest greed body, sequel, place =>
    let fuel := repetitionFuel text least
    match greed with
    | .greedy =>
      let once := fun next place => attemptAll text true body next place
      repeatGreedy once sequel least greatest fuel 0 none place
    | .lazy =>
      let once := fun next place => attemptAll text true body next place
      repeatLazy repeating once sequel least greatest fuel 0 none place
    | .possessive =>
      let once := fun place => attemptAll text repeating body .finish place
      repeatPossessive once sequel least greatest fuel place
  | .atomic body, sequel, place => do
    goto place
    if ← attemptAll text repeating body .finish place then sequel.run (← get).place
    else
      goto place
      return false
  | .look back negated body, sequel, place => do
    if place < back then
      if negated then sequel.run place else return false
    else
      let saved := (← get).marks
      goto (place - back)
      let found ← attemptAll text repeating body .finish (place - back)
      if found = negated then return false
      if negated then revert repeating saved
      sequel.run place
  | .reference group fold, sequel, place => do
    match (← get).marks.span? group with
    | some (first, last) =>
      if repeatsSpan text fold first (last - first) place then
        sequel.run (place + (last - first))
      else return false
    | none => return false
  | .conditional group whenSet whenUnset, sequel, place => do
    if ((← get).marks.span? group).isSome then
      let next := if whenUnset.isEmpty then sequel.next else none
      attemptAll text repeating whenSet ⟨next, sequel.run⟩ place
    else attemptAll text repeating whenUnset sequel place

/-- Try instructions one after another. -/
def attemptAll (text : Array Char) (repeating : Bool) :
    List Instruction → Sequel → (place : Nat) → Attempt
  | [], sequel, place => sequel.run place
  | step :: steps, sequel, place =>
    attempt text repeating step
      ⟨nextCode sequel.next steps, fun place => attemptAll text repeating steps sequel place⟩
      place

/-- Try branches until one leads to a match.  One that begins with a character or
a set is given up at once if the text has no such character. -/
def attemptAny (text : Array Char) (repeating : Bool) :
    List (List Instruction) → Sequel → (saved : Marks) → (place : Nat) → Attempt
  | [], _, _, _ => fail
  | first :: others, sequel, saved, place => do
    if mayStart text place first then
      goto place
      if ← attemptAll text repeating first sequel place then return true
      revert repeating saved
    attemptAny text repeating others sequel saved place

end

end Instruction

namespace Program

/-- Try a program at a place; the trail of a match holds the marks of its groups. -/
def matchFrom (program : Program) (text : Array Char) (place : Nat) : Option Trail :=
  let (found, trail) :=
    (Instruction.attemptAll text false program.code .finish place).run ⟨place, []⟩
  if found then some trail else none

end Program

end Rune
