/-!
# Rune - regular expressions as trees

Raw strings hold regular expressions.  An expression is a list of parts, one
after another.  The tree keeps what matching needs: groups by number,
repetitions with their bounds, and scopes in which flags are turned on and off.

Main results:

- Type {lit}`Regex` is a part of an expression; {lit}`Regex.totalWidth` bounds the
  number of characters that parts can take.
- Definition {lit}`Flags.apply` changes the flags in force.
- Definition {lit}`Regex.choice` joins alternatives: what they all begin with is
  read once, and alternatives of one character each become a set.
-/

namespace Rune

/-! ## Flags -/

/-- A flag of a regular expression. -/
inductive RegexFlag where
  | template | ignoreCase | locale | multiline | dotAll | unicode | verbose | ascii
  deriving DecidableEq

namespace RegexFlag

/-- The letter that stands for a flag inside an expression. -/
def ofLetter? : Char → Option RegexFlag
  | 'i' => some .ignoreCase
  | 'L' => some .locale
  | 'm' => some .multiline
  | 's' => some .dotAll
  | 'x' => some .verbose
  | 'a' => some .ascii
  | 't' => some .template
  | 'u' => some .unicode
  | _ => none

/-- The flags that choose a kind of character classes; only one can be on. -/
def isAlphabet : RegexFlag → Bool
  | .ascii | .locale | .unicode => true
  | _ => false

/-- The flags that an expression turns on as a whole or not at all. -/
def isGlobal : RegexFlag → Bool
  | .template => true
  | _ => false

end RegexFlag

/-- The flags in force at a place of an expression. -/
structure Flags where
  ignoreCase : Bool
  multiline : Bool
  dotAll : Bool
  ascii : Bool
  template : Bool
  deriving DecidableEq

namespace Flags

/-- No flag is on. -/
def none : Flags := ⟨false, false, false, false, false⟩

/-- Set one flag on or off. -/
def set (flags : Flags) (value : Bool) : RegexFlag → Flags
  | .ignoreCase => { flags with ignoreCase := value }
  | .multiline => { flags with multiline := value }
  | .dotAll => { flags with dotAll := value }
  | .ascii => { flags with ascii := value }
  | .unicode => { flags with ascii := if value then false else flags.ascii }
  | .template => { flags with template := value }
  | .locale | .verbose => flags

/-- Turn flags on, then others off. -/
def apply (flags : Flags) (on off : List RegexFlag) : Flags :=
  off.foldl (set · false) (on.foldl (set · true) flags)

end Flags

/-! ## Parts -/

/-- A class of characters that an escape names. -/
inductive CharClass where
  | digit | space | word
  deriving DecidableEq

/-- A member of a set of characters.  Characters are code points, which may be
no characters at all. -/
inductive SetItem where
  | code (code : Nat)
  | range (low high : Nat)
  | charClass (kind : CharClass) (negated : Bool)
  deriving DecidableEq

/-- A place that takes no character. -/
inductive Anchor where
  | lineStart | lineEnd | textStart | textEnd | boundary | notBoundary
  deriving DecidableEq

/-- How many repetitions are tried first, and whether fewer or more are tried
afterwards. -/
inductive Greed where
  | greedy | lazy | possessive
  deriving DecidableEq

/-- The least and the greatest number of characters that a part can take. -/
structure Width where
  least : Nat
  greatest : Nat
  deriving DecidableEq

/-- A part of a regular expression. -/
inductive Regex where
  /-- One character, or any character but that one. -/
  | literal (negated : Bool) (code : Nat)
  | any
  | set (negated : Bool) (items : List SetItem)
  | anchor (anchor : Anchor)
  | alternation (branches : List (List Regex))
  | repetition (least : Nat) (greatest : Option Nat) (greed : Greed) (body : List Regex)
  | group (number : Nat) (body : List Regex)
  | scoped (on off : List RegexFlag) (body : List Regex)
  | atomic (body : List Regex)
  | look (ahead negated : Bool) (body : List Regex)
  | reference (number : Nat) (width : Width)
  | conditional (number : Nat) (whenSet whenUnset : List Regex)

/-! ## Widths -/

namespace Width

/-- The number that stands for a width without bound. -/
def limit : Nat := Nat.pow 2 32 - 1

/-- No character at all. -/
def zero : Width := ⟨0, 0⟩

/-- One character. -/
def one : Width := ⟨1, 1⟩

/-- A width that counts nothing beyond the limit; the least number always stays
below it. -/
def clamp (w : Width) : Width := ⟨min w.least (limit - 1), min w.greatest limit⟩

/-- One part after another. -/
def add (a b : Width) : Width := ⟨a.least + b.least, a.greatest + b.greatest⟩

/-- Either of two parts. -/
def union (a b : Width) : Width := ⟨min a.least b.least, max a.greatest b.greatest⟩

/-- A part repeated. -/
def repeated (w : Width) (least : Nat) (greatest : Option Nat) : Width :=
  ⟨w.least * least, w.greatest * greatest.getD limit⟩

end Width

namespace Regex

mutual

/-- How many characters a part can take. -/
def width : Regex → Width
  | .literal .. | .any | .set .. => .one
  | .anchor _ | .look .. => .zero
  | .alternation branches => widthAny branches
  | .repetition least greatest _ body => (widthAll body).clamp.repeated least greatest
  | .group _ body | .scoped _ _ body | .atomic body => (widthAll body).clamp
  | .reference _ w => w
  | .conditional _ whenSet whenUnset =>
    (widthAll whenSet).clamp.union (widthAll whenUnset).clamp

/-- How many characters parts take one after another. -/
def widthAll : List Regex → Width
  | [] => .zero
  | part :: parts => (width part).add (widthAll parts)

/-- How many characters one of several branches takes. -/
def widthAny : List (List Regex) → Width
  | [] => ⟨Width.limit - 1, 0⟩
  | branch :: branches => (widthAll branch).clamp.union (widthAny branches)

end

/-- How many characters parts take one after another, as far as that is counted. -/
def totalWidth (parts : List Regex) : Width := (widthAll parts).clamp

/-! ## Alternatives -/

/-- Whether two parts are the same one character, set, place or reference.  Parts
that have parts inside are never the same. -/
def isSame : Regex → Regex → Bool
  | .literal m a, .literal n b => m = n && a = b
  | .any, .any => true
  | .set m a, .set n b => m = n && a = b
  | .anchor a, .anchor b => a = b
  | .reference a _, .reference b _ => a = b
  | _, _ => false

/-- Whether a branch begins with a part. -/
def beginsWith (part : Regex) : List Regex → Bool
  | [] => false
  | first :: _ => isSame part first

/-- What all branches begin with, and what is left of each branch. -/
def factor : (first : List Regex) → (others : List (List Regex)) →
    List Regex × List (List Regex)
  | [], others => ([], [] :: others)
  | part :: rest, others =>
    if others.all (beginsWith part) then
      let (common, branches) := factor rest (others.map List.tail)
      (part :: common, branches)
    else ([], (part :: rest) :: others)

/-- The characters that a branch stands for, if it is one character or one set. -/
def members? : List Regex → Option (List SetItem)
  | [.literal false code] => some [.code code]
  | [.set false items] => some items
  | _ => none

/-- One of several branches. -/
def choice : List (List Regex) → List Regex
  | [] => []
  | [only] => only
  | first :: others =>
    let (common, branches) := factor first others
    match branches.mapM members? with
    | some items => common ++ [.set false items.flatten.eraseDups]
    | none => common ++ [.alternation branches]

/-- Parts with the parts of plain groups in their place. -/
def unpack (parts : List Regex) : List Regex :=
  parts.flatMap fun
    | .scoped [] [] body => body
    | part => [part]

/-- The parts that a repetition of a part repeats. -/
def repeatable (part : Regex) : List Regex := unpack [part]

end Regex

end Rune
