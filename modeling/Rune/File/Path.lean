import Rune.Failure

/-!
# Rune - file paths

Paths use the slash.  A canonical path begins at the root and holds neither an
empty segment nor a step to the same or to the parent directory.

Main results:

- Structure {lit}`FilePath.Standpoint` tells where paths are looked at from: the home
  directories of users and the working directory.
- Definition {lit}`FilePath.canonical` brings a path into canonical form, relative
  to a base directory.
- Definition {lit}`FilePath.locate` does so for a path that can name a file.
- Definitions {lit}`FilePath.directory`, {lit}`FilePath.base` and {lit}`FilePath.stem`
  give the parts of a path.
-/

namespace Rune.FilePath

/-- Split characters at every slash. -/
def split : List Char → List (List Char)
  | [] => [[]]
  | c :: rest =>
    if c = '/' then [] :: split rest
    else
      match split rest with
      | [] => [[c]]
      | segment :: segments => (c :: segment) :: segments

/-- Join segments, each after a slash. -/
def join (segments : List (List Char)) : List Char :=
  segments.flatMap ('/' :: ·)

/-- Walk along a segment: `trail` holds the segments passed so far, last first.
A step to the parent of the root stays at the root. -/
def walk (trail : List (List Char)) (segment : List Char) : List (List Char) :=
  if segment = [] ∨ segment = ['.'] then trail
  else if segment = ['.', '.'] then trail.tail
  else segment :: trail

/-- The canonical form of a path that begins at the root. -/
def normalize (chars : List Char) : List Char :=
  match (split chars).foldl walk [] with
  | [] => ['/']
  | trail => join trail.reverse

/-- Characters without the slashes at the end. -/
def trimSlashes (chars : List Char) : List Char := (chars.reverse.dropWhile (· = '/')).reverse

/-! ## Where paths are looked at from -/

/-- What a path is relative to besides a base directory.  No name of a user and no
directory holds a NUL, and the working directory is given in canonical form. -/
structure Standpoint where
  /-- The home directories of users by name; one's own stands under the empty name. -/
  homes : String → Option String
  working : String
  homes_nul : ∀ {name home : String}, homes name = some home →
    '\x00' ∉ name.toList ∧ '\x00' ∉ home.toList
  working_normal : normalize working.toList = working.toList
  working_nul : '\x00' ∉ working.toList

/-- The standpoint of someone who works at the root and knows no home but their own. -/
def Standpoint.atRoot (home : String) (h : '\x00' ∉ home.toList) : Standpoint where
  homes name := if name = "" then some home else none
  working := "/"
  homes_nul := by
    intro name other hother
    split at hother
    · rename_i hname
      cases hother
      exact ⟨by simp [hname], h⟩
    · cases hother
  working_normal := by decide
  working_nul := by decide

/-- The standpoint of someone who lives there, too. -/
def Standpoint.root : Standpoint := .atRoot "/" (by decide)

variable (standpoint : Standpoint)

/-- A path with a leading tilde, and the name of a user behind it, replaced by the home
directory of that user.  Without one the path stays. -/
def expandHome : List Char → List Char
  | '~' :: rest =>
    match standpoint.homes (String.ofList (rest.takeWhile (· ≠ '/'))) with
    | some home =>
      let expanded := trimSlashes home.toList ++ rest.dropWhile (· ≠ '/')
      if expanded = [] then ['/'] else expanded
    | none => '~' :: rest
  | chars => chars

/-- A path taken relative to a directory, unless it begins at the root.  Relative to an
empty path it stays as it is. -/
def based (directory chars : List Char) : List Char :=
  if chars.head? = some '/' ∨ directory = [] then chars else directory ++ '/' :: chars

/-- A path from the root on.  A path that does not begin at the root is taken
relative to `base`, and a base that does not begin at the root is taken relative to
the working directory. -/
def absoluteChars (base chars : List Char) : List Char :=
  based standpoint.working.toList (based base (expandHome standpoint chars))

/-- The canonical form of a path. -/
def canonicalChars (base chars : List Char) : List Char :=
  normalize (absoluteChars standpoint base chars)

/-- The canonical form of a path relative to a base directory. -/
def canonical (base path : String) : String :=
  String.ofList (canonicalChars standpoint base.toList path.toList)

/-- Whether a path relative to a base directory can name a file.  The names of
files hold no NUL, also where the canonical form would drop them. -/
def isNameable (base path : String) : Bool :=
  !(absoluteChars standpoint base.toList path.toList).contains '\x00'

/-- The canonical form of a path that can name a file. -/
def locate (base path : String) : Except Fault String :=
  if isNameable standpoint base path then .ok (canonical standpoint base path)
  else .error .nullInPath

/-- The canonical form of a path relative to the working directory. -/
abbrev locateHere (path : String) : Except Fault String := locate standpoint standpoint.working path

/-! ## Parts of a path -/

/-- The characters up to and with the last slash, and those after it. -/
def splitLast (chars : List Char) : List Char × List Char :=
  let after := chars.reverse.takeWhile (· ≠ '/')
  let upTo := chars.reverse.dropWhile (· ≠ '/')
  (upTo.reverse, after.reverse)

/-- The directory of a path: what comes before its last slash, without further
slashes at the end unless there is nothing else. -/
def directory (path : String) : String :=
  let head := (splitLast path.toList).1
  let stripped := trimSlashes head
  String.ofList (if stripped = [] then head else stripped)

/-- What comes after the last slash of a path. -/
def base (path : String) : String := String.ofList (splitLast path.toList).2

/-- The last segment of a path that is neither empty nor a step to the same
directory. -/
def lastSegment (chars : List Char) : List Char :=
  (((split chars).filter fun s => s ≠ [] ∧ s ≠ ['.']).getLast?).getD []

/-- A name without its last extension.  A dot at either end begins none. -/
def dropExtension (name : List Char) : List Char :=
  let extension := name.reverse.takeWhile (· ≠ '.')
  let stem := name.take (name.length - extension.length - 1)
  if extension = [] ∨ stem = [] then name else stem

/-- The last segment of a path without its extension. -/
def stem (path : String) : String :=
  String.ofList (dropExtension (lastSegment path.toList))

end Rune.FilePath
