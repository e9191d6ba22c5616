import Rune.File.Path
import Rune.Text.Quoted
import Rune.Text.Utf8
import Rune.Value.Entries

/-!
# Rune - files

Gathered texts come from a collection of files, which is either a store of texts
under their paths or a tree of directories.

Main results:

- Structure {lit}`Files` is a collection of files; it knows the paths under which
  texts can be found.
- Definitions {lit}`Files.ofStore` and {lit}`Files.ofTree` make collections.
-/

namespace Rune

/-- Why a file cannot be read. -/
inductive ReadFault where
  /-- A store has no text under a path. -/
  | unknown (path : String)
  | absent
  | directory
  /-- A file stands where a directory should be. -/
  | insideFile
  | nameTooLong
  | undecodable (fault : Utf8.DecodeFault)
  deriving DecidableEq

/-- Why a file is unavailable.  A file whose bytes are no text is available. -/
def ReadFault.reason? : ReadFault → Option String
  | .unknown path =>
    let shown := Quoted.quote path
    some s!"No such file: {shown}"
  | .absent => some "No such file or directory"
  | .directory => some "Is a directory"
  | .insideFile => some "Not a directory"
  | .nameTooLong => some "File name too long"
  | .undecodable _ => none

/-- A collection of files.  Only known paths can be read. -/
structure Files where
  read : String → Except ReadFault String
  known : List String
  mem_known : ∀ {path text : String}, read path = .ok text → path ∈ known

/-! ## Stores -/

/-- Texts under canonical paths. -/
abbrev TextStore := Entries String

namespace TextStore

variable (standpoint : FilePath.Standpoint)

/-- A store of texts under paths in any spelling; of two texts under one path the
later one stays. -/
def ofList (texts : List (String × String)) : Except Fault TextStore := do
  let located ← texts.mapM fun (path, text) => do
    return (← FilePath.locateHere standpoint path, text)
  return Entries.ofList located

/-- A store after a text was put under a path in any spelling. -/
def insert (store : TextStore) (path text : String) : Except Fault TextStore := do
  return Entries.insert (← FilePath.locateHere standpoint path) text store

/-- A store after the text under a path in any spelling was removed. -/
def erase (store : TextStore) (path : String) : Except Fault TextStore := do
  let located ← FilePath.locateHere standpoint path
  return store.filter (·.1 ≠ located)

/-- The text under a path in any spelling. -/
def load (store : TextStore) (path : String) : Except Fault String := do
  let located ← FilePath.locateHere standpoint path
  match Entries.get? located store with
  | some text => return text
  | none => throw (.unreadable ((ReadFault.unknown path).reason?.getD ""))

/-- The text under a canonical path. -/
def read (store : TextStore) (path : String) : Except ReadFault String :=
  match Entries.get? path store with
  | some text => .ok text
  | none => .error (.unknown path)

end TextStore

/-- The files of a store. -/
def Files.ofStore (store : TextStore) : Files where
  read := store.read
  known := Entries.keys store
  mem_known := by
    intro path text h
    unfold TextStore.read at h
    split at h
    · rename_i found
      exact Entries.mem_keys_of_get? found
    · cases h

/-! ## Trees of directories -/

/-- An entry of a directory. -/
inductive TreeNode where
  | directory
  | file (bytes : List UInt8)
  deriving DecidableEq

/-- The entries of a tree under canonical paths.  The directories on the way to an
entry need no entry of their own. -/
abbrev FileTree := Entries TreeNode

namespace FileTree

/-- Whether a path leads to a directory: to the root, to an entry that is one, or
on the way to an entry. -/
def isDirectory (tree : FileTree) (path : String) : Bool :=
  path = "/" || Entries.get? path tree = some .directory ||
    tree.any fun entry => (path.toList ++ ['/']).isPrefixOf entry.1.toList

/-- The most bytes in the name of a file. -/
def longestName : Nat := 255

/-- The most bytes in a path. -/
def longestPath : Nat := 4095

/-- What is in the way from a directory, given by the segments of its path, down
along more segments.  Each of them needs a directory to stand in and a name that is
not too long; what stands under the last one does not matter. -/
def obstacle? (tree : FileTree) (passed : List (List Char)) :
    List (List Char) → Option ReadFault
  | [] => none
  | segment :: segments =>
    let place := if passed = [] then "/" else String.ofList (FilePath.join passed)
    if !tree.isDirectory place then
      some (if Entries.contains place tree then .insideFile else .absent)
    else if (String.ofList segment).utf8ByteSize > longestName then some .nameTooLong
    else obstacle? tree (passed ++ [segment]) segments

/-- The text of what stands under a canonical path, if nothing is in the way to it. -/
def content (tree : FileTree) (path : String) : Except ReadFault String :=
  match Entries.get? path tree with
  | some (.file bytes) =>
    match Utf8.decode bytes with
    | .ok chars => .ok (String.ofList (Utf8.unifyBreaks chars))
    | .error fault => .error (.undecodable fault)
  | _ => .error (if tree.isDirectory path then .directory else .absent)

/-- The text of the file under a canonical path. -/
def read (tree : FileTree) (path : String) : Except ReadFault String :=
  if path.utf8ByteSize > longestPath then .error .nameTooLong
  else
    match obstacle? tree [] ((FilePath.split path.toList).filter (· ≠ [])) with
    | some fault => .error fault
    | none => tree.content path

end FileTree

/-- The files of a tree. -/
def Files.ofTree (tree : FileTree) : Files where
  read := tree.read
  known := Entries.keys tree
  mem_known := by
    intro path text h
    unfold FileTree.read at h
    split at h
    · cases h
    · split at h
      · cases h
      · unfold FileTree.content at h
        split at h
        · rename_i found
          exact Entries.mem_keys_of_get? found
        · cases h

end Rune
