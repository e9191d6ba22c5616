import Rune.Session.Basic
import Rune.Tree.Grammar

/-!
# Rune - gathering

A document is resolved after the files that it gathers, each of which is a
document itself.  A file is resolved once and shared by all documents that gather
it; a file that gathers itself, directly or through others, is refused.

Main results:

- Definition {lit}`Session.gather` gives the configuration of a gathered file.
- Definition {lit}`Session.resolve` resolves a document.

How deep files gather each other is bounded: the files being resolved are all
different, and all but the first one are known to the collection of files.
-/

namespace Rune.Session

/-- The failure of a file that gathers itself: the files being resolved, from the
repeated one on. -/
def cycle (active : List String) (path : String) (diagnose : Complaint → Diagnostic) : Failure :=
  let chain := active.dropWhile (· ≠ path) ++ [path]
  let names := " -> ".intercalate (chain.map FilePath.base)
  .importCycle (diagnose (.worded .importCycle s!"Import cycle detected: {names}")) chain

/-- The failure of a gather whose file is unavailable. -/
def missing (gather : Gather) (reason : String) (diagnose : Complaint → Diagnostic) : Failure :=
  let shown := Quoted.quote gather.path
  .importNotFound
    (diagnose (.worded .importNotFound s!"Could not load gathered file {shown}: {reason}"))

/-- Resolve the text of a file under its canonical path. -/
abbrev Resolver := String → String → Resolve Config

/-- The configuration of the file that a document gathers. -/
def gather (services : Services) (resolver : Resolver) (source : Source) (directory : String)
    (gather : Gather) : Resolve Config := do
  let path ← FilePath.locate services.standpoint directory gather.path
  let diagnose (complaint : Complaint) := source.diagnose complaint gather.range
  let session ← get
  if path ∈ session.active then throw (cycle session.active path diagnose)
  match Entries.get? path session.modules with
  | some config =>
    note (.reused path gather.aliasName)
    return config
  | none =>
    match ← load services path with
    | .error reason => throw (missing gather reason diagnose)
    | .ok text =>
      note (.loaded path text.length gather.aliasName)
      resolver path text

/-- The configurations that a document gathers, under the canonical spelling of
their aliases, after those gathered so far. -/
def gatherAll (services : Services) (resolver : Resolver) (source : Source) (directory : String)
    (aliases : Entries Config) : List Gather → Resolve (Entries Config)
  | [] => return aliases
  | g :: gathers => do
    let config ← gather services resolver source directory g
    gatherAll services resolver source directory
      (Entries.insert (Key.canonical g.aliasName) config aliases) gathers

/-- The directory relative to which a document gathers files. -/
def directoryOf (services : Services) : Option String → Except Fault String
  | some path => .ok (FilePath.directory path)
  | none => services.base

/-- Resolve a document whose files are resolved by {lit}`resolver`. -/
def resolveUsing (services : Services) (resolver : Resolver) (path : Option String)
    (text : String) : Resolve Config := do
  let source := Source.ofText text path
  match source.parse with
  | .error failure => throw failure
  | .ok document =>
    let directory ← directoryOf services path
    let config ← within path do
      let aliases ← gatherAll services resolver source directory [] document.gathers
      evaluate (.ofDocument source services document aliases)
    if let some path := path then keep path config
    note (.resolved path config.globals.length config.items.length config.metadata.length)
    return config

/-- Resolve the text of a file that is gathered at most {lit}`depth` files deep.  If
more files than are known gather each other, one of them gathers itself. -/
def resolverWith (services : Services) : Nat → Resolver
  | 0, path, _ => fun session =>
    .error (cycle session.active path (Diagnostic.detached · 0 "" none)) session
  | depth + 1, path, text => resolveUsing services (resolverWith services depth) (some path) text

/-- Resolve a document, with its path if it has one. -/
def resolve (services : Services) (path : Option String) (text : String) : Resolve Config :=
  resolveUsing services (resolverWith services services.files.known.length) path text

end Rune.Session
