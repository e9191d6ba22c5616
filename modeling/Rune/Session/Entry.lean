import Rune.Session.Gather

/-!
# Rune - resolving a configuration

A configuration is resolved from a text, from a file, or from a second file if the
first one is unavailable.

Main results:

- Definitions {lit}`Session.resolveText`, {lit}`Session.resolveFile` and
  {lit}`Session.resolveFileOr` resolve a configuration.
-/

namespace Rune.Session

/-- Report the end of a resolution. -/
def finish (config : Config) : Resolve Config := do
  let session ← get
  let own := config.sourcePath.toList.length
  let patterns := session.resources.patterns
  note (.finished config.sourcePath (session.modules.length - own) patterns.size patterns.hits)
  return config

/-- Resolve a text.  With a path it gathers files relative to the directory of that
path. -/
def resolveText (services : Services) (path : Option String) (text : String) : Resolve Config := do
  let path ← path.mapM fun path => services.locate path
  finish (← resolve services path text)

/-- The failure of a file that is unavailable. -/
def unreadable (display path reason : String) : Failure :=
  let complaint :=
    .hinted .importNotFound s!"Failed to read file '{display}': {reason}"
      "Check that the file exists and is readable."
  .importNotFound (.detached complaint 0 "" (some path))

/-- Resolve a file. -/
def resolveFile (services : Services) (display : String) : Resolve Config := do
  let path ← services.locate display
  match ← load services path with
  | .ok text => finish (← resolve services (some path) text)
  | .error reason => throw (unreadable display path reason)

/-- The failure of two files of which neither is available. -/
def neither (primary fallback primaryPath fallbackPath reason : String) : Failure :=
  let both := s!"primary path '{primary}' or fallback path '{fallback}'"
  let complaint :=
    .hinted .importNotFound s!"Failed to load config from {both}: {reason}"
      "Check that at least one of the config files exists."
  .importNotFound
    (.detached complaint 0 "" (some s!"{primaryPath} (fallback: {fallbackPath})"))

/-- Resolve a file or, if it is unavailable, another one. -/
def resolveFileOr (services : Services) (primary fallback : String) : Resolve Config := do
  let primaryPath ← services.locate primary
  match ← load services primaryPath with
  | .ok text => finish (← resolve services (some primaryPath) text)
  | .error _ =>
    note (.unavailable primaryPath fallback)
    let fallbackPath ← services.locate fallback
    match ← load services fallbackPath with
    | .ok text => finish (← resolve services (some fallbackPath) text)
    | .error reason => throw (neither primary fallback primaryPath fallbackPath reason)

end Rune.Session
