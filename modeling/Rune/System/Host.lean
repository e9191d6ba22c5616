import Rune.Number.Numeral
import Rune.System.Key
import Rune.System.Quantity
import Rune.Text.Utf8
import Rune.Unicode.Space
import Rune.Value.Entries

/-!
# Rune - facts about a host

A host is described by what can be asked about it: its release file, its
platform, its settings and some of its files.  Anything may be unavailable.

Main results:

- Structure {lit}`Host` describes a host.
- Definition {lit}`Host.lookup` answers a key with a fact about a host.
-/

namespace Rune

/-- A description of a host.  What is unknown is empty. -/
structure Host where
  release : Entries String
  system : String
  kernel : String
  machine : String
  version : String
  macVersion : String
  hostname : String
  processors : Option Int
  settings : Entries Int
  files : Entries String

namespace Host

/-- A text unless it is empty. -/
def filled (text : String) : Option String := if text = "" then none else some text

/-- A fact from the release file. -/
def released (host : Host) (name : String) : Option String :=
  (Entries.get? name host.release).bind filled

/-- The number of bytes in as many pages of memory as a setting says. -/
def memory (host : Host) (setting : String) : Option Int := do
  let pages ← Entries.get? setting host.settings
  let size ← Entries.get? "SC_PAGE_SIZE" host.settings
  if pages < 0 ∨ size < 0 then none else some (pages * size)

/-- The bytes of memory that there are. -/
def memoryTotal (host : Host) : Option Int := host.memory "SC_PHYS_PAGES"

/-- The bytes of memory that are free. -/
def memoryFree (host : Host) : Option Int := host.memory "SC_AVPHYS_PAGES"

/-- The bytes of memory that are used. -/
def memoryUsed (host : Host) : Option Int := do
  let total ← host.memoryTotal
  let free ← host.memoryFree
  some (max (total - free) 0)

/-- The first line of a file without white space around it, unless it is empty. -/
def firstLine (host : Host) (path : String) : Option (List Char) :=
  match Entries.get? path host.files with
  | some text =>
    match Unicode.trim (Utf8.firstLine text.toList) with
    | [] => none
    | line => some line
  | none => none

/-- The seconds since a host was started.  A number beyond all others cannot be
shown. -/
def uptime (host : Host) : Except Fault (Option Int) :=
  match (host.firstLine "/proc/uptime").bind Unicode.firstWord? with
  | none => .ok none
  | some word =>
    match Numeral.readFloat? (String.ofList word) with
    | none | some .nan => .ok none
    | some (.infinite _) => .error (.overflow "cannot convert float infinity to integer")
    | some x => .ok x.truncate?

/-- An amount of memory, shown if it is known. -/
def shownBytes : Option Int → Except Fault (Option String)
  | none => .ok none
  | some count => (Quantity.bytes count).map some

/-- A fact about a host. -/
def fact (host : Host) : SystemKey → Except Fault (Option String)
  | .os => .ok ((host.released "NAME").or (filled host.system))
  | .hostname => .ok (filled host.hostname)
  | .kernelVersion => .ok (filled host.kernel)
  | .osVersion =>
    .ok (((host.released "VERSION_ID").or (filled host.macVersion)).or (filled host.version))
  | .cpuArch => .ok (filled host.machine)
  | .cpuCount =>
    let processors := (host.processors.filter (· ≠ 0)).getD 1
    .ok (some (toString processors))
  | .memoryTotal => shownBytes host.memoryTotal
  | .memoryFree => shownBytes host.memoryFree
  | .memoryUsed => shownBytes host.memoryUsed
  | .uptime => do return (← host.uptime).map Quantity.duration
  | .productName =>
    .ok ((host.firstLine "/sys/class/dmi/id/product_name").map String.ofList)

/-- The answer to a key in any spelling. -/
def lookup (host : Host) (key : String) : Except Fault (Option String) :=
  match SystemKey.ofName? key with
  | some key => host.fact key
  | none => .ok none

end Host

end Rune
