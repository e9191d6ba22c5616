import Rune.Value.Key

/-!
# Rune - keys of facts about the system

A document may refer to a fixed list of facts about the system that it is
resolved on.

Main results:

- Type {lit}`SystemKey` has one constructor for each fact.
- Definition {lit}`SystemKey.ofName?` finds a key by any spelling of its name.
-/

namespace Rune

/-- A fact about a system. -/
inductive SystemKey where
  | os
  | hostname
  | kernelVersion
  | osVersion
  | cpuArch
  | cpuCount
  | memoryTotal
  | memoryFree
  | memoryUsed
  | uptime
  | productName
  deriving DecidableEq

namespace SystemKey

/-- The canonical name of a key. -/
def name : SystemKey → String
  | .os => "os"
  | .hostname => "hostname"
  | .kernelVersion => "kernel_version"
  | .osVersion => "os_version"
  | .cpuArch => "cpu_arch"
  | .cpuCount => "cpu_count"
  | .memoryTotal => "memory_total"
  | .memoryFree => "memory_free"
  | .memoryUsed => "memory_used"
  | .uptime => "uptime"
  | .productName => "product_name"

/-- Every key. -/
def all : List SystemKey :=
  [.os, .hostname, .kernelVersion, .osVersion, .cpuArch, .cpuCount, .memoryTotal, .memoryFree,
    .memoryUsed, .uptime, .productName]

/-- The key of a given name, in any spelling. -/
def ofName? (name : String) : Option SystemKey :=
  all.find? (·.name = Key.canonical name)

/-- Every key is in the list. -/
theorem mem_all (key : SystemKey) : key ∈ all := by cases key <;> decide

end SystemKey

end Rune
