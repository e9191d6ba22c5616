import Mathlib.Data.List.DropRight
import Rune.Proofs.System.Quantity
import Rune.System.Host

/-!
# Rune - what a host answers

Every question about a host is answered with a text or with nothing, except where a number is
beyond all floating point numbers: the time since the start may be written as an infinite number,
and an amount of memory may be too large to be shown.  Settings of 64 bits are not.

Main results:

- Relations {lit}`Host.Reads` and {lit}`Host.Amount` say which numbers a host has to show.
- Theorem {lit}`Host.lookup_settled`: when a question fails, and when it is answered with nothing.
-/

namespace Rune

/-! ## Words of a line -/

namespace Unicode

variable {chars : List Char}

/-- Of white space nothing is left. -/
theorem trim_eq_nil_iff : trim chars = [] ↔ ∀ c ∈ chars, isSpace c = true := by
  change (chars.dropWhile isSpace).rdropWhile isSpace = [] ↔ _
  rw [List.rdropWhile_eq_nil_iff]
  refine ⟨fun h => ?_, fun h c hc => h c ((List.dropWhile_sublist _).mem hc)⟩
  rw [← List.takeWhile_append_dropWhile (p := isSpace) (l := chars)]
  exact List.forall_mem_append.2 ⟨fun c hc => List.mem_takeWhile_imp hc, h⟩

/-- White space behind a word does not belong to it. -/
theorem takeWhile_rdropWhile (chars : List Char) :
    (chars.rdropWhile isSpace).takeWhile (!isSpace ·) = chars.takeWhile (!isSpace ·) := by
  induction chars using List.reverseRecOn with
  | nil => rfl
  | append_singleton chars c ih =>
    by_cases hspace : isSpace c = true
    · rw [List.rdropWhile_concat_pos _ _ _ hspace, ih, List.takeWhile_append]
      split
      · rename_i hlength
        rw [(List.takeWhile_prefix _).eq_of_length hlength]
        simp [hspace]
      · rfl
    · rw [List.rdropWhile_concat_neg _ _ _ hspace]

/-- White space around a line does not change its first word. -/
theorem firstWord?_trim (chars : List Char) : firstWord? (trim chars) = firstWord? chars := by
  have hline : ((trim chars).dropWhile isSpace).takeWhile (!isSpace ·) =
      (chars.dropWhile isSpace).takeWhile (!isSpace ·) := by
    change (((chars.dropWhile isSpace).rdropWhile isSpace).dropWhile isSpace).takeWhile _ = _
    rw [List.dropWhile_eq_self_iff.2, takeWhile_rdropWhile]
    intro hpos
    have hbegins := List.rdropWhile_prefix isSpace (l := chars.dropWhile isSpace)
    rw [hbegins.getElem hpos]
    exact List.dropWhile_get_zero_not isSpace chars _
  unfold firstWord?
  rw [hline]

end Unicode

namespace Host

/-! ## Numbers to show -/

/-- The first word of the first line of a file reads as a number. -/
def Reads (host : Host) (path : String) (x : Binary64) : Prop :=
  ∃ text word, Entries.get? path host.files = some text ∧
    Unicode.firstWord? (Utf8.firstLine text.toList) = some word ∧
    Numeral.readFloat? (String.ofList word) = some x

/-- A setting counts pages of memory, and those are so many bytes. -/
def Pages (host : Host) (setting : String) (amount : Int) : Prop :=
  ∃ pages size, Entries.get? setting host.settings = some pages ∧
    Entries.get? "SC_PAGE_SIZE" host.settings = some size ∧ 0 ≤ pages ∧ 0 ≤ size ∧
    amount = pages * size

/-- The amount of memory that a key asks for. -/
def Amount (host : Host) : SystemKey → Int → Prop
  | .memoryTotal, amount => host.Pages "SC_PHYS_PAGES" amount
  | .memoryFree, amount => host.Pages "SC_AVPHYS_PAGES" amount
  | .memoryUsed, amount => ∃ total free, host.Pages "SC_PHYS_PAGES" total ∧
      host.Pages "SC_AVPHYS_PAGES" free ∧ amount = max (total - free) 0
  | _, _ => False

/-- What a key asks for lies beyond all floating point numbers. -/
def Overflows (host : Host) (key : SystemKey) : Prop :=
  (key = .uptime ∧ ∃ negative, host.Reads "/proc/uptime" (.infinite negative)) ∨
    ∃ amount, host.Amount key amount ∧ Binary64.limit ≤ amount.natAbs

/-- What a key asks for is not known on a host, or the file that tells it is of no use. -/
def Lacks (host : Host) : SystemKey → Prop
  | .os => host.released "NAME" = none ∧ host.system = ""
  | .hostname => host.hostname = ""
  | .kernelVersion => host.kernel = ""
  | .osVersion => host.released "VERSION_ID" = none ∧ host.macVersion = "" ∧ host.version = ""
  | .cpuArch => host.machine = ""
  | .cpuCount => False
  | .uptime => ∀ x, host.Reads "/proc/uptime" x → x = .nan
  | .productName => ∀ text, Entries.get? "/sys/class/dmi/id/product_name" host.files = some text →
      ∀ c ∈ Utf8.firstLine text.toList, Unicode.isSpace c = true
  | key => ∀ amount, ¬host.Amount key amount

variable {host : Host} {path : String}

/-! ## Lines and amounts -/

/-- A file has no first line if that is white space. -/
theorem firstLine_eq_none_iff : host.firstLine path = none ↔
    ∀ text, Entries.get? path host.files = some text →
      ∀ c ∈ Utf8.firstLine text.toList, Unicode.isSpace c = true := by
  unfold firstLine
  cases Entries.get? path host.files with
  | none => exact iff_of_true rfl nofun
  | some text =>
    simp only [Option.some.injEq, forall_eq', ← Unicode.trim_eq_nil_iff]
    cases Unicode.trim (Utf8.firstLine text.toList) <;> simp

/-- The first word of a file is the first word of its first line as it is written. -/
theorem firstLine_bind_firstWord? : (host.firstLine path).bind Unicode.firstWord? =
    (Entries.get? path host.files).bind fun text =>
      Unicode.firstWord? (Utf8.firstLine text.toList) := by
  unfold firstLine
  cases Entries.get? path host.files with
  | none => rfl
  | some text =>
    rw [Option.bind_some, ← Unicode.firstWord?_trim]
    dsimp only
    cases Unicode.trim (Utf8.firstLine text.toList) <;> rfl

/-- A setting tells an amount of memory if it and the size of a page are known and not below
zero. -/
theorem memory_eq_some_iff {setting : String} {amount : Int} :
    host.memory setting = some amount ↔ host.Pages setting amount := by
  unfold memory Pages
  cases Entries.get? setting host.settings with
  | none => simp
  | some pages =>
    cases Entries.get? "SC_PAGE_SIZE" host.settings with
    | none => simp
    | some size =>
      by_cases hsign : pages < 0 ∨ size < 0
      · refine iff_of_false (by simp [hsign]) ?_
        rintro ⟨_, _, ⟨⟩, ⟨⟩, hpages, hsize, -⟩
        omega
      · have hpages : 0 ≤ pages := by omega
        have hsize : 0 ≤ size := by omega
        simp [hsign, hpages, hsize, eq_comm]

/-- An amount of memory is shown if it is known, and fails to be if it lies beyond all floating
point numbers. -/
theorem shownBytes_eq_error_iff {amount : Option Int} :
    (∃ fault, shownBytes amount = .error fault) ↔
      ∃ count, amount = some count ∧ Binary64.limit ≤ count.natAbs := by
  cases amount with
  | none => simp [shownBytes]
  | some count =>
    simp only [Option.some.injEq, exists_eq_left', ← Quantity.bytes_eq_error_iff, shownBytes]
    cases Quantity.bytes count <;> simp [Except.map]

theorem shownBytes_eq_none_iff {amount : Option Int} :
    shownBytes amount = .ok none ↔ amount = none := by
  cases amount with
  | none => simp [shownBytes]
  | some count =>
    rw [shownBytes]
    cases Quantity.bytes count <;> simp [Except.map]

/-- The memory that is used is known if both the memory that there is and that which is free
are. -/
theorem memoryUsed_eq_some_iff {amount : Int} :
    host.memoryUsed = some amount ↔ host.Amount .memoryUsed amount := by
  have hbind : host.memoryUsed = (host.memory "SC_PHYS_PAGES").bind fun total =>
      (host.memory "SC_AVPHYS_PAGES").bind fun free => some (max (total - free) 0) := rfl
  simp [hbind, Amount, Option.bind_eq_some_iff, memory_eq_some_iff, eq_comm (a := amount)]

/-! ## The time since the start -/

/-- A file reads as a number if the first word of its first line does. -/
theorem reads_iff {x : Binary64} : host.Reads path x ↔
    ∃ word, (host.firstLine path).bind Unicode.firstWord? = some word ∧
      Numeral.readFloat? (String.ofList word) = some x := by
  simp only [firstLine_bind_firstWord?, Option.bind_eq_some_iff, Reads]
  constructor
  · rintro ⟨text, word, hfile, hword, hread⟩
    exact ⟨word, ⟨text, hfile, hword⟩, hread⟩
  · rintro ⟨word, ⟨text, hfile, hword⟩, hread⟩
    exact ⟨text, word, hfile, hword, hread⟩

/-- The time since the start cannot be shown if the file that tells it holds an infinite
number. -/
theorem uptime_eq_error_iff : (∃ fault, host.uptime = .error fault) ↔
    ∃ negative, host.Reads "/proc/uptime" (.infinite negative) := by
  simp only [reads_iff, uptime]
  cases (host.firstLine "/proc/uptime").bind Unicode.firstWord? with
  | none => simp
  | some word =>
    simp only [Option.some.injEq, exists_eq_left']
    rcases Numeral.readFloat? (String.ofList word) with _ | _ | negative | _ <;> simp

/-- It is not known if that file holds no number. -/
theorem uptime_eq_none_iff : host.uptime = .ok none ↔
    ∀ x, host.Reads "/proc/uptime" x → x = .nan := by
  simp only [reads_iff, uptime]
  cases (host.firstLine "/proc/uptime").bind Unicode.firstWord? with
  | none => simp
  | some word =>
    simp only [Option.some.injEq, exists_eq_left']
    rcases Numeral.readFloat? (String.ofList word) with _ | _ | negative | _ <;>
      simp [Binary64.truncate?]

/-! ## Answers -/

theorem filled_eq_none_iff {text : String} : filled text = none ↔ text = "" := by
  unfold filled
  split <;> simp_all

/-- Asking for a fact fails exactly if it lies beyond all floating point numbers. -/
theorem fact_eq_error_iff {key : SystemKey} :
    (∃ fault, host.fact key = .error fault) ↔ host.Overflows key := by
  cases key with
  | memoryTotal | memoryFree =>
    simp [fact, Overflows, Amount, shownBytes_eq_error_iff, memoryTotal, memoryFree,
      memory_eq_some_iff]
  | memoryUsed =>
    simp [fact, Overflows, shownBytes_eq_error_iff, memoryUsed_eq_some_iff]
  | uptime =>
    have hmap : (∃ fault, host.fact .uptime = .error fault) ↔
        ∃ fault, host.uptime = .error fault := by
      rw [fact]
      cases host.uptime <;> simp [bind, Except.bind, pure, Except.pure]
    simp [hmap, uptime_eq_error_iff, Overflows, Amount]
  | _ => simp [fact, Overflows, Amount]

/-- A fact is answered with nothing exactly if the host lacks it. -/
theorem fact_eq_none_iff {key : SystemKey} : host.fact key = .ok none ↔ host.Lacks key := by
  cases key with
  | memoryTotal | memoryFree =>
    simp [fact, Lacks, Amount, shownBytes_eq_none_iff, memoryTotal, memoryFree,
      ← memory_eq_some_iff, Option.eq_none_iff_forall_ne_some]
  | memoryUsed =>
    simp [fact, Lacks, shownBytes_eq_none_iff, ← memoryUsed_eq_some_iff,
      Option.eq_none_iff_forall_ne_some]
  | uptime =>
    rw [Lacks, ← uptime_eq_none_iff, fact]
    rcases host.uptime with fault | _ | seconds <;> simp [bind, Except.bind, pure, Except.pure]
  | productName => simp [fact, Lacks, firstLine_eq_none_iff]
  | _ => simp [fact, Lacks, filled_eq_none_iff, and_assoc]

/-- Settings of 64 bits make up amounts of memory that can be shown. -/
theorem Amount.natAbs_lt (hsettings : ∀ name value, Entries.get? name host.settings = some value →
    value < 2 ^ 63) {key : SystemKey} {amount : Int} (h : host.Amount key amount) :
    amount.natAbs < Binary64.limit := by
  have hpages {setting : String} {amount : Int} (h : host.Pages setting amount) :
      0 ≤ amount ∧ amount < 2 ^ 126 := by
    obtain ⟨pages, size, hcount, hsize, hpos, hpos', rfl⟩ := h
    have hlt := hsettings _ _ hcount
    have hlt' := hsettings _ _ hsize
    exact ⟨Int.mul_nonneg hpos hpos', Int.mul_lt_mul' (Int.le_of_lt hlt) hlt' hpos' (by decide)⟩
  have hbound : 0 ≤ amount ∧ amount < 2 ^ 126 := by
    cases key with
    | memoryTotal | memoryFree => exact hpages h
    | memoryUsed =>
      obtain ⟨total, free, htotal, hfree, rfl⟩ := h
      have := hpages htotal
      have := hpages hfree
      omega
    | _ => cases h
  have hlimit : 2 ^ 126 ≤ Binary64.limit := by decide +kernel
  omega

/-- On every host every key is answered with a text or with nothing, unless what it asks for lies
beyond all floating point numbers.  It is answered with nothing if it is no key, and if the host
lacks what it asks for. -/
theorem lookup_settled (host : Host) (key : String) :
    ((∃ fault, host.lookup key = .error fault) ↔
      ∃ known, SystemKey.ofName? key = some known ∧ host.Overflows known) ∧
    (host.lookup key = .ok none ↔
      ∀ known, SystemKey.ofName? key = some known → host.Lacks known) := by
  unfold lookup
  cases SystemKey.ofName? key with
  | none => simp
  | some known => simp [fact_eq_error_iff, fact_eq_none_iff]

/-- A host that was started an infinite time ago is asked for that time. -/
theorem lookup_uptime_infinite :
    let host : Host := {
      release := [], system := "", kernel := "", machine := "", version := "", macVersion := "",
      hostname := "", processors := none, settings := [],
      files := [("/proc/uptime", "inf 1\n")] }
    host.lookup "uptime" = .error (.overflow "cannot convert float infinity to integer") := by
  decide +kernel

end Host

end Rune
