import Rune.Proofs.Outcome
import Rune.Proofs.Session.Steps
import Rune.Session.Entry

/-!
# Rune - resolving without a memory

A resolution without a memory reads and resolves a file again at every gather, with
fresh resources, and does not look out for files that gather themselves.  Files may
gather each other without end, so they are cut off at a depth; what the outcomes at
growing depths come to is what such a resolution does.

Main results:

- Definition {lit}`Reloading.file` is the configuration of a file at a depth.
- Definition {lit}`Reloading.resolveFile` resolves a file without a memory.
-/

namespace Rune.Reloading

variable (services : Services)

/-- What can fail with a fault, as an outcome. -/
def attempt {α : Type} : Except Fault α → Outcome Failure α
  | .ok a => .value a
  | .error fault => .failure (.fault fault)

/-- The text of a file, where files that are unavailable fail in a given way. -/
def reading (unavailable : String → Failure) (path : String) : Outcome Failure String :=
  match services.files.read path with
  | .ok text => .value text
  | .error fault => .failure (fault.failure unavailable)

/-- The configuration of the file that a document gathers, where {lit}`call` resolves
files that can be read. -/
def gather (call : String → Outcome Failure Config) (source : Source) (directory : String)
    (g : Gather) : Outcome Failure Config := do
  let path ← attempt (FilePath.locate services.standpoint directory g.path)
  let _ ← reading services (Session.missing g · (source.diagnose · g.range)) path
  call path

section

variable {services} {source : Source} {directory : String} {g : Gather}

theorem gather_of_fault (call : String → Outcome Failure Config) {fault : Fault}
    (hpath : FilePath.locate services.standpoint directory g.path = .error fault) :
    gather services call source directory g = .failure (.fault fault) := by
  simp [gather, attempt, hpath]

theorem gather_of_unreadable (call : String → Outcome Failure Config) {path : String}
    {fault : ReadFault} (hpath : FilePath.locate services.standpoint directory g.path = .ok path)
    (hread : services.files.read path = .error fault) :
    gather services call source directory g =
      .failure (fault.failure (Session.missing g · (source.diagnose · g.range))) := by
  simp [gather, attempt, reading, hpath, hread]

theorem gather_of_read (call : String → Outcome Failure Config) {path text : String}
    (hpath : FilePath.locate services.standpoint directory g.path = .ok path)
    (hread : services.files.read path = .ok text) :
    gather services call source directory g = call path := by
  simp [gather, attempt, reading, hpath, hread]

end

/-- The configurations that a document gathers, under the canonical spelling of their
aliases, after those gathered so far. -/
def gatherAll (call : String → Outcome Failure Config) (source : Source) (directory : String)
    (aliases : Entries Config) : List Gather → Outcome Failure (Entries Config)
  | [] => return aliases
  | g :: gathers => do
    let config ← gather services call source directory g
    gatherAll call source directory
      (Entries.insert (Key.canonical g.aliasName) config aliases) gathers

/-- Evaluate a document with fresh resources. -/
def evaluate (scope : Scope) : Outcome Failure Config :=
  match scope.evaluate (.fresh .fresh) with
  | .ok config _ => .value config
  | .error flaw _ => .failure (flaw.failure scope.source)

/-- Gather the files of a document and evaluate it. -/
def contents (call : String → Outcome Failure Config) (source : Source) (directory : String)
    (document : Document) : Outcome Failure Config := do
  let aliases ← gatherAll services call source directory [] document.gathers
  evaluate (.ofDocument source services document aliases)

/-- Resolve a document whose files are resolved by {lit}`call`. -/
def resolveUsing (call : String → Outcome Failure Config) (path : Option String)
    (text : String) : Outcome Failure Config :=
  let source := Source.ofText text path
  match source.parse with
  | .error failure => .failure failure
  | .ok document => do
    let directory ← attempt (Session.directoryOf services path)
    contents services call source directory document

/-- The configuration of a file, where files gather each other less than {lit}`depth`
deep. -/
def file : Nat → String → Outcome Failure Config
  | 0, _ => .tooDeep
  | depth + 1, path => do
    let text ← reading services (Session.unreadable path path) path
    resolveUsing services (file depth) (some path) text

variable {services} in
/-- Resolving a file that can be read. -/
theorem file_of_read {path text : String} (hread : services.files.read path = .ok text)
    (depth : Nat) :
    file services (depth + 1) path =
      resolveUsing services (file services depth) (some path) text := by
  simp [file, reading, hread]

section

variable {services} {depth depth' : Nat} {config : Config}

/-- A document that is resolved was gathered for and evaluated. -/
theorem exists_of_resolveUsing {call : String → Outcome Failure Config} {path : Option String}
    {text : String} (h : resolveUsing services call path text = .value config) :
    ∃ document directory aliases memory, (Source.ofText text path).parse = .ok document ∧
      Session.directoryOf services path = .ok directory ∧
      gatherAll services call (.ofText text path) directory [] document.gathers =
        .value aliases ∧
      (Scope.ofDocument (.ofText text path) services document aliases).evaluate (.fresh .fresh) =
        .ok config memory := by
  simp only [resolveUsing] at h
  cases hparse : (Source.ofText text path).parse with
  | error failure =>
    rw [hparse] at h
    cases h
  | ok document =>
    rw [hparse] at h
    obtain ⟨directory, hdirectory, h⟩ := Outcome.bind_eq_value_iff.1 h
    obtain ⟨aliases, hgathers, h⟩ := Outcome.bind_eq_value_iff.1 h
    unfold evaluate at h
    split at h
    · rename_i memory hevaluate
      cases h
      cases hfound : Session.directoryOf services path with
      | error fault =>
        rw [hfound] at hdirectory
        cases hdirectory
      | ok found =>
        rw [hfound] at hdirectory
        cases hdirectory
        exact ⟨document, directory, aliases, memory, rfl, rfl, hgathers, hevaluate⟩
    · cases h

/-- A file that is resolved was read. -/
theorem exists_of_file {path : String} (h : file services depth path = .value config) :
    ∃ below text, depth = below + 1 ∧ services.files.read path = .ok text ∧
      resolveUsing services (file services below) (some path) text = .value config := by
  cases depth with
  | zero => cases h
  | succ below =>
    obtain ⟨text, htext, h⟩ := Outcome.bind_eq_value_iff.1 h
    cases hread : services.files.read path with
    | error fault => simp [reading, hread] at htext
    | ok found =>
      simp only [reading, hread, Outcome.value.injEq] at htext
      subst htext
      exact ⟨below, found, rfl, rfl, h⟩

/-- A property that files have is one of all configurations that are gathered. -/
theorem forall_of_gatherAll {property : Config → Prop} {call : String → Outcome Failure Config}
    (hcall : ∀ path config, call path = .value config → property config) {source : Source}
    {directory : String} {given aliases : Entries Config} {gathers : List Gather}
    (hgiven : ∀ key config, Entries.get? key given = some config → property config)
    (h : gatherAll services call source directory given gathers = .value aliases) :
    ∀ key config, Entries.get? key aliases = some config → property config := by
  induction gathers generalizing given with
  | nil =>
    cases h
    exact hgiven
  | cons g gathers ih =>
    obtain ⟨config, hfirst, hrest⟩ := Outcome.bind_eq_value_iff.1 h
    have hconfig : property config := by
      obtain ⟨path, -, hread⟩ := Outcome.bind_eq_value_iff.1 hfirst
      obtain ⟨_, -, hfile⟩ := Outcome.bind_eq_value_iff.1 hread
      exact hcall path config hfile
    refine ih (fun key known hknown => ?_) hrest
    by_cases hkey : key = Key.canonical g.aliasName
    · rw [hkey, Entries.get?_insert_self] at hknown
      exact Option.some.inj hknown ▸ hconfig
    · rw [Entries.get?_insert_of_ne hkey] at hknown
      exact hgiven key known hknown

/-- Where more files have a configuration, as much is gathered. -/
theorem gatherAll_mono {call call' : String → Outcome Failure Config}
    (hcall : ∀ path config, call path = .value config → call' path = .value config)
    {source : Source} {directory : String} {given aliases : Entries Config}
    {gathers : List Gather}
    (h : gatherAll services call source directory given gathers = .value aliases) :
    gatherAll services call' source directory given gathers = .value aliases := by
  induction gathers generalizing given with
  | nil => exact h
  | cons g gathers ih =>
    obtain ⟨config, hfirst, hrest⟩ := Outcome.bind_eq_value_iff.1 h
    obtain ⟨path, hpath, hread⟩ := Outcome.bind_eq_value_iff.1 hfirst
    obtain ⟨text, htext, hfile⟩ := Outcome.bind_eq_value_iff.1 hread
    refine Outcome.bind_eq_value_iff.2 ⟨config, ?_, ih hrest⟩
    exact Outcome.bind_eq_value_iff.2 ⟨path, hpath,
      Outcome.bind_eq_value_iff.2 ⟨text, htext, hcall path config hfile⟩⟩

/-- A file has the same configuration at greater depths. -/
theorem file_mono (hdepth : depth ≤ depth') {path : String}
    (h : file services depth path = .value config) :
    file services depth' path = .value config := by
  induction depth generalizing depth' path config with
  | zero => cases h
  | succ depth ih =>
    cases depth' with
    | zero => omega
    | succ depth' =>
      obtain ⟨below, text, hbelow, hread, h⟩ := exists_of_file h
      cases hbelow
      rw [file_of_read hread, resolveUsing]
      obtain ⟨document, directory, aliases, memory, hparse, hdirectory, hgathers, hevaluate⟩ :=
        exists_of_resolveUsing h
      have hmore := gatherAll_mono (fun _ _ => ih (Nat.le_of_succ_le_succ hdepth)) hgathers
      simp [hparse, hdirectory, attempt, contents, hmore, evaluate, hevaluate]

end

/-- Resolve a file. -/
def resolveFile (depth : Nat) (display : String) : Outcome Failure Config := do
  let path ← attempt (services.locate display)
  let _ ← reading services (Session.unreadable display path) path
  file services depth path

section

variable {services} {display path : String}

theorem resolveFile_of_fault {fault : Fault} (hpath : services.locate display = .error fault)
    (depth : Nat) : resolveFile services depth display = .failure (.fault fault) := by
  simp [resolveFile, attempt, hpath]

theorem resolveFile_of_unreadable {fault : ReadFault} (hpath : services.locate display = .ok path)
    (hread : services.files.read path = .error fault) (depth : Nat) :
    resolveFile services depth display =
      .failure (fault.failure (Session.unreadable display path)) := by
  simp [resolveFile, attempt, reading, hpath, hread]

theorem resolveFile_of_read {text : String} (hpath : services.locate display = .ok path)
    (hread : services.files.read path = .ok text) (depth : Nat) :
    resolveFile services depth display = file services depth path := by
  simp [resolveFile, attempt, reading, hpath, hread]

end

end Rune.Reloading
