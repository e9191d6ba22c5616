import Rune.Proofs.Session.Resources
import Rune.Proofs.Session.Steps

/-!
# Rune - what a resolution begins with

A resolution begins with a text or with a file.  Either way a first document is
resolved in a session that knows nothing yet, or the resolution fails before.

Main results:

- Type {lit}`Entry` is what a resolution begins with, and {lit}`Entry.Starts` says what its
  first document is.
- Theorem {lit}`Entry.resolve_cases`: an entry is resolved by resolving its first document.
-/

namespace Rune

/-- What a resolution begins with: a text, perhaps with a path, or a file. -/
inductive Entry where
  | text (path : Option String) (text : String)
  | file (path : String)

namespace Entry

open Session

/-- Resolve an entry. -/
def resolve (services : Services) : Entry → Resolve Config
  | .text path content => resolveText services path content
  | .file path => resolveFile services path

/-- The first document of a resolution: its path in canonical form, if it has one, and
its text. -/
inductive Starts (services : Services) : Entry → Option String → String → Prop
  | text {text : String} : Starts services (.text none text) none text
  | textAt {display path text : String} : services.locate display = .ok path →
      Starts services (.text (some display) text) (some path) text
  | file {display path text : String} : services.locate display = .ok path →
      services.files.read path = .ok text → Starts services (.file display) (some path) text

variable {services : Services} {entry : Entry} {root : Option String} {text : String}

/-- There is only one first document. -/
theorem Starts.unique (h : entry.Starts services root text) {root' : Option String}
    {text' : String} (h' : entry.Starts services root' text') : root = root' ∧ text = text' := by
  cases h with
  | text =>
    cases h'
    exact ⟨rfl, rfl⟩
  | textAt hpath =>
    cases h' with
    | textAt hpath' =>
      rw [hpath] at hpath'
      cases hpath'
      exact ⟨rfl, rfl⟩
  | file hpath hread =>
    cases h' with
    | file hpath' hread' =>
      rw [hpath] at hpath'
      cases hpath'
      rw [hread] at hread'
      cases hread'
      exact ⟨rfl, rfl⟩

/-- Where a first document has a directory to gather files from, paths can be located. -/
theorem Starts.exists_base (h : entry.Starts services root text) {directory : String}
    (hdirectory : directoryOf services root = .ok directory) :
    ∃ base, services.base = .ok base := by
  cases h with
  | text => exact ⟨directory, hdirectory⟩
  | textAt hpath | file hpath _ =>
    obtain ⟨base, hbase, -⟩ := Services.locate_eq_ok_iff.1 hpath
    exact ⟨base, hbase⟩

/-- An entry is resolved by resolving its first document, in a session that knows no
configurations and whose resources tell the truth, or it fails before. -/
theorem resolve_cases (services : Services) (entry : Entry) :
    (∃ root text session, entry.Starts services root text ∧ session.active = [] ∧
      session.modules = [] ∧ session.resources.Truthful services.system ∧
      entry.resolve services fresh = (Session.resolve services root text >>= finish) session) ∨
    ∃ failure after, entry.resolve services fresh = .error failure after ∧
      ¬ failure.IsImportCycle := by
  have htruthful := Resources.truthful_fresh services.system
  cases entry with
  | text path content =>
    cases path with
    | none =>
      exact .inl ⟨none, content, fresh, .text, rfl, rfl, htruthful,
        congrFun (resolveText_none content) _⟩
    | some display =>
      cases hpath : services.locate display with
      | error fault => exact .inr ⟨_, _, resolveText_of_fault hpath content fresh, id⟩
      | ok path =>
        exact .inl ⟨some path, content, fresh, .textAt hpath, rfl, rfl, htruthful,
          congrFun (resolveText_some hpath content) _⟩
  | file display =>
    cases hpath : services.locate display with
    | error fault => exact .inr ⟨_, _, resolveFile_of_fault hpath fresh, id⟩
    | ok path =>
      cases hread : services.files.read path with
      | error fault =>
        exact .inr ⟨_, _, resolveFile_of_unreadable hpath hread fresh,
          ReadFault.failure_not_isImportCycle (fun _ => id) fault⟩
      | ok content =>
        exact .inl ⟨some path, content, _, .file hpath hread, rfl, rfl,
          htruthful.of_facts_eq rfl, resolveFile_of_read hpath hread fresh⟩

end Entry

end Rune
