import Rune.Proofs.Evaluation.Contents
import Rune.Proofs.Session.Fallback

/-!
# Rune - what configurations are built from

Whatever is resolved, and whatever it gathers, all its numbers and keys come from documents.
What is true of the numbers and keys of every document is true of those of the configuration.

Main results:

- Theorem {lit}`Session.builtFrom_of_document`: what the configuration of a document is built
  from, if that is known of the files that it gathers.
- Theorem {lit}`Entry.builtFrom_of_resolve`: what the configuration of an entry is built from.
- Theorem {lit}`Launch.exists_entry`: whatever is resolved is the configuration of an entry.
-/

namespace Rune

variable {services : Services} {material : Material}

open Session

section

variable (hparse : ∀ {source : Source} {document : Document}, source.parse = .ok document →
  document.BuiltFrom material)

include hparse

/-- The configuration of a document is built from what documents are, if those of the files that
it gathers are. -/
theorem Session.builtFrom_of_document {call : String → Outcome Failure Config}
    (hcall : ∀ path, (call path).Ensures (Config.BuiltFrom material)) (path : Option String)
    (text : String) :
    (Reloading.resolveUsing services call path text).Ensures (Config.BuiltFrom material) := by
  intro config h
  obtain ⟨document, directory, aliases, memory, htext, -, hgathers, hevaluate⟩ :=
    Reloading.exists_of_resolveUsing h
  have haliases := Reloading.forall_of_gatherAll hcall (by simp [Entries.get?]) hgathers
  exact Scope.builtFrom_of_evaluate (.ofDocument (hparse htext) haliases)
    (Resources.truthful_fresh _) hevaluate

/-- The configuration of a file is built from what documents are.  The induction is on how deep
files gather each other. -/
theorem Session.builtFrom_of_file (depth : Nat) (path : String) :
    (Reloading.file services depth path).Ensures (Config.BuiltFrom material) := by
  induction depth generalizing path with
  | zero => exact nofun
  | succ depth ih =>
    intro config h
    obtain ⟨below, text, hbelow, -, h⟩ := Reloading.exists_of_file h
    cases hbelow
    exact builtFrom_of_document hparse ih (some path) text config h

/-- The configuration that an entry resolves to is built from what documents are. -/
theorem Entry.builtFrom_of_resolve {entry : Entry} {config : Config} {after : Session}
    (h : entry.resolve services fresh = .ok config after) : config.BuiltFrom material := by
  obtain ⟨root, text, depth, -, h⟩ := exists_reload h
  exact builtFrom_of_document hparse (builtFrom_of_file hparse depth) root text config h

end

/-- Whatever is resolved is the configuration of an entry: of the first file, or of the other
one if that is lacking. -/
theorem Launch.exists_entry {launch : Launch} {config : Config} {after : Session}
    (h : launch.resolve services fresh = .ok config after) :
    ∃ entry : Entry, ∃ last, entry.resolve services fresh = .ok config last := by
  cases launch with
  | entry entry => exact ⟨entry, after, h⟩
  | fileOr primary fallback =>
    by_cases hprimary : ∀ path reason, ¬ services.Lacks primary path reason
    · rw [Launch.resolve, resolveFileOr_of_not_lacks hprimary] at h
      exact ⟨.file primary, after, h⟩
    push Not at hprimary
    obtain ⟨path, reason, hprimary⟩ := hprimary
    have houtcome : outcome (resolveFileOr services primary fallback fresh) = .ok config :=
      congrArg outcome h
    by_cases hfallback : ∀ path' reason', ¬ services.Lacks fallback path' reason'
    · rw [outcome_resolveFileOr_of_lacks hprimary hfallback] at houtcome
      cases hlast : resolveFile services fallback fresh with
      | ok found last =>
        rw [hlast] at houtcome
        cases houtcome
        exact ⟨.file fallback, last, hlast⟩
      | error failure last =>
        rw [hlast] at houtcome
        cases houtcome
    · push Not at hfallback
      obtain ⟨path', reason', hfallback⟩ := hfallback
      rw [outcome_resolveFileOr_of_lacks_both hprimary hfallback] at houtcome
      cases houtcome

end Rune
