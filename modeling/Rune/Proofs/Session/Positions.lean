import Rune.Proofs.Config.Positions
import Rune.Proofs.Session.Contents

/-!
# Rune - positions in what is resolved

Whatever is resolved, a text or a file, and whatever it gathers: the keys of the
configuration are names of documents, so every position in it has a path that leads there,
and the export has the same positions.

Main results:

- Theorem {lit}`Entry.keyed_of_resolve`: what is resolved is keyed.
- Theorem {lit}`Entry.resolve_positions`: what the positions of a configuration have at their
  paths and in the export.
-/

namespace Rune

namespace Entry

open Session

variable {services : Services} {entry : Entry} {config : Config} {after : Session}

/-- The configuration that an entry resolves to is keyed. -/
theorem keyed_of_resolve (h : entry.resolve services fresh = .ok config after) : config.Keyed :=
  builtFrom_of_resolve Source.keyed_of_parse h

/-- The positions of a configuration.  A namespace is exported with its keys in their order.
Steps that lead to a value are written as a path at which the value is found, and which no
other position has; they lead to the same place in the export; and if the value is an object,
the keys at the path are its keys and those of the exported record, in one order. -/
theorem resolve_positions (h : entry.resolve services fresh = .ok config after)
    (space : Namespace) :
    (∃ record, config.document.walk? [.key space.name] = some (.record record) ∧
      config.keys space "" = .ok (Entries.keys record)) ∧
    ∀ steps found, steps ≠ [] → (Value.object (config.values space)).Leads steps found →
      config.document.walk? (.key space.name :: steps) = some found.datum ∧
      (∀ steps' found', (Value.object (config.values space)).Leads steps' found' →
        Step.path steps' = Step.path steps → steps' = steps) ∧
      ((∀ step ∈ steps, step.IsReadable) →
        config.value space (Step.path steps) = .ok found ∧
        ∀ entries, found = .object entries → ∃ record, found.datum = .record record ∧
          config.keys space (Step.path steps) = .ok (Entries.keys record) ∧
          Entries.keys record = Entries.keys entries) := by
  have hkeyed := keyed_of_resolve h
  constructor
  · refine ⟨_, hkeyed.document_walk? (.here _), ?_⟩
    rw [Value.keys_datumEntries]
    rfl
  · intro steps found hsteps hleads
    refine ⟨hkeyed.document_walk? hleads, fun _ _ => hkeyed.eq_of_path_eq hleads, fun hread => ?_⟩
    have hvalue := hkeyed.value_eq hleads hsteps hread
    refine ⟨hvalue, ?_⟩
    rintro entries rfl
    have hpath : Key.path (Step.path steps) ≠ [] := by
      rw [hkeyed.path_eq hleads]
      simpa using hsteps
    refine ⟨_, rfl, ?_, Value.keys_datumEntries entries⟩
    rw [Value.keys_datumEntries]
    exact Config.keys_of_value hpath hvalue

/-- Entries of one block with one field, an array whose second item holds one truth value. -/
def isNested : Entries Value → Bool
  | [("k", .object [("log_level", .array [_, .array [.bool true]])])] => true
  | _ => false

/-- A position behind two keys and two arrays, in a module that is included. -/
theorem resolve_positions_nested :
    let services := Services.ofStore [("/m", "k:\n  log-level [1, [true]]\nend\n")]
    let entry := Entry.text none "gather \"m\"\n"
    let steps : List Step := [.key "k", .key "log_level", .index 1, .index 0]
    ∃ config after, entry.resolve services fresh = .ok config after ∧ steps ≠ [] ∧
      (Value.object (config.values .items)).Leads steps (.bool true) ∧
      (∀ step ∈ steps, step.IsReadable) ∧
      config.value .items "k.log_level.1.0" = .ok (.bool true) ∧
      config.document.walk? (.key "items" :: steps) = some (.bool true) := by
  intro services entry steps
  have hrun : (success? (entry.resolve services fresh)).map (fun result =>
      isNested result.1.items) = some true := by
    decide +kernel
  obtain ⟨⟨config, after⟩, h, hitems⟩ := Option.map_eq_some_iff.1 hrun
  rw [success?_eq_some_iff] at h
  unfold isNested at hitems
  split at hitems
  case h_2 => cases hitems
  case h_1 heq =>
    have hleads : (Value.object (config.values .items)).Leads steps (.bool true) := by
      rw [Config.values, heq]
      exact .key List.mem_cons_self (.key List.mem_cons_self (.index rfl (.index rfl (.here _))))
    have hread : ∀ step ∈ steps, step.IsReadable := by decide +kernel
    obtain ⟨hwalk, -, hquery⟩ := (resolve_positions h .items).2 steps _ (by simp [steps]) hleads
    exact ⟨config, after, h, by simp [steps], hleads, hread, (hquery hread).1, hwalk⟩

end Entry

end Rune
