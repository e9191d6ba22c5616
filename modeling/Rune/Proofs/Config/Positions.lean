import Rune.Config.Query
import Rune.Proofs.Evaluation.Contents

/-!
# Rune - positions in a configuration

A position in a value is a list of steps: keys of objects and positions of items.  Written one
after another with dots between them the steps make up a path, and if the value is keyed,
this path leads to the position and to no other one.  In the exported data the same steps
lead to what the value there is exported as.

Main results:

- Definition {lit}`Value.Keyed` says that paths find the keys of a value, and
  {lit}`Config.Keyed` says it of a configuration.
- Relation {lit}`Value.Leads` says where steps lead.
- Theorems {lit}`Value.Leads.walk_eq` and {lit}`Value.Leads.datum_walk?`: a path and an export
  follow the steps.
- Theorem {lit}`Config.Keyed.value_eq`: the value of a configuration at the path of a position.
-/

namespace Rune

/-! ## Keys that paths find -/

/-- Any numbers, and keys that are found again in dotted paths. -/
def Material.keyed : Material := ⟨fun _ => True, Key.IsKey⟩

/-- Every object in a value has different keys, which dotted paths find again. -/
abbrev Value.Keyed (value : Value) : Prop := value.BuiltFrom .keyed

/-- All namespaces of a configuration are keyed. -/
abbrev Config.Keyed (config : Config) : Prop := config.BuiltFrom .keyed

/-- Every document gives keys that dotted paths find again. -/
theorem Source.keyed_of_parse {source : Source} {document : Document}
    (h : source.parse = .ok document) : document.BuiltFrom .keyed :=
  ⟨isKey_of_parse h, fun _ _ _ _ _ => trivial⟩

/-! ## Steps -/

/-- One step down a value or exported data. -/
inductive Step where
  | key (name : String)
  | index (position : Nat)
  deriving DecidableEq

namespace Step

/-- The segment that a step is written as. -/
def segment : Step → String
  | key name => name
  | index position => toString position

/-- The path that steps are written as. -/
def path (steps : List Step) : String := ".".intercalate (steps.map segment)

/-- Integers with more digits are not read.  No array that there is has a position with so
many digits. -/
def IsReadable : Step → Prop
  | key _ => True
  | index position => (toString position).length ≤ Numeral.maxDigits

instance : DecidablePred IsReadable
  | key _ => inferInstanceAs (Decidable True)
  | index position => inferInstanceAs (Decidable ((toString position).length ≤ Numeral.maxDigits))

end Step

/-- Steps lead from a value to a part of it. -/
inductive Value.Leads : Value → List Step → Value → Prop
  | here (value : Value) : Leads value [] value
  | key {entries : Entries Value} {name : String} {next found : Value} {steps : List Step}
      (hentry : (name, next) ∈ entries) (hnext : Leads next steps found) :
    Leads (.object entries) (.key name :: steps) found
  | index {items : List Value} {position : Nat} {next found : Value} {steps : List Step}
      (hitem : items[position]? = some next) (hnext : Leads next steps found) :
    Leads (.array items) (.index position :: steps) found

namespace Datum

/-- The part of exported data that a step leads to. -/
def child? : Step → Datum → Option Datum
  | .key name, .record entries => Entries.get? name entries
  | .index position, .list items => items[position]?
  | _, _ => none

/-- The part of exported data that steps lead to. -/
def walk? : List Step → Datum → Option Datum
  | [], datum => some datum
  | step :: steps, datum => (datum.child? step).bind (walk? steps)

end Datum

/-! ## Where steps lead -/

namespace Value

/-- The keys of an object are exported in their order. -/
theorem keys_datumEntries (entries : Entries Value) :
    Entries.keys (datumEntries entries) = Entries.keys entries := by
  rw [datumEntries_eq_map, Entries.keys, List.map_map]
  rfl

namespace Leads

variable {value found : Value} {steps : List Step}

/-- The steps in a keyed value are written as segments in canonical spelling. -/
theorem isKey (h : value.Leads steps found) (hkeyed : value.Keyed) :
    ∀ step ∈ steps, Key.IsKey step.segment := by
  induction h with
  | here => exact nofun
  | key hentry _ ih =>
    have hentries := builtFrom_object_iff.1 hkeyed
    exact List.forall_mem_cons.2
      ⟨hentries.isKey _ (List.mem_map_of_mem hentry), ih (hentries.values _ hentry)⟩
  | @index items position next _ _ hitem _ ih =>
    cases hkeyed with
    | array hitems =>
      exact List.forall_mem_cons.2
        ⟨⟨Key.isSegment_toString position, Key.canonical_toString position⟩,
          ih (hitems next (List.mem_of_getElem? hitem))⟩

/-- The segments of the steps in a keyed value are followed to where the steps lead. -/
theorem walk_eq (h : value.Leads steps found) (hkeyed : value.Keyed)
    (hread : ∀ step ∈ steps, step.IsReadable) :
    Lookup.walk (steps.map Step.segment) value = .ok (some found) := by
  induction h with
  | here => rfl
  | @key entries name next _ _ hentry _ ih =>
    have hentries := builtFrom_object_iff.1 hkeyed
    have hchild : Lookup.child name (.object entries) = .ok (some next) :=
      congrArg Except.ok (Entries.get?_of_mem hentries.nodup hentry)
    rw [List.map_cons, Lookup.walk, Step.segment, hchild]
    exact ih (hentries.values _ hentry) (List.forall_mem_cons.1 hread).2
  | @index items position next _ _ hitem _ ih =>
    cases hkeyed with
    | array hitems =>
      obtain ⟨hposition, hrest⟩ := List.forall_mem_cons.1 hread
      rw [List.map_cons, Lookup.walk, Step.segment, Lookup.child_toString hposition, hitem]
      exact ih (hitems next (List.mem_of_getElem? hitem)) hrest

/-- In what a keyed value is exported as, the same steps lead to what the part is exported
as. -/
theorem datum_walk? (h : value.Leads steps found) (hkeyed : value.Keyed) :
    value.datum.walk? steps = some found.datum := by
  induction h with
  | here => rfl
  | @key entries name next _ _ hentry _ ih =>
    have hentries := builtFrom_object_iff.1 hkeyed
    have hchild : (Value.object entries).datum.child? (.key name) = some next.datum := by
      rw [datum, Datum.child?, datumEntries_eq_map, Entries.get?_mapValues,
        Entries.get?_of_mem hentries.nodup hentry]
      rfl
    rw [Datum.walk?, hchild]
    exact ih (hentries.values _ hentry)
  | @index items position next _ _ hitem _ ih =>
    cases hkeyed with
    | array hitems =>
      have hchild : (Value.array items).datum.child? (.index position) = some next.datum := by
        rw [datum, Datum.child?, datumItems_eq_map, List.getElem?_map, hitem]
        rfl
      rw [Datum.walk?, hchild]
      exact ih (hitems next (List.mem_of_getElem? hitem))

/-- Steps in one value that are written with the same segments are the same. -/
theorem unique (h : value.Leads steps found) (hkeyed : value.Keyed) {steps' : List Step}
    {found' : Value} (h' : value.Leads steps' found')
    (hsame : steps'.map Step.segment = steps.map Step.segment) : steps' = steps := by
  induction h generalizing steps' found' with
  | here => exact List.map_eq_nil_iff.1 hsame
  | @key entries name next _ _ hentry _ ih =>
    have hentries := builtFrom_object_iff.1 hkeyed
    cases h' with
    | here => cases hsame
    | @key _ name' _ _ _ hentry' hnext' =>
      obtain ⟨hname, hrest⟩ := List.cons.inj hsame
      obtain rfl : name' = name := hname
      have hsecond := Entries.get?_of_mem hentries.nodup hentry'
      rw [Entries.get?_of_mem hentries.nodup hentry] at hsecond
      obtain rfl := Option.some.inj hsecond
      rw [ih (hentries.values _ hentry) hnext' hrest]
  | @index items position next _ _ hitem _ ih =>
    cases hkeyed with
    | array hitems =>
      cases h' with
      | here => cases hsame
      | @index _ position' _ _ _ hitem' hnext' =>
        obtain ⟨hposition, hrest⟩ := List.cons.inj hsame
        obtain rfl : position' = position := Numeral.toString_injective hposition
        obtain rfl := Option.some.inj (hitem.symm.trans hitem')
        rw [ih (hitems next (List.mem_of_getElem? hitem)) hnext' hrest]

end Leads

end Value

/-! ## Positions in a configuration -/

/-- A path with segments is followed from a namespace as from an object. -/
theorem Lookup.find_eq_walk {entries : Entries Value} {path : String} (h : Key.path path ≠ []) :
    find entries path = walk (Key.path path) (.object entries) := by
  unfold find
  cases hpath : Key.path path with
  | nil => exact absurd hpath h
  | cons first segments =>
    rw [walk, child]
    dsimp only
    cases Entries.get? first entries <;> rfl

namespace Config

variable {config : Config} {space : Namespace} {path : String}

theorem value_of_find {found : Value} (h : config.find space path = .ok (some found)) :
    config.value space path = .ok found := by
  rw [value, h]
  rfl

namespace Keyed

variable (hkeyed : config.Keyed) {steps : List Step} {found : Value}
  (h : (Value.object (config.values space)).Leads steps found)
include hkeyed h

/-- The segments of a position are found again in its path. -/
theorem path_eq : Key.path (Step.path steps) = steps.map Step.segment := by
  have hkeys := h.isKey (Value.builtFrom_object_iff.2 (hkeyed space))
  have hcanonical : ∀ segment ∈ steps.map Step.segment, Key.canonical segment = segment :=
    List.forall_mem_map.2 fun step hstep => (hkeys step hstep).canonical_eq
  rw [Step.path, Key.path_intercalate (List.forall_mem_map.2 fun step hstep =>
    (hkeys step hstep).toIsSegment), List.map_congr_left hcanonical, List.map_id']

/-- The value at the path of a position is the value there. -/
theorem value_eq (hsteps : steps ≠ []) (hread : ∀ step ∈ steps, step.IsReadable) :
    config.value space (Step.path steps) = .ok found := by
  have hpath := hkeyed.path_eq h
  have hnonempty : Key.path (Step.path steps) ≠ [] := by
    rw [hpath]
    simpa using hsteps
  refine value_of_find ?_
  rw [find, Lookup.find_eq_walk hnonempty, hpath]
  exact h.walk_eq (Value.builtFrom_object_iff.2 (hkeyed space)) hread

/-- Other positions have other paths. -/
theorem eq_of_path_eq {steps' : List Step} {found' : Value}
    (h' : (Value.object (config.values space)).Leads steps' found')
    (hsame : Step.path steps' = Step.path steps) : steps' = steps := by
  refine h.unique (Value.builtFrom_object_iff.2 (hkeyed space)) h' ?_
  rw [← hkeyed.path_eq h, ← hkeyed.path_eq h', hsame]

/-- In the exported configuration the steps of a position lead to what its value is exported
as. -/
theorem document_walk? :
    config.document.walk? (.key space.name :: steps) = some found.datum := by
  have hspace : config.document.child? (.key space.name) =
      some (Value.object (config.values space)).datum := by
    cases space <;> rfl
  rw [Datum.walk?, hspace]
  exact h.datum_walk? (Value.builtFrom_object_iff.2 (hkeyed space))

end Keyed

/-- The keys of an object at a path. -/
theorem keys_of_value {entries : Entries Value} (hpath : Key.path path ≠ [])
    (h : config.value space path = .ok (.object entries)) :
    config.keys space path = .ok (Entries.keys entries) := by
  rw [keys, if_neg hpath, h]
  rfl

end Config

end Rune
