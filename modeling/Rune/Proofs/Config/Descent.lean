import Rune.Proofs.Config.Positions
import Rune.Proofs.Evaluation.Lookup

/-!
# Rune - going down by names

A dotted reference goes down a value key by key, and a query follows the segments of its
path.  A name is never taken for the position of an item, so both find the same.

Main results:

- Theorem {lit}`Lookup.walk_eq_descend`: following names is going down by them.
- Theorem {lit}`Config.find_intercalate`: what a path of names finds in a namespace.
- Definition {lit}`Config.home` is the namespace in which a gathered configuration has a name.
-/

namespace Rune

/-! ## Names as segments -/

namespace IsIdentifier

variable {name : String}

theorem isSegment (h : IsIdentifier name) : Key.IsSegment name := by
  obtain ⟨first, more, hname, hspells⟩ := h.exists_spells
  exact hspells.isSegment hname

/-- A name is not the position of an item. -/
theorem isIndex_canonical (h : IsIdentifier name) :
    Lookup.isIndex (Key.canonical name) = false := by
  obtain ⟨first, more, hname, hspells⟩ := h.exists_spells
  have hfirst : Unicode.isDigit (Key.canonicalChar first) = false := by
    rw [Key.canonicalChar, if_neg hspells.plain.ne_minus]
    exact hspells.plain.not_digit
  simp [Lookup.isIndex, Key.canonical, hname, hfirst]

end IsIdentifier

namespace Lookup

/-- The segment of a name leads to the member of that name. -/
theorem child_canonical {name : String} (h : IsIdentifier name) (value : Value) :
    child (Key.canonical name) value = .ok (value.member? name) := by
  cases value with
  | object entries => rfl
  | array items => simp [child, h.isIndex_canonical, Value.member?]
  | _ => rfl

open Evaluation in
/-- Names are followed from a value as a dotted reference goes down it. -/
theorem walk_eq_descend {names : List String} (h : ∀ name ∈ names, IsIdentifier name)
    (segments walked : List String) (value : Value) :
    walk (names.map Key.canonical) value =
      .ok (descend segments walked names value).toOption := by
  induction names generalizing walked value with
  | nil => rfl
  | cons name names ih =>
    rw [List.forall_mem_cons] at h
    rw [List.map_cons, walk, child_canonical h.1, descend]
    cases value.member? name with
    | some next => exact ih h.2 _ next
    | none => rfl

end Lookup

/-! ## Queries -/

namespace Config

variable {config : Config} {space : Namespace} {path : String}

/-- A path of names finds what its first name has, and goes down from there. -/
theorem find_intercalate (config : Config) (space : Namespace) {first : String}
    {rest : List String} (h : ∀ name ∈ first :: rest, IsIdentifier name)
    (segments walked : List String) :
    config.find space (".".intercalate (first :: rest)) =
      .ok ((Entries.get? (Key.canonical first) (config.values space)).bind fun value =>
        (Evaluation.descend segments walked rest value).toOption) := by
  rw [find, Lookup.find, Key.path_intercalate fun name hname => (h name hname).isSegment,
    List.map_cons]
  dsimp only
  cases Entries.get? (Key.canonical first) (config.values space) with
  | none => rfl
  | some value => exact Lookup.walk_eq_descend (List.forall_mem_cons.1 h).2 segments walked value

/-- A query gives the value that is found. -/
theorem value_eq_ok_iff {value : Value} :
    config.value space path = .ok value ↔ config.find space path = .ok (some value) := by
  unfold Config.value
  rcases config.find space path with fault | found
  · exact ⟨nofun, nofun⟩
  · cases found with
    | none => exact ⟨nofun, nofun⟩
    | some found =>
      constructor <;>
      · intro h
        cases h
        rfl

/-- A query complains about a path that is not found. -/
theorem value_eq_queryNotFound_iff :
    (∃ diagnostic shown, config.value space path = .error (.queryNotFound diagnostic shown)) ↔
      config.find space path = .ok none := by
  unfold Config.value
  rcases config.find space path with fault | found
  · exact ⟨nofun, nofun⟩
  · cases found with
    | none => exact iff_of_true ⟨_, _, rfl⟩ rfl
    | some found => exact ⟨nofun, nofun⟩

/-- The namespace in which a gathered configuration has a name: that of the items if it has an
item of that name. -/
def home (config : Config) (name : String) : Namespace :=
  if Entries.contains (Key.canonical name) config.items then .items else .globals

/-- What a dotted reference finds in a gathered configuration. -/
theorem member?_eq (config : Config) (name : String) :
    config.member? name = Entries.get? (Key.canonical name) (config.values (config.home name)) := by
  unfold member? home Entries.contains
  cases h : Entries.get? (Key.canonical name) config.items <;> simp [values, h]

end Config

end Rune
