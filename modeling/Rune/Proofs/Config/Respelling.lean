import Rune.Config.Query
import Rune.Proofs.Evaluation.Likewise
import Rune.Proofs.Failure

/-!
# Rune - questions in another spelling

A name may be respelled by writing hyphens for some of its underscores and underscores for
some of its hyphens.  Names are stored and looked up in their canonical spelling, which a
respelling does not change; nor does it change where a dotted path falls apart.  So a
configuration answers a question about a path as it answers it about a respelled path, and
so does another configuration with the same values and locations of the same bindings.

Main results:

- Relation {lit}`Key.Respells` says when one name is another one respelled, and
  {lit}`Key.respells_iff`: exactly if their canonical spellings are the same.
- Theorem {lit}`Key.Respells.path_eq`: a respelled path leads through the same keys.
- Theorem {lit}`Config.Like.answers`: respelled questions to configurations with the same
  bindings have the same answers.
-/

namespace Rune

/-! ## Names -/

namespace Key

/-- One name is another one with some hyphens and underscores exchanged. -/
def Respells (name name' : String) : Prop :=
  List.Forall₂ (fun c d => d = c ∨ c = '-' ∧ d = '_' ∨ c = '_' ∧ d = '-') name.toList name'.toList

/-- Respelling does not change the canonical spelling, and names with one canonical spelling
are respellings of each other. -/
theorem respells_iff {name name' : String} :
    Respells name name' ↔ canonical name' = canonical name := by
  have hchar (c d : Char) : (d = c ∨ c = '-' ∧ d = '_' ∨ c = '_' ∧ d = '-') ↔
      canonicalChar c = canonicalChar d := by
    unfold canonicalChar
    split <;> split <;> simp_all [eq_comm]
  simp only [Respells, hchar, canonical, String.ofList_inj]
  rw [eq_comm, ← List.forall₂_eq_eq_eq, List.forall₂_map_left_iff, List.forall₂_map_right_iff]

/-- A path falls apart where its canonical spelling does. -/
theorem splitDots_map (chars : List Char) :
    splitDots (chars.map canonicalChar) = (splitDots chars).map (List.map canonicalChar) := by
  have hdot (c : Char) : canonicalChar c = '.' ↔ c = '.' := by
    unfold canonicalChar
    split <;> simp_all
  induction chars with
  | nil => rfl
  | cons c chars ih =>
    simp only [List.map_cons, splitDots, hdot, ih]
    split
    · rfl
    · cases splitDots chars <;> rfl

/-- The keys of a path depend on its canonical spelling alone. -/
theorem path_canonical (text : String) : path (canonical text) = path text := by
  have hchar (c : Char) : canonicalChar (canonicalChar c) = canonicalChar c := by
    unfold canonicalChar
    split <;> simp_all
  simp only [path, canonical, String.toList_ofList, splitDots_map, List.filter_map, List.map_map]
  simp [Function.comp_def, hchar]

theorem Respells.path_eq {path path' : String} (h : Respells path path') :
    Key.path path' = Key.path path := by
  rw [← path_canonical path', respells_iff.1 h, path_canonical]

end Key

/-! ## Questions -/

/-- Two configurations answer questions about two paths alike: with the same value, the same
keys and the location of the same binding, or with complaints of one kind. -/
structure Config.AnswersLike (config config' : Config) (space : Namespace) (path path' : String) :
    Prop where
  value : Except.Rel (Failure.Alike Diagnostic.SameCode) (· = ·) (config.value space path)
    (config'.value space path')
  has_eq : config'.has space path' = config.has space path
  keys : Except.Rel (Failure.Alike Diagnostic.SameCode) (· = ·) (config.keys space path)
    (config'.keys space path')
  nearest? : Option.Rel
    (fun location location' => ∃ place, Entries.get? place config.locations = some location ∧
      Entries.get? place config'.locations = some location')
    (config.nearest? space path) (config'.nearest? space path')

namespace Config

/-- A complaint about a path is of the kind that it is made with, wherever it points. -/
theorem code_diagnose (config : Config) (space : Namespace) (path : String)
    (complaint : Complaint) :
    (config.diagnose space path complaint).code = complaint.spec.code := by
  unfold diagnose
  cases config.nearest? space path <;> rfl

namespace Like

variable {config config' : Config} {path path' : String}

theorem values_eq (h : config.Like config') (space : Namespace) :
    config'.values space = config.values space := by
  cases space with
  | globals => exact h.globals_eq
  | items => exact h.items_eq
  | metadata => exact h.metadata_eq

theorem find_eq (h : config.Like config') (space : Namespace) (hpath : Key.Respells path path') :
    config'.find space path' = config.find space path := by
  unfold find Lookup.find
  rw [hpath.path_eq, h.values_eq]

theorem value (h : config.Like config') (space : Namespace) (hpath : Key.Respells path path') :
    Except.Rel (Failure.Alike Diagnostic.SameCode) (· = ·) (config.value space path)
      (config'.value space path') := by
  unfold Config.value
  rw [h.find_eq space hpath]
  cases config.find space path with
  | error fault => exact .error (.fault fault)
  | ok found =>
    cases found with
    | some value => exact .ok rfl
    | none =>
      refine .error (.queryNotFound ?_ path path')
      simp only [Diagnostic.SameCode, code_diagnose]
      rfl

theorem keys (h : config.Like config') (space : Namespace) (hpath : Key.Respells path path') :
    Except.Rel (Failure.Alike Diagnostic.SameCode) (· = ·) (config.keys space path)
      (config'.keys space path') := by
  have hvalue := h.value space hpath
  unfold Config.keys
  rw [hpath.path_eq, h.values_eq]
  generalize config.value space path = result at hvalue ⊢
  generalize config'.value space path' = result' at hvalue ⊢
  split
  · exact .ok rfl
  cases hvalue with
  | error hfailure => exact .error hfailure
  | @ok value _ heq =>
    cases heq
    cases value with
    | object entries => exact .ok rfl
    | _ =>
      refine .error (.queryType ?_ path path')
      simp only [Diagnostic.SameCode, code_diagnose]
      rfl

/-- The same bindings have a location. -/
theorem nearestFrom (h : config.Like config') (space : Namespace) (outer : List String) :
    Option.Rel
      (fun location location' => ∃ place, Entries.get? place config.locations = some location ∧
        Entries.get? place config'.locations = some location')
      (nearestFrom config.locations space outer) (nearestFrom config'.locations space outer) := by
  induction outer with
  | nil => exact .none
  | cons key outer ih =>
    unfold Config.nearestFrom
    obtain ⟨hnone, hnone'⟩ | ⟨location, location', hfound, hfound'⟩ :=
      Entries.get?_cases_of_keys_eq h.places_eq ⟨space, (key :: outer).reverse⟩
    · rwa [hnone, hnone']
    · rw [hfound, hfound']
      exact .some ⟨_, hfound, hfound'⟩

/-- Questions about a path and about the path respelled have the same answers. -/
theorem answers (h : config.Like config') (space : Namespace) (hpath : Key.Respells path path') :
    config.AnswersLike config' space path path' where
  value := h.value space hpath
  has_eq := by rw [Config.has, Config.has, h.find_eq space hpath]
  keys := h.keys space hpath
  nearest? := by
    unfold Config.nearest?
    rw [hpath.path_eq]
    exact h.nearestFrom space _

end Like

end Config

end Rune
