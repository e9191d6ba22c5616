import Rune.Proofs.Config.Segments
import Rune.Proofs.Number.Range

/-!
# Rune - queries with a default

A query with a default gives the value at a path in the type that is asked for, and the default
where there is no value or where it has another type.  Two things still stop it: digits in the
path that stand for no position of the array they are met in, and an integer that is asked for
as a floating point number but lies beyond all of them.

Main results:

- Relation {lit}`Value.Converts` says what a value is converted to.
- Theorem {lit}`Config.getOr_settled`: what a query with a default comes to, and when it is
  stopped.
-/

namespace Rune

namespace Value

/-! ## Conversions -/

/-- What a value is converted to: to the plain data that it is by itself if no type is expected,
and otherwise to plain data of the expected type, if it has that type.  A number is an integer if
its value is one, and an integer is rounded to a floating point number. -/
inductive Converts : Value → Option Expected → Plain → Prop
  | itself (value : Value) : Converts value none value.plain
  | value (value : Value) : Converts value (some (.value value.kind)) (.value value)
  | text (s : String) : Converts (.string s) (some .text) (.text s)
  | bool (flag : Bool) : Converts (.bool flag) (some .bool) (.bool flag)
  | int {n : Number} {i : Int} (h : n.extended? = some (.exact i)) :
      Converts (.number n) (some .int) (.number (.int i))
  | float (x : Binary64) : Converts (.number (.float x)) (some .float) (.number (.float x))
  | rounded {i : Int} {x : Binary64} (h : Binary64.ofInt? i = some x) :
      Converts (.number (.int i)) (some .float) (.number (.float x))
  | list (items : List Value) : Converts (.array items) (some .list) (.list (plainItems items))
  | tuple (items : List Value) : Converts (.array items) (some .tuple) (.tuple (plainItems items))
  | record (entries : Entries Value) :
      Converts (.object entries) (some .record) (.record (plainEntries entries))
  | pattern (p : Pattern) : Converts (.pattern p) (some .pattern) (.pattern p)

/-- A value is an integer that is asked for as a floating point number and lies beyond all of
them. -/
def Overflows (value : Value) (wanted : Option Expected) : Prop :=
  wanted = some .float ∧ ∃ i : Int, value = .number (.int i) ∧ Binary64.limit ≤ i.natAbs

variable {value : Value} {wanted : Option Expected} {plain : Plain}

/-- What is extracted as an expected type is what the value is converted to. -/
theorem Converts.of_extractAs {expected : Expected}
    (h : value.extractAs expected = .ok (some plain)) : value.Converts (some expected) plain := by
  cases expected with
  | value kind =>
    rw [extractAs, Except.ok.injEq] at h
    split at h
    · rename_i hkind
      cases h
      exact hkind ▸ .value value
    · cases h
  | int =>
    cases value with
    | number n =>
      rw [extractAs, Except.ok.injEq] at h
      obtain ⟨i, hi, rfl⟩ := Option.map_eq_some_iff.1 h
      exact .int (Number.toInt?_eq_some_iff.1 hi)
    | _ => cases h
  | float =>
    cases value with
    | number n =>
      cases n with
      | float x =>
        cases h
        exact .float x
      | int i =>
        rw [extractAs, Number.toFloat] at h
        cases hrounded : Binary64.ofInt? i with
        | none =>
          rw [hrounded] at h
          cases h
        | some x =>
          rw [hrounded] at h
          cases h
          exact .rounded hrounded
    | _ => cases h
  | foreign => cases h
  | _ =>
    -- The other types are those of one kind of values each.
    cases value <;> cases h
    constructor

/-- A value is extracted as what it is converted to. -/
theorem extract_eq_some_iff :
    value.extract wanted = .ok (some plain) ↔ value.Converts wanted plain := by
  constructor
  · intro h
    cases wanted with
    | none =>
      cases h
      exact .itself value
    | some expected => exact .of_extractAs h
  · intro h
    cases h with
    | value => exact congrArg Except.ok (if_pos rfl)
    | int hvalue => rw [extract, extractAs, Number.toInt?_eq_some_iff.2 hvalue]; rfl
    | rounded hrounded => rw [extract, extractAs, Number.toFloat, hrounded]; rfl
    | _ => rfl

/-- Extracting a value fails for integers that lie beyond all floating point numbers. -/
theorem extract_eq_error_iff :
    (∃ fault, value.extract wanted = .error fault) ↔ value.Overflows wanted := by
  constructor
  · rintro ⟨fault, h⟩
    cases wanted with
    | none => cases h
    | some expected =>
      cases expected with
      | float =>
        cases value with
        | number n =>
          cases n with
          | float x => cases h
          | int i =>
            refine ⟨rfl, i, rfl, Binary64.ofInt?_eq_none_iff.1 ?_⟩
            rw [extract, extractAs, Number.toFloat] at h
            cases hrounded : Binary64.ofInt? i with
            | none => rfl
            | some x =>
              rw [hrounded] at h
              cases h
        | _ => cases h
      | value | foreign => cases h
      | _ => cases value <;> cases h
  · rintro ⟨rfl, i, rfl, hbeyond⟩
    have hnone := Binary64.ofInt?_eq_none_iff.2 hbeyond
    exact ⟨_, by rw [extract, extractAs, Number.toFloat, hnone]; rfl⟩

/-- Nothing is extracted from a value that neither overflows nor is converted. -/
theorem extract_eq_none_iff : value.extract wanted = .ok none ↔
    ¬value.Overflows wanted ∧ ∀ plain, ¬value.Converts wanted plain := by
  simp only [← extract_eq_error_iff, ← extract_eq_some_iff]
  rcases value.extract wanted with fault | _ | plain <;> simp

end Value

/-! ## Queries with a default -/

namespace Config

variable {config : Config} {space : Namespace} {path : String}

/-- A path is refused in a namespace: it leads to an array, and there to digits that stand for no
position. -/
def Trips (config : Config) (space : Namespace) (path : String) : Prop :=
  Lookup.Trips (.object (config.values space)) (Key.path path)

/-- A path leads to a value in a namespace. -/
def Leads (config : Config) (space : Namespace) (path : String) (value : Value) : Prop :=
  Key.path path ≠ [] ∧ Lookup.Leads (.object (config.values space)) (Key.path path) value

/-- A query is refused exactly if its path is. -/
theorem find_eq_error_iff :
    (∃ fault, config.find space path = .error fault) ↔ config.Trips space path := by
  by_cases hpath : Key.path path = []
  · rw [find, Lookup.find, hpath, Trips, hpath]
    exact iff_of_false (by rintro ⟨_, ⟨⟩⟩) Lookup.not_trips_nil
  · rw [find, Lookup.find_eq_walk hpath]
    exact Lookup.walk_eq_error_iff

/-- A query finds what its path leads to. -/
theorem find_eq_some_iff {value : Value} :
    config.find space path = .ok (some value) ↔ config.Leads space path value := by
  by_cases hpath : Key.path path = []
  · rw [find, Lookup.find, hpath]
    exact iff_of_false (by rintro ⟨⟩) fun h => h.1 hpath
  · rw [find, Lookup.find_eq_walk hpath, Lookup.walk_eq_some_iff]
    exact (and_iff_right hpath).symm

/-- A query without an expected type gives nothing where nothing is found. -/
theorem getOptional_eq_absent_iff :
    config.getOptional space path none = .ok .absent ↔ config.find space path = .ok none := by
  rw [getOptional]
  rcases config.find space path with fault | _ | value
  · exact iff_of_false (by rintro ⟨⟩) (by rintro ⟨⟩)
  · exact iff_of_true rfl rfl
  · exact iff_of_false (by rintro ⟨⟩) (by rintro ⟨⟩)

/-- A query without an expected type gives the value that its path leads to. -/
theorem getOptional_eq_value_iff {value : Value} :
    config.getOptional space path none = .ok (.value value) ↔ config.Leads space path value := by
  rw [← find_eq_some_iff, getOptional]
  rcases config.find space path with fault | _ | found
  · exact iff_of_false (by rintro ⟨⟩) (by rintro ⟨⟩)
  · exact iff_of_false (by rintro ⟨⟩) (by rintro ⟨⟩)
  · constructor <;>
    · intro h
      cases h
      rfl

section Default

variable {default : Plain} {expected : Option Expected}

/-- A query with a default is stopped with its path or with the conversion. -/
theorem getOr_eq_error_iff :
    (∃ fault, config.getOr space path default expected = .error fault) ↔
      config.Trips space path ∨ ∃ value, config.Leads space path value ∧
        value.Overflows (expected.or (Expected.ofPlain? default)) := by
  simp only [← find_eq_error_iff, ← find_eq_some_iff, ← Value.extract_eq_error_iff, getOr]
  rcases config.find space path with fault | _ | value
  · simp [bind, Except.bind]
  · simp [bind, Except.bind, pure, Except.pure]
  · rcases hextract : value.extract (expected.or (Expected.ofPlain? default)) with fault | plain <;>
      simp [bind, Except.bind, pure, Except.pure, hextract]

/-- A query with a default gives what the value is converted to, or else the default. -/
theorem getOr_eq_ok_iff {answer : Plain} :
    config.getOr space path default expected = .ok answer ↔
      config.find space path = .ok none ∧ answer = default ∨
      ∃ value, config.Leads space path value ∧
        (value.extract (expected.or (Expected.ofPlain? default)) = .ok (some answer) ∨
          value.extract (expected.or (Expected.ofPlain? default)) = .ok none ∧
            answer = default) := by
  simp only [← find_eq_some_iff, getOr]
  rcases config.find space path with fault | _ | value
  · simp [bind, Except.bind]
  · simp [bind, Except.bind, pure, Except.pure, eq_comm]
  · rcases hextract : value.extract (expected.or (Expected.ofPlain? default)) with
      fault | _ | plain <;>
      simp [bind, Except.bind, pure, Except.pure, hextract, eq_comm]

/-- A query with a default is stopped where its path is refused, and where an integer is asked for
as a floating point number and lies beyond all of them.  Otherwise it gives what the value at the
path is converted to, and the default if there is no value or if it is not converted. -/
theorem getOr_settled (config : Config) (space : Namespace) (path : String) (default : Plain)
    (expected : Option Expected) :
    let wanted := expected.or (Expected.ofPlain? default)
    let optional := config.getOptional space path none
    let stopped := config.Trips space path ∨
      ∃ value, config.Leads space path value ∧ value.Overflows wanted
    ((∃ fault, config.getOr space path default expected = .error fault) ↔ stopped) ∧
    ∀ answer, config.getOr space path default expected = .ok answer ↔ ¬stopped ∧
      ((∃ value, optional = .ok (.value value) ∧ value.Converts wanted answer) ∨
        (answer = default ∧ (optional = .ok .absent ∨
          ∃ value, optional = .ok (.value value) ∧ ∀ plain, ¬value.Converts wanted plain))) := by
  intro wanted optional stopped
  refine ⟨getOr_eq_error_iff, fun answer => ?_⟩
  have hstopped : stopped ↔ ∃ fault, config.getOr space path default expected = .error fault :=
    getOr_eq_error_iff.symm
  constructor
  · intro h
    have hsettled : ¬stopped := by
      rw [hstopped, h]
      rintro ⟨_, ⟨⟩⟩
    refine ⟨hsettled, ?_⟩
    obtain ⟨habsent, hdefault⟩ | ⟨value, hvalue, hconverted | ⟨hnone, hdefault⟩⟩ :=
      getOr_eq_ok_iff.1 h
    · exact .inr ⟨hdefault, .inl (getOptional_eq_absent_iff.2 habsent)⟩
    · exact .inl ⟨value, getOptional_eq_value_iff.2 hvalue, Value.extract_eq_some_iff.1 hconverted⟩
    · exact .inr ⟨hdefault, .inr ⟨value, getOptional_eq_value_iff.2 hvalue,
        (Value.extract_eq_none_iff.1 hnone).2⟩⟩
  · rintro ⟨hsettled, ⟨value, hvalue, hconverts⟩ | ⟨hdefault, habsent | ⟨value, hvalue, hnone⟩⟩⟩
    · exact getOr_eq_ok_iff.2 (.inr ⟨value, getOptional_eq_value_iff.1 hvalue,
        .inl (Value.extract_eq_some_iff.2 hconverts)⟩)
    · exact getOr_eq_ok_iff.2 (.inl ⟨getOptional_eq_absent_iff.1 habsent, hdefault⟩)
    · have hleads := getOptional_eq_value_iff.1 hvalue
      exact getOr_eq_ok_iff.2 (.inr ⟨value, hleads, .inr ⟨Value.extract_eq_none_iff.2
        ⟨fun hoverflows => hsettled (.inr ⟨value, hleads, hoverflows⟩), hnone⟩, hdefault⟩⟩)

end Default

end Config

namespace Entry

open Session

/-- A superscript in an array stops a query, whatever its default. -/
theorem resolve_getOr_superscript :
    ∃ config after, (Entry.text none "x [1, 2]\n").resolve (.ofStore []) fresh = .ok config after ∧
      config.getOr .globals "x.²" (.number (.int 7)) none =
        .error (.badNumeral "invalid literal for int() with base 10: '²'") := by
  have hrun : (success? ((Entry.text none "x [1, 2]\n").resolve (.ofStore []) fresh)).map
      (fun result => match result.1.getOr .globals "x.²" (.number (.int 7)) none with
        | .error fault => some fault
        | .ok _ => none) =
      some (some (.badNumeral "invalid literal for int() with base 10: '²'")) := by
    decide +kernel
  obtain ⟨⟨config, after⟩, h, hquery⟩ := Option.map_eq_some_iff.1 hrun
  rw [success?_eq_some_iff] at h
  refine ⟨config, after, h, ?_⟩
  dsimp only at hquery
  cases hanswer : config.getOr .globals "x.²" (.number (.int 7)) none with
  | error fault =>
    rw [hanswer] at hquery
    exact congrArg Except.error (Option.some.inj hquery)
  | ok answer =>
    rw [hanswer] at hquery
    cases hquery

end Entry

end Rune
