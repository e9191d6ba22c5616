import Rune.Config.Lookup
import Rune.Config.Basic
import Rune.Proofs.Entries

/-!
# Rune - layouts

A layout lists the bindings of a block one after another, as they were evaluated: each with
its location, and a block with the layout inside it.  A key may be bound again.  Then the last
binding counts, and the earlier one is replaced with all that is in it.

A layout gives values, and it gives records: the path and the location of every binding, of
the replaced ones too.  Both are kept by key, the values object by object and the records by
whole paths.  So a record survives in a replaced block, where no later record has its path.

Main results:

- Types {lit}`Laid` and {lit}`Layout`, with {lit}`Layout.values` and {lit}`Layout.records`.
- Definitions {lit}`Layout.Live` and {lit}`Layout.Replaced` say which bindings count.
- Theorems {lit}`Layout.Live.walk_eq` and {lit}`Layout.Live.record?_eq`: at the path of a live
  binding are its value and its location.
- Theorem {lit}`Layout.live_or_replaced`: a record is that of a live binding, or it stands in a
  replaced one.
-/

namespace Rune

/-- A binding that was evaluated, with its location: a field with its value, or a block with
the bindings inside it. -/
inductive Laid where
  | field (location : Location) (value : Value)
  | block (location : Location) (inner : List (String × Laid))

/-- Bindings one after another. -/
abbrev Layout := List (String × Laid)

namespace Laid

/-- Where a binding stands. -/
def location : Laid → Location
  | .field location _ => location
  | .block location _ => location

/-- The bindings inside a block. -/
def inner : Laid → Layout
  | .field _ _ => []
  | .block _ inner => inner

end Laid

/-- The records of what is under a key. -/
def Layout.prefixed (key : String) (records : List (List String × Location)) :
    List (List String × Location) :=
  records.map fun record => (key :: record.1, record.2)

mutual

/-- What a binding comes to. -/
def Laid.value : Laid → Value
  | .field _ value => value
  | .block _ inner => .object (Entries.ofList (Layout.values inner))

/-- The values of bindings, one after another. -/
def Layout.values : Layout → List (String × Value)
  | [] => []
  | (key, laid) :: rest => (key, laid.value) :: Layout.values rest

end

mutual

/-- The records of the bindings inside a binding. -/
def Laid.records : Laid → List (List String × Location)
  | .field _ _ => []
  | .block _ inner => Layout.records inner

/-- The path and the location of every binding in a layout, replaced ones included. -/
def Layout.records : Layout → List (List String × Location)
  | [] => []
  | (key, laid) :: rest =>
    ([key], laid.location) :: (Layout.prefixed key laid.records ++ Layout.records rest)

end

@[simp] theorem Laid.records_eq (laid : Laid) : laid.records = laid.inner.records := by
  cases laid <;> simp [Laid.records, Laid.inner, Layout.records]

namespace Layout

variable {layout : Layout} {key : String} {path : List String} {laid : Laid}

/-- The last binding of a key. -/
def last? (key : String) (layout : Layout) : Option Laid := Entries.get? key layout.reverse

/-- The last record of a path. -/
def record? (path : List String) (layout : Layout) : Option Location :=
  Entries.get? path layout.records.reverse

/-- The binding at a path that counts: the last one of its key, in a block that counts. -/
inductive Live : Layout → List String → Laid → Prop
  | here {layout : Layout} {key : String} {laid : Laid} : layout.last? key = some laid →
      Live layout [key] laid
  | inside {layout : Layout} {key : String} {path : List String} {laid live : Laid} :
      layout.last? key = some laid → Live laid.inner path live → Live layout (key :: path) live

/-- There is a binding at a path inside a binding that is replaced: its key is bound again, in
a block that counts. -/
inductive Replaced : Layout → List String → Prop
  | here {before after : Layout} {key : String} {path : List String} {laid : Laid} :
      key ∈ Entries.keys after → path ∈ Entries.keys laid.inner.records →
      Replaced (before ++ (key, laid) :: after) (key :: path)
  | inside {layout : Layout} {key : String} {path : List String} {laid : Laid} :
      layout.last? key = some laid → Replaced laid.inner path → Replaced layout (key :: path)

/-! ## Values and records of several layouts -/

theorem values_eq_map (layout : Layout) : layout.values = layout.map fun e => (e.1, e.2.value) := by
  induction layout with
  | nil => rfl
  | cons e layout ih => rw [values, ih, List.map_cons]

theorem values_append (a b : Layout) : values (a ++ b) = values a ++ values b := by
  simp only [values_eq_map, List.map_append]

/-- The value that counts for a key is that of its last binding. -/
theorem get?_values_reverse (key : String) (layout : Layout) :
    Entries.get? key layout.values.reverse = (layout.last? key).map Laid.value := by
  rw [values_eq_map, ← List.map_reverse, Entries.get?_mapValues, last?]

theorem records_append (a b : Layout) : records (a ++ b) = records a ++ records b := by
  induction a with
  | nil => rfl
  | cons e a ih => simp [records, ih]

/-- The last binding of a key in one layout after another. -/
theorem last?_append (key : String) (a b : Layout) :
    last? key (a ++ b) = (last? key b).or (last? key a) := by
  rw [last?, List.reverse_append, Entries.get?_append, last?, last?]

/-- The last record of a path in one layout after another. -/
theorem record?_append (path : List String) (a b : Layout) :
    record? path (a ++ b) = (record? path b).or (record? path a) := by
  rw [record?, records_append, List.reverse_append, Entries.get?_append, record?, record?]

/-! ## Look-up among records -/

/-- Records under a key are found by the rest of their paths. -/
theorem get?_prefixed (key : String) (path : List String)
    (records : List (List String × Location)) :
    Entries.get? (key :: path) (prefixed key records) = Entries.get? path records := by
  induction records with
  | nil => rfl
  | cons record records ih =>
    by_cases h : record.1 = path <;> simp_all [prefixed, Entries.get?]

/-- A record stands at a binding of its first key, or inside one. -/
theorem cons_mem_keys_records {layout : Layout} {key : String} {path : List String} :
    key :: path ∈ Entries.keys layout.records ↔
      ∃ laid, (key, laid) ∈ layout ∧ (path = [] ∨ path ∈ Entries.keys laid.inner.records) := by
  induction layout with
  | nil => simp [records, Entries.keys]
  | cons e layout ih =>
    obtain ⟨name, first⟩ := e
    simp only [Entries.keys, List.mem_map] at ih
    simp only [records, Entries.keys, prefixed, Laid.records_eq, List.map_cons, List.map_append,
      List.map_map, List.mem_cons, List.mem_append, List.mem_map, Function.comp_apply, ih,
      List.cons.injEq, Prod.mk.injEq]
    constructor
    · rintro (⟨rfl, rfl⟩ | ⟨record, hrecord, rfl, rfl⟩ | ⟨laid, hlaid, hpath⟩)
      · exact ⟨first, .inl ⟨rfl, rfl⟩, .inl rfl⟩
      · exact ⟨first, .inl ⟨rfl, rfl⟩, .inr ⟨record, hrecord, rfl⟩⟩
      · exact ⟨laid, .inr hlaid, hpath⟩
    · rintro ⟨laid, ⟨rfl, rfl⟩ | hlaid, hpath⟩
      · rcases hpath with rfl | ⟨record, hrecord, rfl⟩
        · exact .inl ⟨rfl, rfl⟩
        · exact .inr (.inl ⟨record, hrecord, rfl, rfl⟩)
      · exact .inr (.inr ⟨laid, hlaid, hpath⟩)

/-- No path is empty. -/
theorem nil_not_mem_keys_records (layout : Layout) : [] ∉ Entries.keys layout.records := by
  induction layout with
  | nil => simp [records, Entries.keys]
  | cons e layout ih =>
    simpa [records, Entries.keys, prefixed] using ih

/-- A path has a last record if it has one at all. -/
theorem isSome_record?_iff {layout : Layout} {path : List String} :
    (layout.record? path).isSome ↔ path ∈ Entries.keys layout.records := by
  have h : Entries.contains path layout.records.reverse = true ↔
      path ∈ Entries.keys layout.records.reverse := Entries.contains_iff_mem_keys
  simpa [record?, Entries.contains, Entries.keys] using h

theorem record?_nil (layout : Layout) : layout.record? [] = none := by
  rw [← Option.not_isSome_iff_eq_none, isSome_record?_iff]
  exact nil_not_mem_keys_records layout

/-- Where a key is not bound nothing is recorded. -/
theorem record?_eq_none {layout : Layout} {key : String} (h : key ∉ Entries.keys layout)
    (path : List String) : layout.record? (key :: path) = none := by
  rw [← Option.not_isSome_iff_eq_none, isSome_record?_iff, cons_mem_keys_records]
  rintro ⟨laid, hlaid, -⟩
  exact h (List.mem_map_of_mem (f := (·.1)) hlaid)

/-- The record of one binding, and those inside it. -/
theorem record?_singleton (key : String) (laid : Laid) (path : List String) :
    record? (key :: path) [(key, laid)] =
      (laid.inner.record? path).or (if path = [] then some laid.location else none) := by
  have hreverse : (prefixed key laid.records).reverse = prefixed key laid.records.reverse :=
    (List.map_reverse ..).symm
  rw [record?, records, records, List.append_nil, List.reverse_cons, hreverse, Entries.get?_append,
    get?_prefixed, Laid.records_eq, record?]
  simp [Entries.get?, eq_comm]

/-- Where no key is bound twice, the records under a key are those of its binding. -/
theorem record?_of_mem {layout : Layout} {key : String} {laid : Laid}
    (hnodup : (Entries.keys layout).Nodup) (h : (key, laid) ∈ layout) (path : List String) :
    layout.record? (key :: path) = record? (key :: path) [(key, laid)] := by
  obtain ⟨before, after, rfl⟩ := List.append_of_mem h
  have hcons : (key, laid) :: after = [(key, laid)] ++ after := rfl
  simp only [Entries.keys, List.map_append, List.map_cons, List.nodup_append, List.nodup_cons]
    at hnodup
  have hafter : key ∉ Entries.keys after := hnodup.2.1.1
  have hbefore : key ∉ Entries.keys before := fun hmem =>
    hnodup.2.2 key hmem key List.mem_cons_self rfl
  rw [record?_append, hcons, record?_append, record?_eq_none hafter, record?_eq_none hbefore,
    Option.none_or, Option.or_none]

/-- The bindings whose keys pass a test have their records. -/
theorem records_filter (test : String → Bool) (layout : Layout) :
    records (layout.filter fun entry => test entry.1) =
      layout.records.filter fun record => record.1.head?.all test := by
  induction layout with
  | nil => rfl
  | cons entry layout ih =>
    by_cases htest : test entry.1 <;>
      simp [records, prefixed, htest, ih, List.filter_map, Function.comp_def]

theorem record?_filter (test : String → Bool) (key : String) (path : List String)
    (layout : Layout) :
    record? (key :: path) (layout.filter fun entry => test entry.1) =
      if test key then layout.record? (key :: path) else none := by
  rw [record?, records_filter, ← List.filter_reverse,
    Entries.get?_filter (fun path : List String => path.head?.all test), record?, List.head?_cons,
    Option.all_some]

theorem last?_filter (test : String → Bool) (key : String) (layout : Layout) :
    last? key (layout.filter fun entry => test entry.1) =
      if test key then layout.last? key else none := by
  rw [last?, ← List.filter_reverse, Entries.get?_filter, last?]

/-! ## What counts -/

/-- A key has a last binding if it is bound at all. -/
theorem isSome_last?_iff {layout : Layout} {key : String} :
    (layout.last? key).isSome ↔ key ∈ Entries.keys layout := by
  have h : Entries.contains key layout.reverse = true ↔ key ∈ Entries.keys layout.reverse :=
    Entries.contains_iff_mem_keys
  simpa [last?, Entries.contains, Entries.keys] using h

/-- After the last binding of a key it is not bound again. -/
theorem exists_of_last? {layout : Layout} {key : String} {laid : Laid}
    (h : layout.last? key = some laid) :
    ∃ before after, layout = before ++ (key, laid) :: after ∧ key ∉ Entries.keys after := by
  induction layout with
  | nil => cases h
  | cons e layout ih =>
    rw [← List.singleton_append, last?_append] at h
    cases hrest : last? key layout with
    | some other =>
      rw [hrest, Option.some_or] at h
      obtain ⟨before, after, rfl, hafter⟩ := ih (hrest.trans h)
      exact ⟨e :: before, after, rfl, hafter⟩
    | none =>
      obtain ⟨name, first⟩ := e
      rw [hrest, Option.none_or] at h
      simp only [last?, List.reverse_singleton, Entries.get?] at h
      split at h <;> cases h
      rename_i heq
      subst heq
      refine ⟨[], layout, rfl, ?_⟩
      rw [← isSome_last?_iff, hrest]
      exact Bool.false_ne_true

/-- The last record of a path stands at the last binding of its first key or inside it, or
else inside an earlier one. -/
theorem record?_split {before after : Layout} {key : String} (hafter : key ∉ Entries.keys after)
    (laid : Laid) (path : List String) :
    record? (key :: path) (before ++ (key, laid) :: after) =
      ((laid.inner.record? path).or (if path = [] then some laid.location else none)).or
        (before.record? (key :: path)) := by
  have hcons : (key, laid) :: after = [(key, laid)] ++ after := rfl
  rw [record?_append, hcons, record?_append, record?_eq_none hafter, Option.none_or,
    record?_singleton]

namespace Live

variable {layout : Layout} {path : List String} {laid : Laid}

/-- The location of a live binding is the last record of its path. -/
theorem record?_eq (h : Live layout path laid) : layout.record? path = some laid.location := by
  induction h with
  | @here layout key laid hlast =>
    obtain ⟨before, after, rfl, hafter⟩ := exists_of_last? hlast
    rw [record?_split hafter, record?_nil]
    rfl
  | @inside layout key path laid live hlast _ ih =>
    obtain ⟨before, after, rfl, hafter⟩ := exists_of_last? hlast
    rw [record?_split hafter, ih]
    rfl

/-- The way to a live binding through the entries of objects leads to its value. -/
theorem walk_eq (h : Live layout path laid) {entries : Entries Value}
    (hentries : ∀ key, Entries.get? key entries = (layout.last? key).map Laid.value) :
    Lookup.walk path (.object entries) = .ok (some laid.value) := by
  induction h generalizing entries with
  | @here layout key laid hlast =>
    have hkey := hentries key
    rw [hlast, Option.map_some] at hkey
    simp only [Lookup.walk, Lookup.child, bind, Except.bind, hkey]
  | @inside layout key path laid live hlast hlive ih =>
    have hkey := hentries key
    rw [hlast, Option.map_some] at hkey
    simp only [Lookup.walk, Lookup.child, bind, Except.bind, hkey]
    cases laid with
    | field location value => cases hlive <;> contradiction
    | block location inner =>
      rw [Laid.value]
      refine ih fun key => ?_
      rw [Entries.get?_ofList, get?_values_reverse]
      rfl

end Live

/-- What is replaced has left a record. -/
theorem Replaced.mem_keys_records {layout : Layout} {path : List String}
    (h : Replaced layout path) : path ∈ Entries.keys layout.records := by
  induction h with
  | @here before after key path laid _ hpath =>
    exact cons_mem_keys_records.2 ⟨laid, by simp, .inr hpath⟩
  | @inside layout key path laid hlast _ ih =>
    obtain ⟨before, after, rfl, -⟩ := exists_of_last? hlast
    exact cons_mem_keys_records.2 ⟨laid, by simp, .inr ih⟩

/-- The last record of a path is that of a live binding, or it stands in a replaced one.  The
induction is on the path. -/
theorem live_or_replaced {layout : Layout} {path : List String} {location : Location}
    (h : layout.record? path = some location) :
    (∃ laid, Live layout path laid ∧ laid.location = location) ∨ Replaced layout path := by
  induction path generalizing layout with
  | nil =>
    rw [record?_nil] at h
    cases h
  | cons key path ih =>
    have hkey : key ∈ Entries.keys layout := by
      by_contra hnone
      rw [record?_eq_none hnone] at h
      cases h
    obtain ⟨laid, hlast⟩ := Option.isSome_iff_exists.1 (isSome_last?_iff.2 hkey)
    obtain ⟨before, after, heq, hafter⟩ := exists_of_last? hlast
    by_cases hpath : path = []
    · subst hpath
      have hlive := Live.here hlast
      rw [hlive.record?_eq, Option.some.injEq] at h
      exact .inl ⟨laid, hlive, h⟩
    · -- The last record stands inside the last binding, or only inside an earlier one.
      rw [heq, record?_split hafter, if_neg hpath, Option.or_none] at h
      cases hinner : laid.inner.record? path with
      | some found =>
        rw [hinner, Option.some_or] at h
        cases h
        rcases ih hinner with ⟨live, hlive, hlocation⟩ | hreplaced
        · exact .inl ⟨live, .inside hlast hlive, hlocation⟩
        · exact .inr (.inside hlast hreplaced)
      | none =>
        rw [hinner, Option.none_or] at h
        have hbefore := isSome_record?_iff.1 (Option.isSome_iff_exists.2 ⟨location, h⟩)
        obtain ⟨earlier, hearlier, hrecord⟩ := cons_mem_keys_records.1 hbefore
        obtain ⟨first, rest, rfl⟩ := List.append_of_mem hearlier
        subst heq
        refine .inr ?_
        rw [List.append_assoc]
        exact .here (by simp [Entries.keys]) (hrecord.resolve_left hpath)

end Layout

end Rune
