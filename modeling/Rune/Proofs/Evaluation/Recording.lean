import Rune.Proofs.Evaluation.Laying

/-!
# Rune - what a document records

Every top-level binding of a document is evaluated once.  In the end the values and the
locations that the evaluation knows are those of the bindings that were laid: of one name the
value of its last binding, and of one path the last record.

Main results:

- Structure {lit}`Scope.LaysOwn` says what the top-level bindings of a document come to.
- Structure {lit}`Scope.Surveys` relates a memory to what was laid.
- Theorem {lit}`Scope.surveys_of_evaluate`: evaluating a document surveys its bindings.
-/

namespace Rune

/-- The bindings that the top-level bindings of a document come to, namespace by namespace. -/
structure Scope.LaysOwn (scope : Scope) (own : Namespace → Layout) : Prop where
  globals : List.Forall₂ (fun bound entry => entry.1 = bound.1 ∧
    ∃ value, ByName.Yields scope (.slot (.global bound.1)) value ∧
      entry.2 = .field (scope.source.locate bound.2.2) value) scope.globals (own .globals)
  metadata : List.Forall₂ (fun bound entry => entry.1 = bound.1 ∧
    ∃ value, ByName.Yields scope (.metadata bound.2.1) value ∧
      entry.2 = .field (scope.source.locate bound.2.2) value) scope.metadata (own .metadata)
  items : List.Forall₂ (fun bound entry => entry.1 = bound.1 ∧ scope.LaysItem bound.1 entry.2)
    scope.items (own .items)

namespace Evaluation

variable {scope : Scope} {memory after : Memory}

/-! ## Top-level bindings -/

/-- The record of a binding of another namespace. -/
theorem grows_record_top {space : Namespace} (hspace : space ≠ .items) (scope : Scope)
    (memory : Memory) (key : String) (location : Location) (value : Value) :
    memory.Grows scope [] (memory.record ⟨space, [key]⟩ location)
      (Layout.placed space [] [(key, .field location value)]) :=
  .record memory location fun _ hroot => absurd (congrArg Prod.fst hroot) hspace

/-- A reference that comes to a value records layouts of items, and the value is
remembered. -/
theorem forceSlot_grows (hmemory : memory.Faithful scope) {slot : Slot}
    (hslot : scope.Binds slot) {range : TextRange} {value : Value}
    (hrun : forceSlot scope slot range memory = .ok value after) :
    after.Faithful scope ∧ memory.Grows scope [] after [] ∧ after.value? slot = some value ∧
      ByName.Yields scope (.slot slot) value := by
  obtain ⟨hafter, hgrows⟩ :=
    (forceWith_lawful scope (scope.size + 1) []).advances slot hslot range memory value after
      hmemory hrun
  have hremembered : after.value? slot = some value := by
    rw [forceSlot] at hrun
    cases hknown : memory.value? slot with
    | some known =>
      rw [forceWith_known hknown] at hrun
      cases hrun
      exact hknown
    | none =>
      rw [forceWith_anew hknown List.not_mem_nil] at hrun
      obtain ⟨result, mid, -, hfinish⟩ := bind_eq_ok_iff.1 hrun
      cases hfinish
      exact Memory.value?_remember_self ..
  exact ⟨hafter, hgrows, hremembered, (hafter.settles slot value hremembered).exists_eq⟩

/-- Evaluating globals lays and records them. -/
theorem globalValues_lays (hmemory : memory.Faithful scope)
    {bindings : Entries (ValueExpr × TextRange)}
    (hbinds : ∀ bound ∈ bindings, scope.Binds (.global bound.1)) {result : Entries Value}
    (hrun : globalValues scope bindings memory = .ok result after) :
    after.Faithful scope ∧ ∃ layout : Layout,
      List.Forall₂ (fun bound entry => entry.1 = bound.1 ∧
        ∃ value, ByName.Yields scope (.slot (.global bound.1)) value ∧
          entry.2 = .field (scope.source.locate bound.2.2) value) bindings layout ∧
      result = layout.values ∧ memory.Grows scope [] after (layout.placed .globals []) := by
  induction bindings generalizing memory result with
  | nil =>
    cases hrun
    exact ⟨hmemory, [], .nil, rfl, .of_eq rfl fun _ => rfl⟩
  | cons bound bindings ih =>
    obtain ⟨name, expr, range⟩ := bound
    obtain ⟨_, noted, hnoted, hrun⟩ := bind_eq_ok_iff.1 hrun
    cases hnoted
    obtain ⟨value, mid, hforce, hrun⟩ := bind_eq_ok_iff.1 hrun
    obtain ⟨rest, last, hrest, hresult⟩ := bind_eq_ok_iff.1 hrun
    cases hresult
    have hnoted : (memory.record ⟨.globals, [name]⟩ (scope.source.locate range)).Faithful scope :=
      hmemory.of_eq (fun _ => Memory.value?_record ..) rfl
    obtain ⟨hmid, hgrows, -, hyields⟩ :=
      forceSlot_grows hnoted (hbinds _ List.mem_cons_self) hforce
    obtain ⟨hafter, layout, hlayout, rfl, hmore⟩ :=
      ih hmid (fun other hother => hbinds other (List.mem_cons_of_mem _ hother)) hrest
    refine ⟨hafter, (name, .field (scope.source.locate range) value) :: layout,
      .cons ⟨rfl, value, hyields, rfl⟩ hlayout, rfl, ?_⟩
    rw [← List.singleton_append, Layout.placed_append]
    exact ((grows_record_top (by decide) scope memory name _ value).trans hgrows).trans hmore

/-- Evaluating metadata lays and records it. -/
theorem metadataValues_lays (hmemory : memory.Faithful scope)
    {bindings : List (String × ValueExpr × TextRange)} {given result : Entries Value}
    (hrun : metadataValues scope given bindings memory = .ok result after) :
    after.Faithful scope ∧ ∃ layout : Layout,
      List.Forall₂ (fun bound entry => entry.1 = bound.1 ∧
        ∃ value, ByName.Yields scope (.metadata bound.2.1) value ∧
          entry.2 = .field (scope.source.locate bound.2.2) value) bindings layout ∧
      result = Entries.merge given layout.values ∧
      memory.Grows scope [] after (layout.placed .metadata []) := by
  induction bindings generalizing memory given with
  | nil =>
    cases hrun
    exact ⟨hmemory, [], .nil, rfl, .of_eq rfl fun _ => rfl⟩
  | cons bound bindings ih =>
    obtain ⟨key, expr, range⟩ := bound
    obtain ⟨value, mid, hvalue, hrun⟩ := bind_eq_ok_iff.1 hrun
    obtain ⟨_, noted, hnoted, hrest⟩ := bind_eq_ok_iff.1 hrun
    cases hnoted
    obtain ⟨hmid, hgrows, hyields⟩ :=
      (forceWith_lawful scope (scope.size + 1) []).value hmemory hvalue
    obtain ⟨hafter, layout, hlayout, rfl, hmore⟩ :=
      ih (hmid.of_eq (fun _ => Memory.value?_record ..) rfl) hrest
    refine ⟨hafter, (key, .field (scope.source.locate range) value) :: layout,
      .cons ⟨rfl, value, hyields, rfl⟩ hlayout, rfl, ?_⟩
    rw [← List.singleton_append, Layout.placed_append]
    exact (hgrows.trans (grows_record_top (by decide) scope mid key _ value)).trans hmore

/-- After the items were evaluated their values are remembered. -/
theorem itemValues_grows (hmemory : memory.Faithful scope)
    {bindings : Entries (List Member × TextRange)}
    (hbinds : ∀ bound ∈ bindings, scope.Binds (.item bound.1)) {result : Entries Value}
    (hrun : itemValues scope bindings memory = .ok result after) :
    memory.Grows scope [] after [] ∧
      List.Forall₂ (fun bound entry => entry.1 = bound.1 ∧
        after.value? (.item bound.1) = some entry.2) bindings result := by
  induction bindings generalizing memory result with
  | nil =>
    cases hrun
    exact ⟨.of_eq rfl fun _ => rfl, .nil⟩
  | cons bound bindings ih =>
    obtain ⟨name, children, range⟩ := bound
    obtain ⟨value, mid, hforce, hrun⟩ := bind_eq_ok_iff.1 hrun
    obtain ⟨rest, last, hrest, hresult⟩ := bind_eq_ok_iff.1 hrun
    cases hresult
    obtain ⟨hmid, hgrows, hvalue, -⟩ :=
      forceSlot_grows hmemory (hbinds _ List.mem_cons_self) hforce
    obtain ⟨hmore, hrest⟩ :=
      ih hmid (fun other hother => hbinds other (List.mem_cons_of_mem _ hother)) hrest
    exact ⟨hgrows.trans hmore, .cons ⟨rfl, hmore.value?_item hvalue⟩ hrest⟩

end Evaluation

/-! ## Look-up by roots -/

/-- The last record of a place stands under its root. -/
theorem Locations.get?_under (log : Locations) (place : Place) :
    Entries.get? place (log.under place.root).reverse = Entries.get? place log.reverse := by
  have h := Entries.get?_filter (fun other : Place => decide (other.root = place.root)) place
    log.reverse
  rw [if_pos (decide_eq_true rfl)] at h
  rw [under, ← List.filter_reverse, h]

namespace Layout

/-- The last record of a place is found by its path. -/
theorem get?_placed (space : Namespace) (layout : Layout) (path : List String) :
    Entries.get? ⟨space, path⟩ (layout.placed space []).reverse = layout.record? path := by
  rw [placed, ← List.map_reverse, record?]
  induction layout.records.reverse with
  | nil => rfl
  | cons record records ih =>
    by_cases h : record.1 = path <;> simp_all [Entries.get?]

/-- Nothing is recorded in another namespace. -/
theorem get?_placed_of_ne {space other : Namespace} (hother : other ≠ space) (layout : Layout)
    (path keys : List String) :
    Entries.get? ⟨other, path⟩ (layout.placed space keys).reverse = none := by
  rw [Entries.get?_eq_none_iff]
  intro hmem
  simp only [Entries.keys, placed, List.map_reverse, List.map_map, List.mem_reverse, List.mem_map,
    Function.comp_apply, Place.mk.injEq] at hmem
  obtain ⟨_, -, hspace, -⟩ := hmem
  exact hother hspace.symm

end Layout

namespace Charts

variable {scope : Scope} {before after : Memory} {log written : Locations}

/-- Except for items, an evaluation records what it records itself. -/
theorem get?_eq {place : Place} (h : Charts scope [] before after log written place.root)
    (hplace : ∀ name, place.root ≠ (.items, some name)) :
    Entries.get? place log.reverse = Entries.get? place written.reverse := by
  generalize hroot : place.root = root at h
  cases h with
  | kept _ hlog =>
    subst hroot
    rw [← Locations.get?_under log, hlog, Locations.get?_under]
  | evaluated => exact absurd hroot (hplace _)

end Charts

/-! ## Documents -/

/-- The configuration of a document has the values and the records of its own bindings, after
those of what is included. -/
structure Scope.Surveys (scope : Scope) (own : Namespace → Layout) (config : Config) : Prop where
  globals : config.globals = scope.withIncluded .globals (own .globals).values
  items : config.items = scope.withIncluded .items (own .items).values
  metadata : config.metadata = Entries.ofList (own .metadata).values
  locations : ∃ log, config.locations =
      Entries.merge scope.includedLocations (Entries.ofList log) ∧
    ∀ place, Entries.get? place log.reverse = (own place.space).record? place.path

namespace Evaluation

variable {scope : Scope} {after : Memory} {log written : Locations} {resources : Resources}

/-- The items whose values are remembered are those of layouts, whose records are what stands
under their names. -/
theorem exists_items
    (hcharts : ∀ root, Charts scope [] (.fresh resources) after log written root)
    {bindings : Entries (List Member × TextRange)} {result : Entries Value}
    (h : List.Forall₂ (fun bound entry => entry.1 = bound.1 ∧
      after.value? (.item bound.1) = some entry.2) bindings result) :
    ∃ layout : Layout,
      List.Forall₂ (fun bound entry => entry.1 = bound.1 ∧ scope.LaysItem bound.1 entry.2)
        bindings layout ∧
      result = layout.values ∧
      ∀ entry ∈ layout, log.under (.items, some entry.1) = Layout.placed .items [] [entry] := by
  induction h with
  | nil => exact ⟨[], .nil, rfl, by simp⟩
  | @cons bound entry bindings result hentry _ ih =>
    obtain ⟨name, value⟩ := entry
    obtain ⟨rfl, hvalue⟩ := hentry
    obtain ⟨layout, hlayout, rfl, hlog⟩ := ih
    cases hcharts (.items, some bound.1) with
    | kept hkept _ =>
      rw [hkept _ rfl] at hvalue
      cases hvalue
    | @evaluated _ laid _ hlaid _ hsome hunder =>
      rw [hsome, Option.some.injEq] at hvalue
      subst hvalue
      exact ⟨(bound.1, laid) :: layout, .cons ⟨rfl, hlaid⟩ hlayout, rfl,
        List.forall_mem_cons.2 ⟨hunder, hlog⟩⟩

/-- What is recorded of items are the records of their layouts. -/
theorem get?_items_eq
    (hcharts : ∀ root, Charts scope [] (.fresh resources) after log written root)
    (hwritten : ∀ path, Entries.get? ⟨.items, path⟩ written.reverse = none)
    (hnodup : (Entries.keys scope.items).Nodup) {layout : Layout}
    (hkeys : Entries.keys layout = Entries.keys scope.items)
    (hlog : ∀ entry ∈ layout,
      log.under (.items, some entry.1) = Layout.placed .items [] [entry]) (path : List String) :
    Entries.get? ⟨.items, path⟩ log.reverse = layout.record? path := by
  cases path with
  | nil =>
    have hroot (name : String) : (⟨.items, []⟩ : Place).root ≠ (.items, some name) := by
      simp [Place.root]
    rw [(hcharts _).get?_eq hroot, hwritten, Layout.record?_nil]
  | cons name path =>
    rw [← Locations.get?_under log]
    change Entries.get? _ (log.under (.items, some name)).reverse = _
    by_cases hname : name ∈ Entries.keys layout
    · obtain ⟨⟨_, laid⟩, hmem, rfl⟩ := List.mem_map.1 hname
      rw [hlog _ hmem, Layout.get?_placed, Layout.record?_of_mem (hkeys ▸ hnodup) hmem]
    · rw [Layout.record?_eq_none hname]
      cases hcharts (.items, some name) with
      | kept _ hunder =>
        rw [hunder]
        exact (Locations.get?_under written ⟨.items, name :: path⟩).trans (hwritten _)
      | evaluated _ hlaid _ _ _ =>
        obtain ⟨children, range, inside, hbound, -⟩ := hlaid
        exact absurd (Entries.mem_keys_of_get? hbound) (hkeys ▸ hname)

end Evaluation

open Evaluation in
/-- Evaluating a document lays its bindings and surveys them. -/
theorem Scope.surveys_of_evaluate {scope : Scope} {resources : Resources} {config : Config}
    {after : Memory} (htruthful : resources.Truthful scope.services.system)
    (hnodup : (Entries.keys scope.items).Nodup)
    (h : scope.evaluate (.fresh resources) = .ok config after) :
    ∃ own, scope.LaysOwn own ∧ scope.Surveys own config := by
  obtain ⟨globals, first, hglobals, h⟩ := bind_eq_ok_iff.1 h
  obtain ⟨metadata, second, hmetadata, h⟩ := bind_eq_ok_iff.1 h
  obtain ⟨items, third, hitems, h⟩ := bind_eq_ok_iff.1 h
  cases h
  obtain ⟨hfirst, globalLayout, hglobalLayout, rfl, hgrows⟩ :=
    globalValues_lays (Memory.faithful_fresh htruthful) (fun bound hbound =>
      Entries.contains_iff_mem_keys.2 (List.mem_map_of_mem hbound)) hglobals
  obtain ⟨hsecond, metadataLayout, hmetadataLayout, rfl, hgrows'⟩ :=
    metadataValues_lays hfirst hmetadata
  obtain ⟨hgrows'', hremembered⟩ := itemValues_grows hsecond (fun bound hbound =>
    Entries.contains_iff_mem_keys.2 (List.mem_map_of_mem hbound)) hitems
  obtain ⟨log, hlog, hcharts⟩ := ((hgrows.trans hgrows').trans hgrows'').charts
  obtain ⟨itemLayout, hitemLayout, rfl, hunder⟩ := exists_items hcharts hremembered
  have hkeys : Entries.keys itemLayout = Entries.keys scope.items :=
    Entries.keys_eq_of_forall₂ hitemLayout
  refine ⟨fun
    | .globals => globalLayout
    | .metadata => metadataLayout
    | .items => itemLayout, ⟨hglobalLayout, hmetadataLayout, hitemLayout⟩, rfl, rfl, rfl, log,
    congrArg (Entries.merge _) hlog, fun place => ?_⟩
  obtain ⟨space, path⟩ := place
  have hother {space : Namespace} (hspace : space ≠ .items) (name : String) :
      (⟨space, path⟩ : Place).root ≠ (.items, some name) := fun h => hspace (congrArg Prod.fst h)
  have hwritten (space : Namespace) (path : List String) : Entries.get? ⟨space, path⟩
      (globalLayout.placed .globals [] ++ metadataLayout.placed .metadata [] ++ []).reverse =
      (Entries.get? ⟨space, path⟩ (metadataLayout.placed .metadata []).reverse).or
        (Entries.get? ⟨space, path⟩ (globalLayout.placed .globals []).reverse) := by
    rw [List.append_nil, List.reverse_append, Entries.get?_append]
  cases space with
  | globals =>
    rw [(hcharts _).get?_eq (hother (by decide)), hwritten, Layout.get?_placed_of_ne (by decide),
      Option.none_or, Layout.get?_placed]
  | metadata =>
    rw [(hcharts _).get?_eq (hother (by decide)), hwritten, Layout.get?_placed,
      Layout.get?_placed_of_ne (by decide), Option.or_none]
  | items =>
    refine get?_items_eq hcharts (fun path => ?_) hnodup hkeys hunder path
    rw [hwritten, Layout.get?_placed_of_ne (by decide), Layout.get?_placed_of_ne (by decide),
      Option.none_or]

end Rune
