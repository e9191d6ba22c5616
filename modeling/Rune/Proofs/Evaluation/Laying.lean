import Rune.Proofs.Config.Layout
import Rune.Proofs.Evaluation.Tasks

/-!
# Rune - laying the bindings of a block

Evaluating the members of a block lays bindings: of every condition those of the chosen
branch, in their order.  Their locations are recorded meanwhile, and so are those of other
items that are asked for on the way.  The records of different items do not touch each other:
an item is evaluated once, and while it is being evaluated a reference to it stops with a
cycle.

Main results:

- Relation {lit}`Scope.Lays` says what the members of a block come to.
- Structure {lit}`Memory.Grows` says what an evaluation has recorded, root by root: what it
  recorded itself, and the layouts of the items that were evaluated.
- Theorem {lit}`Evaluation.members_lays`: the members of a block lay what is recorded.
- Theorem {lit}`Evaluation.forceWith_lawful`: a reference records the layouts of items that
  are not being evaluated.
-/

namespace Rune

/-! ## What members come to -/

/-- The bindings that members come to, one after another, after the fields that the object
around them has so far.  Of a condition the chosen branch counts. -/
inductive Scope.Lays (scope : Scope) : Entries Value → List Member → Layout → Prop
  | nil {fields : Entries Value} : Lays scope fields [] []
  | field {fields : Entries Value} {name : String} {expr : ValueExpr} {range : TextRange}
      {children : List Member} {value : Value} {layout : Layout} :
      (∃ depth, Evaluation.value scope (ByName.effectsAt scope depth) (some fields) expr =
        .value value) →
      Lays scope (Entries.insert (Key.canonical name) value fields) children layout →
      Lays scope fields (.field name expr range :: children)
        ((Key.canonical name, .field (scope.source.locate range) value) :: layout)
  | block {fields : Entries Value} {name : String} {range : TextRange}
      {inner children : List Member} {inside layout : Layout} :
      Lays scope [] inner inside →
      Lays scope (Entries.insert (Key.canonical name)
        (Laid.block (scope.source.locate range) inside).value fields) children layout →
      Lays scope fields (.block name inner range :: children)
        ((Key.canonical name, .block (scope.source.locate range) inside) :: layout)
  | conditional {fields : Entries Value} {condition : Condition} {range : TextRange}
      {thenChildren elseChildren children : List Member} {chosen : Bool} {layout : Layout} :
      (∃ depth, Evaluation.holds scope (ByName.effectsAt scope depth) (some fields) condition =
        .value chosen) →
      Lays scope fields ((if chosen then thenChildren else elseChildren) ++ children) layout →
      Lays scope fields (.conditional condition thenChildren elseChildren range :: children) layout

/-- Members, and then more members. -/
theorem Scope.Lays.append {scope : Scope} {fields : Entries Value} {a b : List Member}
    {layout more : Layout} (h : scope.Lays fields a layout)
    (hmore : scope.Lays (Entries.merge fields layout.values) b more) :
    scope.Lays fields (a ++ b) (layout ++ more) := by
  induction h with
  | nil => exact hmore
  | field hvalue _ ih => exact .field hvalue (ih hmore)
  | block hinner _ _ ih => exact .block hinner (ih hmore)
  | conditional hchosen _ ih =>
    rw [List.append_assoc] at ih
    exact .conditional hchosen (ih hmore)

/-- The binding that a top-level block comes to. -/
def Scope.LaysItem (scope : Scope) (name : String) (laid : Laid) : Prop :=
  ∃ children range inside, Entries.get? name scope.items = some (children, range) ∧
    scope.Lays [] children inside ∧ laid = .block (scope.source.locate range) inside

/-! ## Records by their roots -/

/-- Where a place belongs: its namespace and the first key of its path. -/
def Place.root (place : Place) : Namespace × Option String := (place.space, place.path.head?)

/-- The records that belong to a root. -/
def Locations.under (root : Namespace × Option String) (log : Locations) : Locations :=
  log.filter (·.1.root = root)

/-- The records of a layout at a path of a namespace. -/
def Layout.placed (space : Namespace) (path : List String) (layout : Layout) : Locations :=
  layout.records.map fun record => (⟨space, path ++ record.1⟩, record.2)

@[simp] theorem Locations.under_append (root : Namespace × Option String) (a b : Locations) :
    under root (a ++ b) = under root a ++ under root b := by
  rw [under, List.filter_append, under, under]

namespace Layout

theorem placed_append (space : Namespace) (path : List String) (a b : Layout) :
    placed space path (a ++ b) = placed space path a ++ placed space path b := by
  rw [placed, records_append, List.map_append, placed, placed]

/-- The records of one binding at a path, and those inside it. -/
theorem placed_singleton (space : Namespace) (path : List String) (key : String) (laid : Laid) :
    placed space path [(key, laid)] =
      (⟨space, path ++ [key]⟩, laid.location) :: placed space (path ++ [key]) laid.inner := by
  simp [placed, records, prefixed]

/-- All records at a path belong to the root of the path. -/
theorem root_of_mem_placed {space : Namespace} {path : List String} {name : String}
    (hpath : path.head? = some name) {layout : Layout} :
    ∀ record ∈ placed space path layout, record.1.root = (space, some name) := by
  intro record hrecord
  obtain ⟨_, -, rfl⟩ := List.mem_map.1 hrecord
  rw [Place.root, List.head?_append, hpath, Option.some_or]

end Layout

/-- Records that all belong to one root. -/
theorem Locations.under_eq_self {root : Namespace × Option String} {log : Locations}
    (h : ∀ record ∈ log, record.1.root = root) : under root log = log :=
  List.filter_eq_self.2 fun record hrecord => decide_eq_true (h record hrecord)

theorem Locations.under_eq_nil {root other : Namespace × Option String} (hother : other ≠ root)
    {log : Locations} (h : ∀ record ∈ log, record.1.root = root) : under other log = [] := by
  refine List.filter_eq_nil_iff.2 fun record hrecord => ?_
  rw [h record hrecord]
  simpa using hother.symm

/-! ## What an evaluation has recorded -/

/-- What an evaluation has recorded under a root: its own records, or else the layout of an
item that was not evaluated before and is not one of those being evaluated. -/
inductive Charts (scope : Scope) (pending : List Slot) (before after : Memory)
    (log written : Locations) : Namespace × Option String → Prop
  | kept {root : Namespace × Option String} :
      (∀ name, root = (.items, some name) →
        after.value? (.item name) = before.value? (.item name)) →
      log.under root = written.under root → Charts scope pending before after log written root
  | evaluated {name : String} {laid : Laid} : .item name ∉ pending → scope.LaysItem name laid →
      before.value? (.item name) = none → after.value? (.item name) = some laid.value →
      log.under (.items, some name) = Layout.placed .items [] [(name, laid)] →
      Charts scope pending before after log written (.items, some name)

/-- What an evaluation has recorded from one memory to another, while some bindings are being
evaluated: its own records are none of another item. -/
structure Memory.Grows (scope : Scope) (pending : List Slot) (before after : Memory)
    (written : Locations) : Prop where
  own : ∀ name, .item name ∉ pending → written.under (.items, some name) = []
  charts : ∃ log, after.locations = Entries.merge before.locations log ∧
    ∀ root, Charts scope pending before after log written root

namespace Memory

variable {scope : Scope} {pending : List Slot} {before mid after memory : Memory}
  {written more : Locations}

@[simp] theorem locations_remember (memory : Memory) (slot : Slot) (value : Value) :
    (memory.remember slot value).locations = memory.locations := by
  cases slot <;> rfl

namespace Grows

/-- Nothing is recorded where locations and values stay as they are. -/
theorem of_eq (hlocations : after.locations = before.locations)
    (hvalue : ∀ slot, after.value? slot = before.value? slot) :
    before.Grows scope pending after [] where
  own _ _ := rfl
  charts := ⟨[], hlocations, fun _ => .kept (fun _ _ => hvalue _) rfl⟩

/-- The record of a place that is none of another item. -/
theorem record (memory : Memory) {place : Place} (location : Location)
    (hplace : ∀ name, place.root = (.items, some name) → .item name ∈ pending) :
    memory.Grows scope pending (memory.record place location) [(place, location)] where
  own name hname := by
    rw [Locations.under, List.filter_eq_nil_iff]
    intro record hrecord
    obtain rfl := List.mem_singleton.1 hrecord
    simpa using fun hroot => hname (hplace name hroot)
  charts := ⟨[(place, location)], rfl, fun _ => .kept (fun _ _ => value?_record ..) rfl⟩

/-- One evaluation after another. -/
theorem trans (h : before.Grows scope pending mid written)
    (hmore : mid.Grows scope pending after more) :
    before.Grows scope pending after (written ++ more) := by
  obtain ⟨log, hmid, hcharts⟩ := h.charts
  obtain ⟨log', hafter, hcharts'⟩ := hmore.charts
  constructor
  case own =>
    intro name hname
    rw [Locations.under_append, h.own name hname, hmore.own name hname, List.nil_append]
  case charts =>
    refine ⟨log ++ log', by rw [hafter, hmid, Entries.merge_append], fun root => ?_⟩
    -- An item is evaluated at most once, and the other evaluation records nothing of it.
    cases hcharts root with
    | kept hvalue hlog =>
      cases hcharts' root with
      | kept hvalue' hlog' =>
        refine .kept (fun name hroot => ?_) ?_
        · rw [hvalue' name hroot, hvalue name hroot]
        · rw [Locations.under_append, Locations.under_append, hlog, hlog']
      | evaluated hpending hlaid hnone hsome hlog' =>
        refine .evaluated hpending hlaid ?_ hsome ?_
        · rw [← hvalue _ rfl, hnone]
        · rw [Locations.under_append, hlog, h.own _ hpending, List.nil_append, hlog']
    | evaluated hpending hlaid hnone hsome hlog =>
      cases hcharts' _ with
      | kept hvalue' hlog' =>
        refine .evaluated hpending hlaid hnone ?_ ?_
        · rw [hvalue' _ rfl, hsome]
        · rw [Locations.under_append, hlog', hmore.own _ hpending, List.append_nil, hlog]
      | evaluated _ _ hnone' _ _ =>
        rw [hnone'] at hsome
        cases hsome

/-- The value of an item is kept. -/
theorem value?_item (h : before.Grows scope pending after written) {name : String} {value : Value}
    (hvalue : before.value? (.item name) = some value) :
    after.value? (.item name) = some value := by
  obtain ⟨log, -, hcharts⟩ := h.charts
  cases hcharts (.items, some name) with
  | kept hkept _ => rw [hkept name rfl, hvalue]
  | evaluated _ _ hnone _ _ =>
    rw [hnone] at hvalue
    cases hvalue

/-- After a global was evaluated its value is remembered. -/
theorem remember_global {name : String}
    (h : memory.Grows scope (pending ++ [.global name]) after [])
    (value : Value) : memory.Grows scope pending (after.remember (.global name) value) [] := by
  obtain ⟨log, hafter, hcharts⟩ := h.charts
  refine ⟨fun _ _ => rfl, log, by rw [locations_remember, hafter], fun root => ?_⟩
  have hvalue (other : String) : (after.remember (.global name) value).value? (.item other) =
      after.value? (.item other) := value?_remember_of_ne Slot.noConfusion _ _
  cases hcharts root with
  | kept hkept hlog => exact .kept (fun other hroot => by rw [hvalue, hkept other hroot]) hlog
  | evaluated hpending hlaid hnone hsome hlog =>
    exact .evaluated (fun hmem => hpending (List.mem_append_left _ hmem)) hlaid hnone
      (by rw [hvalue, hsome]) hlog

/-- After an item was evaluated its value is remembered, and what was recorded is its
layout. -/
theorem remember_item {name : String} {laid : Laid}
    (h : memory.Grows scope (pending ++ [.item name]) after
      (Layout.placed .items [] [(name, laid)]))
    (hlaid : scope.LaysItem name laid) (hpending : .item name ∉ pending)
    (hnone : memory.value? (.item name) = none) :
    memory.Grows scope pending (after.remember (.item name) laid.value) [] := by
  obtain ⟨log, hafter, hcharts⟩ := h.charts
  -- What was recorded by the evaluation itself is what stands under the name of the item.
  have hwritten : ∀ record ∈ Layout.placed .items [] [(name, laid)],
      record.1.root = (.items, some name) := by
    rw [Layout.placed_singleton]
    exact List.forall_mem_cons.2 ⟨rfl, Layout.root_of_mem_placed rfl⟩
  refine ⟨fun _ _ => rfl, log, by rw [locations_remember, hafter], fun root => ?_⟩
  by_cases hroot : root = (.items, some name)
  · subst hroot
    refine .evaluated hpending hlaid hnone (value?_remember_self ..) ?_
    cases hcharts (.items, some name) with
    | kept _ hlog => rw [hlog, Locations.under_eq_self hwritten]
    | evaluated hnew _ _ _ _ => simp at hnew
  · have hvalue (other : String) (hother : root = (.items, some other)) :
        (after.remember (.item name) laid.value).value? (.item other) =
          after.value? (.item other) := by
      refine value?_remember_of_ne (fun heq => hroot ?_) _ _
      cases heq
      exact hother
    cases hcharts root with
    | kept hkept hlog =>
      refine .kept (fun other hother => by rw [hvalue other hother, hkept other hother]) ?_
      rw [hlog, Locations.under_eq_nil hroot hwritten]
      rfl
    | evaluated hnew hother hbefore hsome hlog =>
      exact .evaluated (fun hmem => hnew (List.mem_append_left _ hmem)) hother hbefore
        (by rw [hvalue _ rfl, hsome]) hlog

end Grows

end Memory

/-! ## References and expressions -/

/-- While some bindings are being evaluated, an evaluation that comes to a result records
nothing but the layouts of items that it evaluates on its way. -/
def Advances (scope : Scope) (pending : List Slot) {α : Type} (x : Eval α) : Prop :=
  ∀ memory a after, memory.Faithful scope → x memory = .ok a after →
    after.Faithful scope ∧ memory.Grows scope pending after []

namespace Advances

variable {scope : Scope} {pending : List Slot} {α β : Type}

theorem pure (a : α) : Advances scope pending (pure a) := by
  intro memory _ after hmemory h
  cases h
  exact ⟨hmemory, .of_eq rfl fun _ => rfl⟩

theorem bind {x : Eval α} {f : α → Eval β} (hx : Advances scope pending x)
    (hf : ∀ a, Advances scope pending (f a)) : Advances scope pending (x >>= f) := by
  intro memory b after hmemory h
  obtain ⟨a, mid, hfirst, hrest⟩ := bind_eq_ok_iff.1 h
  obtain ⟨hmid, hgrows⟩ := hx memory a mid hmemory hfirst
  obtain ⟨hafter, hmore⟩ := hf a mid b after hmid hrest
  exact ⟨hafter, hgrows.trans hmore⟩

theorem fail (fault : EvaluationFault) (range : TextRange) :
    Advances scope pending (Evaluation.fail fault range : Eval α) := nofun

theorem compile (source : String) (range : TextRange) :
    Advances scope pending (Evaluation.compile source range) := by
  intro memory value after hmemory h
  have followed :=
    @Evaluation.compile_tracks scope (fun _ => False) source range memory hmemory
  rw [h] at followed
  cases followed with
  | value hafter _ =>
    refine ⟨hafter, ?_⟩
    unfold Evaluation.compile at h
    split at h <;> cases h
    exact .of_eq rfl fun slot => by cases slot <;> rfl

theorem ask (key : String) : Advances scope pending (Evaluation.ask scope key) := by
  intro memory answer after hmemory h
  have followed := @Evaluation.ask_tracks scope (fun _ => False) key memory hmemory
  rw [h] at followed
  cases followed with
  | value hafter _ =>
    refine ⟨hafter, ?_⟩
    cases h
    exact .of_eq rfl fun slot => by cases slot <;> rfl

/-- All references to bindings advance. -/
abbrev References (scope : Scope) (pending : List Slot) (force : Slot → TextRange → Eval Value) :
    Prop :=
  ∀ slot, scope.Binds slot → ∀ range, Advances scope pending (force slot range)

/-- What references and expressions are made of advances, if references do. -/
theorem congruent {force : Slot → TextRange → Eval Value}
    (hforce : References scope pending force) :
    Congruent scope scope (fun _ => True)
      (fun {α} (x : Eval α) (_ : Nat → Outcome Flaw α) => Advances scope pending x)
      (Evaluation.effects scope force) (ByName.effectsAt scope) :=
  have respects : Respects scope scope (fun _ => True)
      (fun {α} (x : Eval α) (_ : Nat → Outcome Flaw α) => Advances scope pending x)
      (Evaluation.effects scope force) (ByName.effectsAt scope) := {
    toAgreesOn := .refl _ scope
    pure := .pure
    bind := .bind
    fail := fun fault range _ => .fail fault range
    ask key := .ask key.name
    force := fun _ slot range _ hslot => hforce slot (Scope.binds_of_slot? hslot) range }
  { toRespects := respects
    path := respects.path_of_fail fun fault range => .fail fault range
    compile := fun source range _ => .compile source range }

end Advances

namespace Evaluation

variable {scope : Scope} {pending : List Slot} {force : Slot → TextRange → Eval Value}
  {name : String}

/-- References advance, and they follow the plain values of their bindings. -/
structure Lawful (scope : Scope) (pending : List Slot) (force : Slot → TextRange → Eval Value) :
    Prop where
  advances : Advances.References scope pending force
  tracks : ∀ slot, scope.Binds slot → ∀ range, Tracks scope (fun _ => False) (force slot range)
    (fun depth => ByName.slotValue scope depth slot)

namespace Lawful

variable (h : Lawful scope pending force) {siblings : Siblings} {memory after : Memory}
  (hmemory : memory.Faithful scope)
include h hmemory

/-- An expression comes to its plain value. -/
theorem value {expr : ValueExpr} {result : Value}
    (hrun : Evaluation.value scope (effects scope force) siblings expr memory = .ok result after) :
    after.Faithful scope ∧ memory.Grows scope pending after [] ∧
      ∃ depth, Evaluation.value scope (ByName.effectsAt scope depth) siblings expr =
        .value result := by
  obtain ⟨hafter, hgrows⟩ := (Advances.congruent h.advances).value siblings expr
    (fun _ _ => trivial) memory result after hmemory hrun
  have followed := (effects_parametric h.tracks).value siblings expr memory hmemory
  rw [hrun] at followed
  cases followed with
  | value _ hvalue => exact ⟨hafter, hgrows, hvalue.exists_eq⟩

/-- A condition comes out as it does plainly. -/
theorem holds {condition : Condition} {chosen : Bool}
    (hrun : Evaluation.holds scope (effects scope force) siblings condition memory =
      .ok chosen after) :
    after.Faithful scope ∧ memory.Grows scope pending after [] ∧
      ∃ depth, Evaluation.holds scope (ByName.effectsAt scope depth) siblings condition =
        .value chosen := by
  obtain ⟨hafter, hgrows⟩ := (Advances.congruent h.advances).holds siblings
    (fun _ _ => trivial) memory chosen after hmemory hrun
  have followed := (effects_parametric h.tracks).holds siblings condition memory hmemory
  rw [hrun] at followed
  cases followed with
  | value _ hvalue => exact ⟨hafter, hgrows, hvalue.exists_eq⟩

end Lawful

/-! ## Members -/

/-- What the evaluation of members at a path has done: they lay the bindings that were
recorded, and the fields are extended by their values. -/
structure Laying (scope : Scope) (pending : List Slot) (path : List String)
    (fields result : Entries Value) (children : List Member) (before after : Memory)
    (layout : Layout) : Prop where
  lays : scope.Lays fields children layout
  result_eq : result = Entries.merge fields layout.values
  faithful : after.Faithful scope
  grows : before.Grows scope pending after (layout.placed .items path)

namespace Laying

variable {path : List String} {fields mid result : Entries Value} {before between after : Memory}

theorem nil (hbefore : before.Faithful scope) :
    Laying scope pending path fields fields [] before before [] :=
  ⟨.nil, rfl, hbefore, .of_eq rfl fun _ => rfl⟩

/-- Members, and then more members. -/
theorem append {a b : List Member} {layout more : Layout}
    (h : Laying scope pending path fields mid a before between layout)
    (hmore : Laying scope pending path mid result b between after more) :
    Laying scope pending path fields result (a ++ b) before after (layout ++ more) := by
  obtain rfl := h.result_eq
  refine ⟨h.lays.append hmore.lays, ?_, hmore.faithful, ?_⟩
  · rw [hmore.result_eq, Layout.values_append, Entries.merge_append]
  · rw [Layout.placed_append]
    exact h.grows.trans hmore.grows

end Laying

/-- A place below an item that is being evaluated may be recorded. -/
theorem grows_record {name : String} (hname : .item name ∈ pending) {path : List String}
    (hpath : path.head? = some name) (key : String) (memory : Memory) (location : Location) :
    memory.Grows scope pending (memory.record ⟨.items, path ++ [key]⟩ location)
      [(⟨.items, path ++ [key]⟩, location)] := by
  refine .record memory location fun other hroot => ?_
  rw [Place.root, List.head?_append, hpath, Option.some_or] at hroot
  cases hroot
  exact hname

mutual

/-- The members of a block, at a path below an item that is being evaluated, lay the bindings
that are recorded. -/
theorem members_lays (h : Lawful scope pending force) {name : String}
    (hname : .item name ∈ pending) {path : List String} (hpath : path.head? = some name)
    {fields result : Entries Value} {memory after : Memory} (hmemory : memory.Faithful scope) :
    ∀ children : List Member,
      members scope (effects scope force) path fields children memory = .ok result after →
      ∃ layout, Laying scope pending path fields result children memory after layout
  | [], hrun => by
    cases hrun
    exact ⟨[], .nil hmemory⟩
  | child :: children, hrun => by
    simp only [members] at hrun
    obtain ⟨mid, between, hfirst, hrest⟩ := bind_eq_ok_iff.1 hrun
    obtain ⟨layout, hlaying⟩ := member_lays h hname hpath hmemory child hfirst
    obtain ⟨more, hmore⟩ := members_lays h hname hpath hlaying.faithful children hrest
    exact ⟨layout ++ more, hlaying.append hmore⟩

theorem member_lays (h : Lawful scope pending force) {name : String}
    (hname : .item name ∈ pending) {path : List String} (hpath : path.head? = some name)
    {fields result : Entries Value} {memory after : Memory} (hmemory : memory.Faithful scope) :
    ∀ child : Member,
      member scope (effects scope force) path fields child memory = .ok result after →
      ∃ layout, Laying scope pending path fields result [child] memory after layout
  | .field key expr range, hrun => by
    simp only [member] at hrun
    obtain ⟨value, mid, hvalue, hrun⟩ := bind_eq_ok_iff.1 hrun
    cases hrun
    obtain ⟨hmid, hgrows, hplain⟩ := h.value hmemory hvalue
    refine ⟨_, .field hplain .nil, rfl, hmid.of_eq (fun _ => Memory.value?_record ..) rfl, ?_⟩
    rw [Layout.placed_singleton]
    exact hgrows.trans (grows_record hname hpath _ _ _)
  | .block key inner range, hrun => by
    simp only [member] at hrun
    obtain ⟨_, noted, hnoted, hrest⟩ := bind_eq_ok_iff.1 hrun
    cases hnoted
    obtain ⟨entries, last, hinner, hresult⟩ := bind_eq_ok_iff.1 hrest
    cases hresult
    have hnoted : (memory.record ⟨.items, path ++ [Key.canonical key]⟩
        (scope.source.locate range)).Faithful scope :=
      hmemory.of_eq (fun _ => Memory.value?_record ..) rfl
    obtain ⟨inside, hinside⟩ := members_lays h hname
      (by rw [List.head?_append, hpath, Option.some_or]) hnoted inner hinner
    refine ⟨_, .block hinside.lays .nil, ?_, hinside.faithful, ?_⟩
    · rw [hinside.result_eq]
      rfl
    · rw [Layout.placed_singleton]
      exact (grows_record hname hpath _ _ _).trans hinside.grows
  | .conditional condition thenChildren elseChildren range, hrun => by
    simp only [member] at hrun
    obtain ⟨chosen, mid, hcondition, hrun⟩ := bind_eq_ok_iff.1 hrun
    obtain ⟨hmid, hgrows, hplain⟩ := h.holds hmemory hcondition
    have branch : ∃ layout, Laying scope pending path fields result
        (if chosen then thenChildren else elseChildren) mid after layout := by
      cases chosen with
      | true => exact members_lays h hname hpath hmid thenChildren hrun
      | false => exact members_lays h hname hpath hmid elseChildren hrun
    obtain ⟨layout, hlaying⟩ := branch
    refine ⟨layout, .conditional hplain ?_, hlaying.result_eq, hlaying.faithful,
      hgrows.trans hlaying.grows⟩
    rw [List.append_nil]
    exact hlaying.lays

end

/-! ## References -/

/-- Evaluating a global and remembering its value. -/
theorem bindingValue_global (h : Lawful scope (pending ++ [.global name]) force)
    {memory after : Memory} (hmemory : memory.Faithful scope) {result : Value}
    (hrun : bindingValue scope (effects scope force) (.global name) memory = .ok result after) :
    memory.Grows scope pending (after.remember (.global name) result) [] := by
  unfold bindingValue at hrun
  dsimp only at hrun
  cases hbound : Entries.get? name scope.globals with
  | none =>
    rw [hbound] at hrun
    cases hrun
  | some bound =>
    rw [hbound] at hrun
    exact (h.value hmemory hrun).2.1.remember_global result

/-- Evaluating an item lays its bindings. -/
theorem bindingValue_item (h : Lawful scope (pending ++ [.item name]) force)
    (hpending : .item name ∉ pending) {memory after : Memory} (hmemory : memory.Faithful scope)
    (hnone : memory.value? (.item name) = none) {result : Value}
    (hrun : bindingValue scope (effects scope force) (.item name)
      (memory.noted scope (.item name)) = .ok result after) :
    memory.Grows scope pending (after.remember (.item name) result) [] := by
  have hnoted : (memory.noted scope (.item name)).Faithful scope :=
    hmemory.of_eq (by simp) (by simp)
  have hname : Slot.item name ∈ pending ++ [.item name] := by simp
  unfold bindingValue at hrun
  dsimp only at hrun
  cases hbound : Entries.get? name scope.items with
  | none =>
    rw [hbound] at hrun
    cases hrun
  | some bound =>
    obtain ⟨children, range⟩ := bound
    rw [hbound] at hrun
    obtain ⟨fields, mid, hmembers, hresult⟩ := bind_eq_ok_iff.1 hrun
    cases hresult
    obtain ⟨inside, hinside⟩ := members_lays h hname rfl hnoted children hmembers
    have hlaid : scope.LaysItem name (.block (scope.source.locate range) inside) :=
      ⟨children, range, inside, hbound, hinside.lays, rfl⟩
    have hrecord : memory.Grows scope (pending ++ [.item name]) (memory.noted scope (.item name))
        [(⟨.items, [name]⟩, scope.source.locate range)] := by
      simp only [Memory.noted, hbound]
      refine .record memory _ fun other hroot => ?_
      cases hroot
      exact hname
    have hgrows : memory.Grows scope (pending ++ [.item name]) after
        (Layout.placed .items [] [(name, .block (scope.source.locate range) inside)]) := by
      rw [Layout.placed_singleton]
      exact hrecord.trans hinside.grows
    rw [hinside.result_eq]
    exact hgrows.remember_item hlaid hpending hnone

/-- A reference that comes to a value has recorded the layouts of the items that were
evaluated for it. -/
theorem forceWith_lawful (scope : Scope) (fuel : Nat) (pending : List Slot) :
    Lawful scope pending (forceWith scope fuel pending) := by
  refine ⟨?_, fun slot _ range => forceWith_tracks scope fuel pending slot range⟩
  induction fuel generalizing pending with
  | zero => exact fun _ _ _ _ _ _ _ hrun => nomatch hrun
  | succ fuel ih =>
    intro slot _ range memory value after hmemory hrun
    cases hknown : memory.value? slot with
    | some known =>
      rw [forceWith_known hknown] at hrun
      cases hrun
      exact ⟨hmemory, .of_eq rfl fun _ => rfl⟩
    | none =>
      by_cases hpending : slot ∈ pending
      · rw [forceWith_pending hknown hpending] at hrun
        cases hrun
      · have followed := forceWith_tracks scope (fuel + 1) pending slot range memory hmemory
        rw [hrun] at followed
        rw [forceWith_anew hknown hpending] at hrun
        have hlawful : Lawful scope (pending ++ [slot])
            (forceWith scope fuel (pending ++ [slot])) :=
          ⟨ih _, fun other _ => forceWith_tracks scope fuel _ other⟩
        obtain ⟨result, mid, hbinding, hfinish⟩ := bind_eq_ok_iff.1 hrun
        cases hfinish
        cases followed with
        | value hafter _ =>
          refine ⟨hafter, ?_⟩
          cases slot with
          | global name => exact bindingValue_global hlawful hmemory hbinding
          | item name => exact bindingValue_item hlawful hpending hmemory hknown hbinding

end Evaluation

end Rune
