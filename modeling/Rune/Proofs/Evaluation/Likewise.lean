import Rune.Proofs.Evaluation.Force
import Rune.Proofs.Failure
import Rune.Proofs.Session.Resources
import Rune.Proofs.SideBySide
import Rune.Proofs.Tree.Likeness

/-!
# Rune - trees that are alike are evaluated alike

A tree is evaluated without regard to where it stands, and names are looked up in their
canonical spelling.  So take two documents that are alike, and whose names have the same
canonical spellings.  They are evaluated to the same values under the same keys, at
locations that have the same keys, or both are stopped by a flaw of the same kind at
ranges that correspond.

Main results:

- Relations {lit}`Scope.Like` and {lit}`Flaw.Like` hold of documents that are alike and of
  what stops them.
- Theorem {lit}`Scope.ofDocument_like`: documents that are alike have scopes that are alike.
- Theorem {lit}`Scope.evaluate_likewise`: scopes that are alike are evaluated alike.
-/

namespace Rune

/-! ## What is alike -/

/-- Names that are alike have the same canonical spelling. -/
def Likeness.Canonical (l : Likeness) : Prop :=
  ∀ ⦃name name'⦄, l.names name name' → Key.canonical name' = Key.canonical name

/-- Where names do not differ, they have the same canonical spelling. -/
theorem Likeness.canonical_placed (places : TextRange → TextRange → Prop) :
    (placed places).Canonical := by
  rintro name _ rfl
  rfl

/-- Two faults are of one kind.  They may show different names. -/
inductive EvaluationFault.Alike : EvaluationFault → EvaluationFault → Prop
  | unresolved (name name' : String) : Alike (.unresolved name) (.unresolved name')
  | unknownHead (segments segments' : List String) (head head' : String) :
    Alike (.unknownHead segments head) (.unknownHead segments' head')
  | undefinedMember (segments segments' : List String) (head head' member member' : String) :
    Alike (.undefinedMember segments head member) (.undefinedMember segments' head' member')
  | missingKey (segments segments' walked walked' : List String) (key key' : String) :
    Alike (.missingKey segments walked key) (.missingKey segments' walked' key')
  | unknownSystemKey (key key' : String) : Alike (.unknownSystemKey key) (.unknownSystemKey key')
  | unavailable (key key' : String) : Alike (.unavailable key) (.unavailable key')
  | incomparable (left right : ValueKind) :
    Alike (.incomparable left right) (.incomparable left right)
  | badPattern (fault : RegexFault) (pattern : String) :
    Alike (.badPattern fault pattern) (.badPattern fault pattern)

/-- Two flaws are of one kind, at ranges that correspond. -/
inductive Flaw.Like (l : Likeness) : Flaw → Flaw → Prop
  | fault {fault fault' : EvaluationFault} {range range' : TextRange}
      (hfault : fault.Alike fault') (hrange : l.places range range') :
    Like l (.fault fault range) (.fault fault' range')
  | cycle (chain : List Slot) {range range' : TextRange} (hrange : l.places range range') :
    Like l (.cycle chain range) (.cycle chain range')

/-- Two memories are alike: the same values are remembered, locations are recorded for the
same places, and the resources of both tell the truth. -/
structure Memory.Like (system : String → Option String) (a b : Memory) : Prop where
  globals_eq : b.globals = a.globals
  items_eq : b.items = a.items
  places_eq : Entries.keys b.locations = Entries.keys a.locations
  truthful : a.resources.Truthful system
  truthful' : b.resources.Truthful system

/-- Values with the ranges of their bindings are alike. -/
abbrev Likeness.values (l : Likeness) (bound bound' : ValueExpr × TextRange) : Prop :=
  bound.1.Like l bound'.1 ∧ l.places bound.2 bound'.2

/-- Blocks with their ranges are alike. -/
abbrev Likeness.blocks (l : Likeness) (bound bound' : List Member × TextRange) : Prop :=
  List.Forall₂ (Member.Like l) bound.1 bound'.1 ∧ l.places bound.2 bound'.2

/-- Two scopes are alike: they have the same surroundings, and bindings that are alike
under the same keys. -/
structure Scope.Like (l : Likeness) (scope scope' : Scope) : Prop where
  services_eq : scope'.services = scope.services
  globals : Entries.Match l.values scope.globals scope'.globals
  items : Entries.Match l.blocks scope.items scope'.items
  metadata : Entries.Match l.values scope.metadata scope'.metadata
  aliases_eq : scope'.aliases = scope.aliases
  includes_eq : scope'.includes = scope.includes

/-- Two configurations bind the same values under the same keys, and they locate bindings
at the same places. -/
structure Config.Like (config config' : Config) : Prop where
  globals_eq : config'.globals = config.globals
  items_eq : config'.items = config.items
  metadata_eq : config'.metadata = config.metadata
  places_eq : Entries.keys config'.locations = Entries.keys config.locations

variable {l : Likeness}

theorem Operand.Like.isHost_eq {operand operand' : Operand} (h : operand.Like l operand') :
    operand'.isHost = operand.isHost := by
  cases h <;> rfl

/-! ## Memories -/

namespace Memory.Like

variable {system : String → Option String} {a b : Memory}

theorem value?_eq (h : Like system a b) (slot : Slot) : b.value? slot = a.value? slot := by
  cases slot with
  | global name => simp only [value?, h.globals_eq]
  | item name => simp only [value?, h.items_eq]

/-- Remembering a value in both. -/
theorem remember (h : Like system a b) (slot : Slot) (value : Value) :
    Like system (a.remember slot value) (b.remember slot value) := by
  obtain ⟨hglobals, hitems, hplaces, htruthful, htruthful'⟩ := h
  cases slot with
  | global name =>
    exact ⟨by simp [Memory.remember, hglobals], hitems, hplaces, htruthful, htruthful'⟩
  | item name =>
    exact ⟨hglobals, by simp [Memory.remember, hitems], hplaces, htruthful, htruthful'⟩

/-- Recording locations for the same place. -/
theorem record (h : Like system a b) (place : Place) (location location' : Location) :
    Like system (a.record place location) (b.record place location') := by
  obtain ⟨hglobals, hitems, hplaces, htruthful, htruthful'⟩ := h
  refine ⟨hglobals, hitems, ?_, htruthful, htruthful'⟩
  simp only [Memory.record, Entries.keys_insert, hplaces]

/-- Recording the location of a binding in both. -/
theorem noted {scope scope' : Scope} (h : Like system a b)
    (hkeys : Entries.keys scope'.items = Entries.keys scope.items) (slot : Slot) :
    Like system (a.noted scope slot) (b.noted scope' slot) := by
  unfold Memory.noted
  cases slot with
  | global name => exact h
  | item name =>
    obtain ⟨hnone, hnone'⟩ | ⟨bound, bound', hbound, hbound'⟩ :=
      Entries.get?_cases_of_keys_eq hkeys name
    · simpa only [hnone, hnone'] using h
    · simp only [hbound, hbound']
      exact h.record _ _ _

/-- Other resources that tell the truth. -/
theorem with_resources (h : Like system a b) {resources resources' : Resources}
    (htruthful : resources.Truthful system) (htruthful' : resources'.Truthful system) :
    Like system { a with resources := resources } { b with resources := resources' } :=
  ⟨h.globals_eq, h.items_eq, h.places_eq, htruthful, htruthful'⟩

end Memory.Like

/-! ## Scopes -/

namespace Scope.Like

variable {scope scope' : Scope}

/-- The same keys are bound. -/
theorem slot?_eq (h : scope.Like l scope') (key : String) : scope'.slot? key = scope.slot? key := by
  unfold Scope.slot?
  rw [Entries.contains_eq_of_keys_eq h.globals.keys_eq,
    Entries.contains_eq_of_keys_eq h.items.keys_eq]

theorem included?_eq (h : scope.Like l scope') (key : String) :
    scope'.included? key = scope.included? key := by
  unfold Scope.included?
  rw [h.includes_eq]

theorem withIncluded_eq (h : scope.Like l scope') (space : Namespace) (own : Entries Value) :
    scope'.withIncluded space own = scope.withIncluded space own := by
  unfold Scope.withIncluded
  rw [h.includes_eq]

theorem includedLocations_eq (h : scope.Like l scope') :
    scope'.includedLocations = scope.includedLocations := by
  have hhides (place : Place) : scope'.hides place = scope.hides place := by
    unfold Scope.hides
    simp only [Entries.contains_eq_of_keys_eq h.globals.keys_eq,
      Entries.contains_eq_of_keys_eq h.items.keys_eq]
  simp only [Scope.includedLocations, h.includes_eq, hhides]

theorem size_eq (h : scope.Like l scope') : scope'.size = scope.size := by
  simp only [Scope.size, h.globals.length_eq, h.items.length_eq]

end Scope.Like

/-! ## Effects -/

namespace Evaluation

/-- Two evaluations come to values that are related, or to flaws that are alike. -/
abbrev Likewise (l : Likeness) (scope : Scope) {α α' : Type} (values : α → α' → Prop)
    (x : Eval α) (y : Eval α') : Prop :=
  SideBySide (Memory.Like scope.services.system) (Flaw.Like l) values x y

variable {scope scope' : Scope}

theorem fail_likewise {α α' : Type} {R : α → α' → Prop} {fault fault' : EvaluationFault}
    (hfault : fault.Alike fault') {range range' : TextRange} (hrange : l.places range range') :
    Likewise l scope R (fail fault range) (fail fault' range') :=
  .throw (.fault hfault hrange)

theorem record_likewise (space : Namespace) (path : List String) (range range' : TextRange) :
    Likewise l scope (fun _ _ => True) (record scope space path range)
      (record scope' space path range') :=
  fun _ _ h => .ok trivial (h.record _ _ _)

theorem compile_likewise (pattern : String) {range range' : TextRange}
    (hrange : l.places range range') :
    Likewise l scope (· = ·) (compile pattern range) (compile pattern range') := by
  intro a b h
  unfold compile
  cases hread : Pattern.read pattern with
  | ok p =>
    obtain ⟨resources, hcompile, hfacts⟩ := Resources.compile_of_read hread a.resources
    obtain ⟨resources', hcompile', hfacts'⟩ := Resources.compile_of_read hread b.resources
    rw [hcompile, hcompile']
    exact .ok rfl (h.with_resources (h.truthful.of_facts_eq hfacts)
      (h.truthful'.of_facts_eq hfacts'))
  | error fault =>
    rw [Resources.compile_of_read_error hread, Resources.compile_of_read_error hread]
    exact .error (.fault (.badPattern fault pattern) hrange) h

theorem ask_likewise (hservices : scope'.services = scope.services) (key : String) :
    Likewise l scope (· = ·) (ask scope key) (ask scope' key) := by
  intro a b h
  unfold ask
  simp only [hservices]
  refine .ok ?_ (h.with_resources (h.truthful.after_fact key) (h.truthful'.after_fact key))
  rw [h.truthful.fact, h.truthful'.fact]

/-- Two scopes are alike, and references to their top-level bindings are forced alike. -/
structure Twins (l : Likeness) (scope scope' : Scope)
    (force force' : Slot → TextRange → Eval Value) : Prop extends scope.Like l scope' where
  canonical : l.Canonical
  force : ∀ slot, scope.Binds slot → ∀ {range range'}, l.places range range' →
    Likewise l scope (· = ·) (force slot range) (force' slot range')

namespace Twins

variable {force force' : Slot → TextRange → Eval Value}

/-! ## Services and references -/

theorem fact_likewise (h : Twins l scope scope' force force') {key key' : String}
    (hkey : l.names key key') {range range' : TextRange} (hrange : l.places range range') :
    Likewise l scope (· = ·) (fact (effects scope force) key range)
      (fact (effects scope' force') key' range') := by
  have hknown : SystemKey.ofName? key' = SystemKey.ofName? key := by
    unfold SystemKey.ofName?
    rw [h.canonical hkey]
  unfold fact
  rw [hknown]
  cases SystemKey.ofName? key with
  | none => exact fail_likewise (.unknownSystemKey key key') hrange
  | some known =>
    refine (ask_likewise h.services_eq known.name).bind fun answer _ heq => ?_
    cases heq
    cases answer with
    | none => exact fail_likewise (.unavailable key key') hrange
    | some answer => exact .pure rfl

theorem hostValue_likewise (h : Twins l scope scope' force force')
    {ref ref' : HostRef} (href : ref.Like l ref') :
    Likewise l scope (· = ·) (hostValue scope (effects scope force) ref)
      (hostValue scope' (effects scope' force') ref') := by
  cases href with
  | env hrange =>
    simp only [hostValue, h.services_eq]
    exact .pure rfl
  | sys hkey hrange =>
    exact (h.fact_likewise hkey hrange).bind fun _ _ heq => .pure (congrArg _ heq)

theorem hostText_likewise (h : Twins l scope scope' force force')
    {ref ref' : HostRef} (href : ref.Like l ref') :
    Likewise l scope (· = ·) (hostText scope (effects scope force) ref)
      (hostText scope' (effects scope' force') ref') := by
  cases href with
  | env hrange =>
    simp only [hostText, h.services_eq]
    exact .pure rfl
  | sys hkey hrange => exact h.fact_likewise hkey hrange

theorem pieceTexts_likewise (h : Twins l scope scope' force force') {pieces pieces' : List Piece}
    (hpieces : List.Forall₂ (Piece.Like l) pieces pieces') :
    Likewise l scope (· = ·) (pieceTexts scope (effects scope force) pieces)
      (pieceTexts scope' (effects scope' force') pieces') := by
  induction hpieces with
  | nil => exact .pure rfl
  | cons hpiece _ ih =>
    cases hpiece with
    | text part => exact ih.bind fun _ _ heq => .pure (congrArg _ heq)
    | ref href =>
      refine (h.hostText_likewise href).bind fun part _ heq => ?_
      cases heq
      exact ih.bind fun _ _ heq => .pure (congrArg _ heq)

theorem isBound_eq (h : Twins l scope scope' force force') (siblings : Siblings) (key : String) :
    isBound scope' siblings key = isBound scope siblings key := by
  unfold isBound
  rw [h.slot?_eq, h.included?_eq]

/-- Keys that are alike lead through an object to the same value. -/
theorem descend_likewise (h : Twins l scope scope' force force')
    {keys keys' : List String} (hkeys : List.Forall₂ l.names keys keys')
    (segments segments' : List String) {walked walked' : List String} (value : Value) :
    Except.Rel EvaluationFault.Alike (· = ·) (descend segments walked keys value)
      (descend segments' walked' keys' value) := by
  induction hkeys generalizing walked walked' value with
  | nil => exact .ok rfl
  | @cons key key' _ _ hkey _ ih =>
    have hmember : value.member? key' = value.member? key := by
      cases value <;> simp only [Value.member?, h.canonical hkey]
    simp only [descend, hmember]
    cases value.member? key with
    | some next => exact ih next
    | none => exact .error (.missingKey _ _ _ _ _ _)

theorem nameValue_likewise (h : Twins l scope scope' force force')
    (siblings : Siblings) {name name' : String} (hname : l.names name name')
    {range range' : TextRange} (hrange : l.places range range') :
    Likewise l scope (· = ·)
      (nameValue scope (effects scope force) siblings name range)
      (nameValue scope' (effects scope' force') siblings name' range') := by
  unfold nameValue
  simp only [h.canonical hname, h.slot?_eq, h.included?_eq]
  cases sibling? siblings (Key.canonical name) with
  | some value => exact .pure rfl
  | none =>
    cases hslot : scope.slot? (Key.canonical name) with
    | some slot => exact h.force slot (Scope.binds_of_slot? hslot) hrange
    | none =>
      cases scope.included? (Key.canonical name) with
      | some value => exact .pure rfl
      | none => exact fail_likewise (.unresolved name name') hrange

theorem pathValue_likewise (h : Twins l scope scope' force force')
    (siblings : Siblings) {head head' next next' : String}
    {rest rest' : List String} (hhead : l.names head head') (hnext : l.names next next')
    (hrest : List.Forall₂ l.names rest rest') {range range' : TextRange}
    (hrange : l.places range range') :
    Likewise l scope (Except.Rel EvaluationFault.Alike (· = ·))
      (pathValue scope (effects scope force) siblings head next rest range)
      (pathValue scope' (effects scope' force') siblings head' next' rest' range') := by
  have hmember (config : Config) : config.member? next' = config.member? next := by
    simp only [Config.member?, h.canonical hnext]
  unfold pathValue
  simp only [h.canonical hhead, h.aliases_eq, hmember, h.isBound_eq]
  cases Entries.get? (Key.canonical head) scope.aliases with
  | some config =>
    dsimp only
    cases config.member? next with
    | some value => exact .pure (h.descend_likewise hrest _ _ value)
    | none => exact .pure (.error (.undefinedMember _ _ _ _ _ _))
  | none =>
    cases isBound scope siblings (Key.canonical head) with
    | false => exact .pure (.error (.unknownHead _ _ _ _))
    | true =>
      refine (h.nameValue_likewise siblings hhead hrange).bind fun value _ heq => ?_
      cases heq
      exact .pure (h.descend_likewise (.cons hnext hrest) _ _ value)

/-! ## Operands and conditions -/

theorem operandValue_likewise (h : Twins l scope scope' force force')
    (siblings : Siblings) {operand operand' : Operand}
    (hoperand : operand.Like l operand') :
    Likewise l scope (· = ·)
      (operandValue scope (effects scope force) siblings operand)
      (operandValue scope' (effects scope' force') siblings operand') := by
  cases hoperand with
  | literal hrange => exact .pure rfl
  | interpolated hpieces hrange =>
    exact (h.pieceTexts_likewise hpieces).bind fun _ _ heq => .pure (congrArg _ heq)
  | name hname hrange => exact h.nameValue_likewise siblings hname hrange
  | path hhead hnext hrest hrange =>
    refine (h.pathValue_likewise siblings hhead hnext hrest hrange).bind
      fun _ _ hresult => ?_
    cases hresult with
    | ok heq => exact .pure heq
    | error hfault => exact fail_likewise hfault hrange
  | host href => exact h.hostValue_likewise href

theorem probe_likewise (h : Twins l scope scope' force force')
    (siblings : Siblings) {operand operand' : Operand}
    (hoperand : operand.Like l operand') :
    Likewise l scope (· = ·) (probe scope (effects scope force) siblings operand)
      (probe scope' (effects scope' force') siblings operand') := by
  have hvalue := h.operandValue_likewise siblings hoperand
  cases hoperand with
  | name hname hrange =>
    simp only [probe, h.canonical hname, h.isBound_eq]
    exact .ite ((h.nameValue_likewise siblings hname hrange).bind
      fun _ _ heq => .pure (congrArg _ heq)) (.pure rfl)
  | path hhead hnext hrest hrange =>
    refine (h.pathValue_likewise siblings hhead hnext hrest hrange).bind
      fun _ _ hresult => ?_
    cases hresult with
    | ok heq => exact .pure (congrArg _ heq)
    | error hfault => exact .pure rfl
  | _ => exact hvalue.bind fun _ _ heq => .pure (congrArg _ heq)

theorem holds_likewise (h : Twins l scope scope' force force')
    (siblings : Siblings) {condition condition' : Condition}
    (hcondition : condition.Like l condition') :
    Likewise l scope (· = ·) (holds scope (effects scope force) siblings condition)
      (holds scope' (effects scope' force') siblings condition') := by
  cases hcondition with
  | presence hoperand hrange =>
    refine (h.probe_likewise siblings hoperand).bind fun found _ heq => ?_
    cases heq
    cases found <;> exact .pure rfl
  | equality hleft hright hrange =>
    simp only [holds, hleft.isHost_eq, hright.isHost_eq]
    refine (h.operandValue_likewise siblings hleft).bind fun a _ heq => ?_
    cases heq
    refine (h.operandValue_likewise siblings hright).bind fun b _ heq => ?_
    cases heq
    refine .ite (.pure rfl) ?_
    cases a.comparison b with
    | some result => exact .pure rfl
    | none => exact fail_likewise (.incomparable _ _) hrange

/-! ## Values and members -/

mutual

theorem value_likewise (h : Twins l scope scope' force force')
    (siblings : Siblings) : ∀ {expr expr' : ValueExpr}, expr.Like l expr' →
    Likewise l scope (· = ·) (value scope (effects scope force) siblings expr)
      (value scope' (effects scope' force') siblings expr')
  | _, _, .operand hoperand => by
    simp only [value]
    exact h.operandValue_likewise siblings hoperand
  | _, _, .rawString hrange => by
    simp only [value]
    exact compile_likewise _ hrange
  | _, _, .array hitems _ => by
    simp only [value]
    exact (h.values_likewise siblings hitems).bind fun _ _ heq => .pure (congrArg _ heq)
  | _, _, .choice hcondition hthen _ => by
    simp only [value, valueOrNull]
    refine (h.holds_likewise siblings hcondition).bind fun chosen _ heq => ?_
    cases heq
    exact .ite (h.value_likewise siblings hthen) (.pure rfl)
  | _, _, .choiceElse hcondition hthen helse _ => by
    simp only [value, valueOrNull]
    refine (h.holds_likewise siblings hcondition).bind fun chosen _ heq => ?_
    cases heq
    exact .ite (h.value_likewise siblings hthen) (h.value_likewise siblings helse)

theorem values_likewise (h : Twins l scope scope' force force')
    (siblings : Siblings) : ∀ {exprs exprs' : List ValueExpr},
    List.Forall₂ (ValueExpr.Like l) exprs exprs' →
    Likewise l scope (· = ·) (values scope (effects scope force) siblings exprs)
      (values scope' (effects scope' force') siblings exprs')
  | _, _, .nil => by
    simp only [values]
    exact .pure rfl
  | _, _, .cons hexpr hexprs => by
    simp only [values]
    refine (h.value_likewise siblings hexpr).bind fun first _ heq => ?_
    cases heq
    exact (h.values_likewise siblings hexprs).bind fun _ _ heq => .pure (congrArg _ heq)

end

mutual

theorem members_likewise (h : Twins l scope scope' force force')
    (path : List String) (fields : Entries Value) :
    ∀ {children children' : List Member}, List.Forall₂ (Member.Like l) children children' →
      Likewise l scope (· = ·)
        (members scope (effects scope force) path fields children)
        (members scope' (effects scope' force') path fields children')
  | _, _, .nil => by
    simp only [members]
    exact .pure rfl
  | _, _, .cons hchild hchildren => by
    simp only [members]
    refine (h.member_likewise path fields hchild).bind fun fields _ heq => ?_
    cases heq
    exact h.members_likewise path fields hchildren

theorem member_likewise (h : Twins l scope scope' force force')
    (path : List String) (fields : Entries Value) :
    ∀ {child child' : Member}, child.Like l child' →
      Likewise l scope (· = ·)
        (member scope (effects scope force) path fields child)
        (member scope' (effects scope' force') path fields child')
  | _, _, .field hname hexpr _ => by
    simp only [member, h.canonical hname]
    refine (h.value_likewise (some fields) hexpr).bind fun result _ heq => ?_
    cases heq
    exact (record_likewise _ _ _ _).bind fun _ _ _ => .pure rfl
  | _, _, .block hname hchildren _ => by
    simp only [member, h.canonical hname]
    refine (record_likewise _ _ _ _).bind fun _ _ _ => ?_
    refine (h.members_likewise _ [] hchildren).bind fun inner _ heq => ?_
    cases heq
    exact .pure rfl
  | _, _, .conditional hcondition hchildren helse _ => by
    simp only [member]
    refine (h.holds_likewise (some fields) hcondition).bind fun chosen _ heq => ?_
    cases heq
    exact .ite (h.members_likewise path fields hchildren) (h.members_likewise path fields helse)

end

/-! ## Top-level bindings -/

/-- A binding of the document is evaluated alike. -/
theorem bindingValue_likewise (h : Twins l scope scope' force force')
    {slot : Slot} (hslot : scope.Binds slot) :
    Likewise l scope (· = ·) (bindingValue scope (effects scope force) slot)
      (bindingValue scope' (effects scope' force') slot) := by
  unfold bindingValue
  cases slot with
  | global name =>
    obtain ⟨bound, hbound⟩ := Option.isSome_iff_exists.1 hslot
    obtain ⟨bound', hbound', hexpr, -⟩ := h.globals.get? hbound
    simp only [hbound, hbound']
    exact h.value_likewise none hexpr
  | item name =>
    obtain ⟨bound, hbound⟩ := Option.isSome_iff_exists.1 hslot
    obtain ⟨bound', hbound', hchildren, -⟩ := h.items.get? hbound
    simp only [hbound, hbound']
    exact (h.members_likewise _ [] hchildren).bind fun _ _ heq =>
      .pure (congrArg _ heq)

end Twins

section

variable (h : scope.Like l scope') (hnames : l.Canonical)
include h hnames

/-- A reference is forced alike: both find the value that is remembered, both stop with the
cycle, or both evaluate the binding. -/
theorem forceWith_likewise (fuel : Nat) (pending : List Slot) {slot : Slot}
    (hslot : scope.Binds slot) {range range' : TextRange} (hrange : l.places range range') :
    Likewise l scope (· = ·) (forceWith scope fuel pending slot range)
      (forceWith scope' fuel pending slot range') := by
  induction fuel generalizing pending slot range range' with
  | zero => exact .throw (.cycle _ hrange)
  | succ fuel ih =>
    intro a b hab
    have hvalue := hab.value?_eq slot
    have hnoted := hab.noted h.items.keys_eq slot
    cases hknown : a.value? slot with
    | some value =>
      rw [forceWith_known hknown, forceWith_known (hvalue.trans hknown)]
      exact .ok rfl hab
    | none =>
      by_cases hpending : slot ∈ pending
      · rw [forceWith_pending hknown hpending, forceWith_pending (hvalue.trans hknown) hpending]
        exact .error (.cycle _ hrange) hnoted
      · rw [forceWith_anew hknown hpending, forceWith_anew (hvalue.trans hknown) hpending]
        have twins : Twins l scope scope' (forceWith scope fuel (pending ++ [slot]))
            (forceWith scope' fuel (pending ++ [slot])) := ⟨h, hnames, fun _ => ih _⟩
        refine ((twins.bindingValue_likewise hslot).bind fun value _ heq => ?_) _ _ hnoted
        cases heq
        exact fun _ _ hafter => .ok rfl (hafter.remember slot value)

theorem forceSlot_likewise {slot : Slot} (hslot : scope.Binds slot) {range range' : TextRange}
    (hrange : l.places range range') :
    Likewise l scope (· = ·) (forceSlot scope slot range)
      (forceSlot scope' slot range') := by
  unfold forceSlot
  rw [h.size_eq]
  exact forceWith_likewise h hnames _ [] hslot hrange

/-! ## Documents -/

theorem globalValues_likewise {bindings bindings' : Entries (ValueExpr × TextRange)}
    (hbindings : Entries.Match l.values bindings bindings')
    (hbinds : ∀ bound ∈ bindings, scope.Binds (.global bound.1)) :
    Likewise l scope (· = ·) (globalValues scope bindings)
      (globalValues scope' bindings') := by
  induction hbindings with
  | nil => exact .pure rfl
  | @cons bound bound' _ _ hbound _ ih =>
    obtain ⟨name, expr, range⟩ := bound
    obtain ⟨_, expr', range'⟩ := bound'
    obtain ⟨rfl, -, hrange⟩ := hbound
    rw [List.forall_mem_cons] at hbinds
    refine (record_likewise _ _ _ _).bind fun _ _ _ => ?_
    refine (forceSlot_likewise h hnames hbinds.1 hrange).bind fun result _ heq => ?_
    cases heq
    exact (ih hbinds.2).bind fun _ _ heq => .pure (congrArg _ heq)

theorem metadataValues_likewise {bindings bindings' : List (String × ValueExpr × TextRange)}
    (hbindings : Entries.Match l.values bindings bindings')
    (given : Entries Value) :
    Likewise l scope (· = ·) (metadataValues scope given bindings)
      (metadataValues scope' given bindings') := by
  induction hbindings generalizing given with
  | nil => exact .pure rfl
  | @cons bound bound' _ _ hbound _ ih =>
    obtain ⟨name, expr, range⟩ := bound
    obtain ⟨_, expr', range'⟩ := bound'
    obtain ⟨rfl, hexpr, -⟩ := hbound
    have twins : Twins l scope scope' (forceSlot scope) (forceSlot scope') :=
      ⟨h, hnames, fun _ => forceSlot_likewise h hnames⟩
    refine (twins.value_likewise none hexpr).bind fun result _ heq => ?_
    cases heq
    exact (record_likewise _ _ _ _).bind fun _ _ _ => ih _

theorem itemValues_likewise {bindings bindings' : Entries (List Member × TextRange)}
    (hbindings : Entries.Match l.blocks bindings bindings')
    (hbinds : ∀ bound ∈ bindings, scope.Binds (.item bound.1)) :
    Likewise l scope (· = ·) (itemValues scope bindings)
      (itemValues scope' bindings') := by
  induction hbindings with
  | nil => exact .pure rfl
  | @cons bound bound' _ _ hbound _ ih =>
    obtain ⟨name, children, range⟩ := bound
    obtain ⟨_, children', range'⟩ := bound'
    obtain ⟨rfl, -, hrange⟩ := hbound
    rw [List.forall_mem_cons] at hbinds
    refine (forceSlot_likewise h hnames hbinds.1 hrange).bind fun result _ heq => ?_
    cases heq
    exact (ih hbinds.2).bind fun _ _ heq => .pure (congrArg _ heq)

end

end Evaluation

open Evaluation in
/-- Scopes that are alike are evaluated to configurations that are alike, or they are stopped
by flaws that are alike. -/
theorem Scope.evaluate_likewise {scope scope' : Scope} (h : scope.Like l scope')
    (hnames : l.Canonical) :
    Likewise l scope Config.Like scope.evaluate scope'.evaluate := by
  have hglobals := globalValues_likewise h hnames h.globals fun bound hbound =>
    Entries.contains_iff_mem_keys.2 (List.mem_map_of_mem hbound)
  have hitems := itemValues_likewise h hnames h.items fun bound hbound =>
    Entries.contains_iff_mem_keys.2 (List.mem_map_of_mem hbound)
  refine hglobals.bind fun globals _ heq => ?_
  cases heq
  refine (metadataValues_likewise h hnames h.metadata []).bind fun metadata _ heq => ?_
  cases heq
  refine hitems.bind fun items _ heq => ?_
  cases heq
  intro a b hab
  refine .ok ⟨h.withIncluded_eq _ _, h.withIncluded_eq _ _, rfl, ?_⟩ hab
  simp only [h.includedLocations_eq, Entries.keys_merge, hab.places_eq]

/-- Flaws that are alike cause failures of one kind, whatever texts they are told with. -/
theorem Flaw.Like.failure_alike {flaw flaw' : Flaw} (h : flaw.Like l flaw')
    (source source' : Source) :
    (flaw.failure source).Alike Diagnostic.SameCode (flaw'.failure source') := by
  cases h with
  | cycle chain hrange => exact .unresolved rfl
  | fault hfault hrange =>
    cases hfault with
    | incomparable left right => exact .typeMismatch rfl
    | badPattern fault pattern =>
      simp only [Flaw.failure, RegexFault.failure]
      cases fault.fault? with
      | some other => exact .fault other
      | none =>
        refine .badPattern ?_ pattern
        rfl
    | _ => exact .unresolved rfl

/-! ## Scopes of documents -/

/-- Documents that are alike gather alike. -/
theorem Document.Like.gathers {document document' : Document} (h : document.Like l document') :
    List.Forall₂ (Gather.Like l) document.gathers document'.gathers := by
  refine List.rel_filterMap (fun statement statement' hstatement => ?_) h
  cases hstatement with
  | gather hgather => exact .some hgather
  | _ => exact .none

section

variable {document document' : Document} (h : document.Like l document') (hnames : l.Canonical)
include h hnames

theorem Scope.globalsOf_like :
    Entries.Match l.values (globalsOf document) (globalsOf document') := by
  refine Entries.Match.ofList (List.rel_filterMap (fun statement statement' hstatement => ?_) h)
  cases hstatement with
  | global hname hvalue hrange => exact .some ⟨hnames hname, hvalue, hrange⟩
  | _ => exact .none

theorem Scope.itemsOf_like :
    Entries.Match l.blocks (itemsOf document) (itemsOf document') := by
  refine Entries.Match.ofList (List.rel_filterMap (fun statement statement' hstatement => ?_) h)
  cases hstatement with
  | block hname hchildren hrange => exact .some ⟨hnames hname, hchildren, hrange⟩
  | _ => exact .none

theorem Scope.metadataOf_like :
    Entries.Match l.values (metadataOf document) (metadataOf document') := by
  refine List.rel_filterMap (fun statement statement' hstatement => ?_) h
  cases hstatement with
  | metadata hkey hvalue hrange => exact .some ⟨hnames hkey, hvalue, hrange⟩
  | _ => exact .none

/-- They include the same configurations. -/
theorem Scope.includesOf_like (aliases : Entries Config) :
    includesOf document' aliases = includesOf document aliases := by
  have hgathers := h.gathers
  unfold includesOf
  generalize document.gathers = gathers at hgathers ⊢
  generalize document'.gathers = gathers' at hgathers ⊢
  induction hgathers with
  | nil => rfl
  | cons hgather _ ih =>
    simp only [List.filter_cons, hgather.explicitAlias_eq]
    split
    · simp only [List.filterMap_cons, hnames hgather.aliasName, ih]
    · exact ih

/-- Documents that are alike have scopes that are alike, with the same services and the same
gathered configurations. -/
theorem Scope.ofDocument_like (source source' : Source) (services : Services)
    (aliases : Entries Config) :
    (ofDocument source services document aliases).Like l
      (ofDocument source' services document' aliases) where
  services_eq := rfl
  globals := globalsOf_like h hnames
  items := itemsOf_like h hnames
  metadata := metadataOf_like h hnames
  aliases_eq := rfl
  includes_eq := includesOf_like h hnames aliases

end

end Rune
