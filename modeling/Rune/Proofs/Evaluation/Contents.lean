import Rune.Proofs.Evaluation.CallByName
import Rune.Proofs.Session.Includes
import Rune.Proofs.Tree.Names
import Rune.Proofs.Tree.Operands

/-!
# Rune - what values are built from

A value comes out of a document with the numbers that are written in the document and with the
keys that the names of the document give.  What is true of all of these, and of the numbers and
keys of the modules that are gathered, is true of all numbers and keys in the value, at every
depth.

Main results:

- Relation {lit}`Value.BuiltFrom` says which numbers and keys a value is built from, and
  {lit}`Config.BuiltFrom` says it of a configuration.
- Theorem {lit}`ByName.slotValue_builtFrom`: what the values of bindings are built from.
- Theorem {lit}`Scope.builtFrom_of_evaluate`: what the configuration of a document is built from.
-/

namespace Rune

/-! ## Numbers and keys of a value -/

/-- Which numbers and which keys may stand in a value. -/
structure Material where
  Number : Number → Prop
  Key : String → Prop

/-- A value is built from numbers and keys that may stand in it, at every depth.  No object has a
key twice. -/
inductive Value.BuiltFrom (material : Material) : Value → Prop
  | string (text : String) : BuiltFrom material (.string text)
  | number {number : Number} (hnumber : material.Number number) :
    BuiltFrom material (.number number)
  | bool (flag : Bool) : BuiltFrom material (.bool flag)
  | null : BuiltFrom material .null
  | pattern (pattern : Pattern) : BuiltFrom material (.pattern pattern)
  | array {items : List Value} (hitems : ∀ item ∈ items, BuiltFrom material item) :
    BuiltFrom material (.array items)
  | object {entries : Entries Value} (hnodup : (Entries.keys entries).Nodup)
      (hkeys : ∀ key ∈ Entries.keys entries, material.Key key)
      (hvalues : ∀ entry ∈ entries, BuiltFrom material entry.2) :
    BuiltFrom material (.object entries)

/-- Entries are built from different keys that may stand there, and of values that are built so. -/
structure Entries.BuiltFrom (material : Material) (entries : Entries Value) : Prop where
  nodup : (Entries.keys entries).Nodup
  isKey : ∀ key ∈ Entries.keys entries, material.Key key
  values : ∀ entry ∈ entries, entry.2.BuiltFrom material

/-- All namespaces of a configuration are built from such numbers and keys. -/
def Config.BuiltFrom (material : Material) (config : Config) : Prop :=
  ∀ space, Entries.BuiltFrom material (config.values space)

section

variable {material : Material}

theorem Value.builtFrom_object_iff {entries : Entries Value} :
    (Value.object entries).BuiltFrom material ↔ Entries.BuiltFrom material entries := by
  constructor
  · rintro (_ | _ | _ | _ | _ | _ | ⟨hnodup, hkeys, hvalues⟩)
    exact ⟨hnodup, hkeys, hvalues⟩
  · rintro ⟨hnodup, hkeys, hvalues⟩
    exact .object hnodup hkeys hvalues

theorem Value.builtFrom_ofScalar {scalar : Scalar}
    (h : ∀ number, scalar = .number number → material.Number number) :
    (Value.ofScalar scalar).BuiltFrom material := by
  cases scalar with
  | number number => exact .number (h number rfl)
  | _ => constructor

namespace Entries.BuiltFrom

variable {entries : Entries Value} {key : String} {value : Value}

theorem nil : BuiltFrom material [] := ⟨List.nodup_nil, nofun, nofun⟩

theorem get? (h : BuiltFrom material entries) (hvalue : Entries.get? key entries = some value) :
    value.BuiltFrom material := h.values _ (Entries.mem_of_get? hvalue)

/-- What is found under a key, where the key may be spelled in any way. -/
theorem member? {spelled : String} {object : Value} (h : object.BuiltFrom material)
    (hvalue : object.member? spelled = some value) : value.BuiltFrom material := by
  cases h with
  | object hnodup hkeys hvalues => exact get? ⟨hnodup, hkeys, hvalues⟩ hvalue
  | _ => cases hvalue

/-- Entries that are given one after another. -/
theorem ofList {given : Entries Value}
    (h : ∀ entry ∈ given, material.Key entry.1 ∧ entry.2.BuiltFrom material) :
    BuiltFrom material (Entries.ofList given) where
  nodup := Entries.nodup_keys_ofList given
  isKey := List.forall_mem_map.2 fun entry hentry => (h entry (Entries.mem_of_mem_ofList hentry)).1
  values entry hentry := (h entry (Entries.mem_of_mem_ofList hentry)).2

theorem insert (h : BuiltFrom material entries) (hkey : material.Key key)
    (hvalue : value.BuiltFrom material) :
    BuiltFrom material (Entries.insert key value entries) := by
  have hnodup : (Entries.keys (Entries.insert key value entries)).Nodup :=
    Entries.nodup_keys_insert h.nodup
  refine ⟨hnodup, fun other hother => ?_, fun entry hentry => ?_⟩
  · rcases Entries.mem_keys_insert.1 hother with rfl | hother
    · exact hkey
    · exact h.isKey other hother
  · have hget := Entries.get?_of_mem hnodup hentry
    by_cases hsame : entry.1 = key
    · rw [hsame, Entries.get?_insert_self] at hget
      exact Option.some.inj hget ▸ hvalue
    · rw [Entries.get?_insert_of_ne hsame] at hget
      exact h.get? hget

end Entries.BuiltFrom

end

/-! ## Outcomes -/

/-- If an outcome is a value, the value has a property. -/
def Outcome.Ensures {ε α : Type} (property : α → Prop) (o : Outcome ε α) : Prop :=
  ∀ a, o = .value a → property a

namespace Outcome.Ensures

variable {ε α β : Type} {property : α → Prop} {other : β → Prop}

theorem value {a : α} (h : property a) : Ensures property (.value a : Outcome ε α) := by
  rintro _ ⟨⟩
  exact h

theorem failure (error : ε) : Ensures property (.failure error) := nofun

theorem trivial (o : Outcome ε α) : Ensures (fun _ => True) o := fun _ _ => True.intro

theorem bind {o : Outcome ε α} {f : α → Outcome ε β} (ho : Ensures property o)
    (hf : ∀ a, property a → Ensures other (f a)) : Ensures other (o >>= f) := by
  intro b hb
  obtain ⟨a, ha, hb⟩ := Outcome.bind_eq_value_iff.1 hb
  exact hf a (ho a ha) b hb

end Outcome.Ensures

/-! ## Documents -/

/-- The numbers among operands may stand in a value. -/
def Material.Numbers (material : Material) (operands : List Operand) : Prop :=
  ∀ number range, .literal (.number number) range ∈ operands → material.Number number

theorem Material.numbers_append {material : Material} {operands operands' : List Operand} :
    material.Numbers (operands ++ operands') ↔
      material.Numbers operands ∧ material.Numbers operands' := by
  simp only [Numbers, List.mem_append, or_imp, forall_and]

/-- The names of a document are in canonical spelling keys that may stand in a value, and so may
the numbers that are written in it. -/
structure Document.BuiltFrom (material : Material) (document : Document) : Prop where
  names : ∀ name ∈ document.names, material.Key (Key.canonical name)
  numbers : ∀ statement ∈ document, material.Numbers statement.operands

/-- The keys and numbers of bindings may stand in a value, and the modules that a scope gathers
are built from such ones. -/
structure Scope.BuiltFrom (material : Material) (scope : Scope) : Prop where
  globals : ∀ bound ∈ scope.globals,
    material.Key bound.1 ∧ material.Numbers bound.2.1.operands
  metadata : ∀ bound ∈ scope.metadata,
    material.Key bound.1 ∧ material.Numbers bound.2.1.operands
  items : ∀ bound ∈ scope.items,
    material.Key bound.1 ∧
      (∀ name ∈ Member.namesOfAll bound.2.1, material.Key (Key.canonical name)) ∧
      material.Numbers (Member.operandsOfAll bound.2.1)
  aliases : ∀ key config, Entries.get? key scope.aliases = some config → config.BuiltFrom material
  includes : ∀ config ∈ scope.includes, config.BuiltFrom material

variable {material : Material}

namespace Scope.BuiltFrom

variable {scope : Scope}

/-- The scope of a document with modules that are built so. -/
theorem ofDocument {source : Source} {services : Services} {document : Document}
    {aliases : Entries Config} (hdocument : document.BuiltFrom material)
    (haliases : ∀ key config, Entries.get? key aliases = some config → config.BuiltFrom material) :
    (Scope.ofDocument source services document aliases).BuiltFrom material := by
  have hname {statement : Statement} (hstatement : statement ∈ document) {name : String}
      (h : name ∈ statement.names) : material.Key (Key.canonical name) :=
    hdocument.names name (List.mem_flatMap.2 ⟨statement, hstatement, h⟩)
  constructor
  case globals =>
    intro bound hbound
    obtain ⟨name, hstatement, heq⟩ := exists_of_mem_globalsOf hbound
    exact ⟨heq ▸ hname hstatement (by simp [Statement.names]), hdocument.numbers _ hstatement⟩
  case metadata =>
    intro bound hbound
    obtain ⟨key, hstatement, heq⟩ := exists_of_mem_metadataOf hbound
    exact ⟨heq ▸ hname hstatement (by simp [Statement.names]), hdocument.numbers _ hstatement⟩
  case items =>
    intro bound hbound
    obtain ⟨name, hstatement, heq⟩ := exists_of_mem_itemsOf hbound
    exact ⟨heq ▸ hname hstatement (by simp [Statement.names]),
      fun child hchild => hname hstatement (List.mem_cons_of_mem _ hchild),
      hdocument.numbers _ hstatement⟩
  case aliases => exact haliases
  case includes =>
    intro config hconfig
    obtain ⟨g, -, hget⟩ := List.mem_filterMap.1 hconfig
    exact haliases _ config hget

theorem included? (h : scope.BuiltFrom material) {key : String} {value : Value}
    (hvalue : scope.included? key = some value) : value.BuiltFrom material := by
  obtain ⟨config, hconfig, hfound⟩ := List.exists_of_findSome?_eq_some hvalue
  have hbuilt := h.includes config (List.mem_reverse.1 hconfig)
  rcases Option.or_eq_some_iff.1 hfound with hglobal | ⟨-, hitem⟩
  · exact (hbuilt .globals).get? hglobal
  · exact (hbuilt .items).get? hitem

end Scope.BuiltFrom

namespace Evaluation

/-- What the fields around a value are built from. -/
def SiblingsBuiltFrom (material : Material) (siblings : Siblings) : Prop :=
  ∀ key value, sibling? siblings key = some value → value.BuiltFrom material

theorem siblingsBuiltFrom_none : SiblingsBuiltFrom material none := fun _ _ h => nomatch h

theorem siblingsBuiltFrom_some {fields : Entries Value} (h : Entries.BuiltFrom material fields) :
    SiblingsBuiltFrom material (some fields) := fun _ _ => h.get?

/-- Going down a value leads to values that are built from the same. -/
theorem descend_builtFrom {segments keys : List String} :
    ∀ {walked : List String} {value found : Value}, value.BuiltFrom material →
      descend segments walked keys value = .ok found → found.BuiltFrom material := by
  induction keys with
  | nil =>
    intro walked value found hvalue h
    cases h
    exact hvalue
  | cons key keys ih =>
    intro walked value found hvalue h
    unfold descend at h
    split at h
    · rename_i next hnext
      exact ih (Entries.BuiltFrom.member? hvalue hnext) h
    · cases h

end Evaluation

namespace ByName

open Evaluation

/-- Names stand for values that are built so: those of bindings and those of modules. -/
structure CallsBuiltFrom (material : Material) (scope : Scope)
    (call : Slot → Outcome Flaw Value) : Prop where
  scope : scope.BuiltFrom material
  call : ∀ slot, (call slot).Ensures (Value.BuiltFrom material)

namespace CallsBuiltFrom

variable {scope : Scope} {call : Slot → Outcome Flaw Value} {siblings : Siblings}

theorem nameValue (h : CallsBuiltFrom material scope call)
    (hsiblings : SiblingsBuiltFrom material siblings) (name : String) (range : TextRange) :
    (Evaluation.nameValue scope (effects scope call) siblings name range).Ensures
      (Value.BuiltFrom material) := by
  unfold Evaluation.nameValue
  dsimp only
  split
  · rename_i value hvalue
    exact .value (hsiblings _ _ hvalue)
  · split
    · exact h.call _
    · split
      · rename_i value hvalue
        exact .value (h.scope.included? hvalue)
      · exact .failure _

theorem pathValue (h : CallsBuiltFrom material scope call)
    (hsiblings : SiblingsBuiltFrom material siblings) (head next : String) (rest : List String)
    (range : TextRange) :
    (Evaluation.pathValue scope (effects scope call) siblings head next rest range).Ensures
      fun result => ∀ value, result = .ok value → value.BuiltFrom material := by
  unfold Evaluation.pathValue
  dsimp only
  split
  · rename_i config hconfig
    have hbuilt := h.scope.aliases _ config hconfig
    cases hmember : config.member? next with
    | none => exact .value nofun
    | some member =>
      have hfound : member.BuiltFrom material := by
        rcases Option.or_eq_some_iff.1 hmember with hitem | ⟨-, hglobal⟩
        · exact (hbuilt .items).get? hitem
        · exact (hbuilt .globals).get? hglobal
      exact .value fun value hvalue => descend_builtFrom hfound hvalue
  · split
    · exact (h.nameValue hsiblings head range).bind fun found hfound =>
        .value fun value hvalue => descend_builtFrom hfound hvalue
    · exact .value nofun

theorem operandValue (h : CallsBuiltFrom material scope call)
    (hsiblings : SiblingsBuiltFrom material siblings) (operand : Operand)
    (hnumbers : material.Numbers [operand]) :
    (Evaluation.operandValue scope (effects scope call) siblings operand).Ensures
      (Value.BuiltFrom material) := by
  cases operand with
  | literal scalar range =>
    refine .value (Value.builtFrom_ofScalar ?_)
    rintro number rfl
    exact hnumbers number range List.mem_cons_self
  | interpolated pieces range =>
    exact (Outcome.Ensures.trivial _).bind fun text _ => .value (.string text)
  | name name range => exact h.nameValue hsiblings name range
  | path head next rest range =>
    refine (h.pathValue hsiblings head next rest range).bind fun result hresult => ?_
    cases result with
    | ok value => exact .value (hresult value rfl)
    | error fault => exact .failure _
  | host ref =>
    cases ref with
    | env name range =>
      simp only [Evaluation.operandValue, hostValue]
      split
      · exact .value (.string _)
      · exact .value .null
    | sys key range => exact (Outcome.Ensures.trivial _).bind fun text _ => .value (.string text)

mutual

theorem value (h : CallsBuiltFrom material scope call)
    (hsiblings : SiblingsBuiltFrom material siblings) (expr : ValueExpr)
    (hnumbers : material.Numbers expr.operands) :
    (Evaluation.value scope (effects scope call) siblings expr).Ensures
      (Value.BuiltFrom material) := by
  match expr with
  | .operand operand =>
    rw [ValueExpr.operands] at hnumbers
    exact h.operandValue hsiblings operand hnumbers
  | .rawString source range =>
    simp only [Evaluation.value, effects, ByName.compile]
    split
    · exact .value (.pattern _)
    · exact .failure _
  | .array items range =>
    rw [ValueExpr.operands] at hnumbers
    exact (h.values hsiblings items hnumbers).bind fun found hfound => .value (.array hfound)
  | .conditional condition thenValue elseValue range =>
    rw [ValueExpr.operands, Material.numbers_append, Material.numbers_append] at hnumbers
    refine (Outcome.Ensures.trivial _).bind fun answer _ => ?_
    cases answer with
    | true => exact h.value hsiblings thenValue hnumbers.2.1
    | false => exact h.valueOrNull hsiblings elseValue hnumbers.2.2

theorem values (h : CallsBuiltFrom material scope call)
    (hsiblings : SiblingsBuiltFrom material siblings) (exprs : List ValueExpr)
    (hnumbers : material.Numbers (ValueExpr.operandsOfAll exprs)) :
    (Evaluation.values scope (effects scope call) siblings exprs).Ensures
      fun found => ∀ item ∈ found, item.BuiltFrom material := by
  match exprs with
  | [] => exact .value nofun
  | expr :: exprs =>
    rw [ValueExpr.operandsOfAll, Material.numbers_append] at hnumbers
    exact (h.value hsiblings expr hnumbers.1).bind fun first hfirst =>
      (h.values hsiblings exprs hnumbers.2).bind fun others hothers =>
        .value (List.forall_mem_cons.2 ⟨hfirst, hothers⟩)

theorem valueOrNull (h : CallsBuiltFrom material scope call)
    (hsiblings : SiblingsBuiltFrom material siblings) (expr : Option ValueExpr)
    (hnumbers : material.Numbers (ValueExpr.operandsOfOption expr)) :
    (Evaluation.valueOrNull scope (effects scope call) siblings expr).Ensures
      (Value.BuiltFrom material) := by
  match expr with
  | some expr =>
    rw [ValueExpr.operandsOfOption] at hnumbers
    exact h.value hsiblings expr hnumbers
  | none => exact .value .null

end

mutual

theorem members (h : CallsBuiltFrom material scope call) (path : List String)
    {fields : Entries Value} (hfields : fields.BuiltFrom material) (children : List Member)
    (hnames : ∀ name ∈ Member.namesOfAll children, material.Key (Key.canonical name))
    (hnumbers : material.Numbers (Member.operandsOfAll children)) :
    (Evaluation.members scope (effects scope call) path fields children).Ensures
      (Entries.BuiltFrom material) := by
  match children with
  | [] => exact .value hfields
  | child :: children =>
    rw [Member.namesOfAll, List.forall_mem_append] at hnames
    rw [Member.operandsOfAll, Material.numbers_append] at hnumbers
    exact (h.member path hfields child hnames.1 hnumbers.1).bind fun fields hfields =>
      h.members path hfields children hnames.2 hnumbers.2

theorem member (h : CallsBuiltFrom material scope call) (path : List String)
    {fields : Entries Value} (hfields : fields.BuiltFrom material) (child : Member)
    (hnames : ∀ name ∈ child.names, material.Key (Key.canonical name))
    (hnumbers : material.Numbers child.operands) :
    (Evaluation.member scope (effects scope call) path fields child).Ensures
      (Entries.BuiltFrom material) := by
  match child with
  | .field name expr range =>
    have hkey := hnames name (by simp [Member.names])
    rw [Member.operands] at hnumbers
    exact (h.value (siblingsBuiltFrom_some hfields) expr hnumbers).bind fun value hvalue =>
      (Outcome.Ensures.trivial _).bind fun _ _ => .value (hfields.insert hkey hvalue)
  | .block name children range =>
    rw [Member.names, List.forall_mem_cons] at hnames
    rw [Member.operands] at hnumbers
    exact (Outcome.Ensures.trivial _).bind fun _ _ =>
      (h.members _ .nil children hnames.2 hnumbers).bind fun inner hinner =>
        .value (hfields.insert hnames.1 (Value.builtFrom_object_iff.2 hinner))
  | .conditional condition children elseChildren range =>
    rw [Member.names, List.forall_mem_append] at hnames
    rw [Member.operands, Material.numbers_append, Material.numbers_append] at hnumbers
    refine (Outcome.Ensures.trivial _).bind fun answer _ => ?_
    cases answer with
    | true => exact h.members path hfields children hnames.1 hnumbers.2.1
    | false => exact h.members path hfields elseChildren hnames.2 hnumbers.2.2

end

/-- What the value of a binding is built from, if those of the bindings that it refers to are
built so. -/
theorem bindingValue (h : CallsBuiltFrom material scope call) (slot : Slot) :
    (Evaluation.bindingValue scope (effects scope call) slot).Ensures
      (Value.BuiltFrom material) := by
  unfold Evaluation.bindingValue
  cases slot with
  | global name =>
    dsimp only
    cases hbound : Entries.get? name scope.globals with
    | some bound =>
      have hnumbers := (h.scope.globals _ (Entries.mem_of_get? hbound)).2
      exact h.value siblingsBuiltFrom_none bound.1 hnumbers
    | none => exact .failure _
  | item name =>
    dsimp only
    cases hbound : Entries.get? name scope.items with
    | some bound =>
      obtain ⟨-, hnames, hnumbers⟩ := h.scope.items _ (Entries.mem_of_get? hbound)
      exact (h.members _ .nil bound.1 hnames hnumbers).bind fun fields hfields =>
        .value (Value.builtFrom_object_iff.2 hfields)
    | none => exact .failure _

end CallsBuiltFrom

section

variable {scope : Scope} (hscope : scope.BuiltFrom material)
include hscope

/-- What the values of bindings are built from.  The induction is on how deep they refer to each
other. -/
theorem slotValue_builtFrom (depth : Nat) (slot : Slot) :
    (slotValue scope depth slot).Ensures (Value.BuiltFrom material) := by
  induction depth generalizing slot with
  | zero => exact nofun
  | succ depth ih => exact CallsBuiltFrom.bindingValue ⟨hscope, ih⟩ slot

/-- What a task yields is built from what may stand there, if its own numbers may. -/
theorem Yields.builtFrom {task : Task} {value : Value} (h : Yields scope task value)
    (htask : ∀ expr, task = .metadata expr → material.Numbers expr.operands) :
    value.BuiltFrom material := by
  obtain ⟨depth, h⟩ := h
  cases task with
  | slot slot => exact slotValue_builtFrom hscope depth slot value h
  | metadata expr =>
    have hcalls : CallsBuiltFrom material scope (slotValue scope depth) :=
      ⟨hscope, slotValue_builtFrom hscope depth⟩
    exact hcalls.value siblingsBuiltFrom_none expr (htask expr rfl) value h

/-- What the entries are built from that bindings yield. -/
theorem Fills.builtFrom {β : Type} {task : String × β → Task} {bindings : List (String × β)}
    {entries : Entries Value} (h : Fills scope task bindings entries)
    (hbindings : ∀ bound ∈ bindings, material.Key bound.1 ∧
      ∀ expr, task bound = .metadata expr → material.Numbers expr.operands) :
    ∀ entry ∈ entries, material.Key entry.1 ∧ entry.2.BuiltFrom material := by
  induction h with
  | nil => exact nofun
  | cons hentry _ ih =>
    rw [List.forall_mem_cons] at hbindings ⊢
    obtain ⟨⟨hkey, htask⟩, hothers⟩ := hbindings
    exact ⟨⟨hentry.1 ▸ hkey, hentry.2.builtFrom hscope htask⟩, ih hothers⟩

/-- What the configuration of a document is built from. -/
theorem Describes.builtFrom {config : Config} (h : Describes scope config) :
    config.BuiltFrom material := by
  obtain ⟨⟨globals, hglobals, heqGlobals⟩, ⟨items, hitems, heqItems⟩,
    ⟨metadata, hmetadata, heqMetadata⟩⟩ := h
  -- What is included stands before what is the document's own.
  have hlayers {space : Namespace} {own : Entries Value}
      (hown : ∀ entry ∈ own, material.Key entry.1 ∧ entry.2.BuiltFrom material) :
      (scope.withIncluded space own).BuiltFrom material := by
    have hall : ∀ entry ∈ scope.includes.flatMap (·.values space) ++ own,
        material.Key entry.1 ∧ entry.2.BuiltFrom material := by
      refine List.forall_mem_append.2 ⟨fun entry hentry => ?_, hown⟩
      obtain ⟨config, hconfig, hentry⟩ := List.mem_flatMap.1 hentry
      have hbuilt := hscope.includes config hconfig space
      exact ⟨hbuilt.isKey _ (List.mem_map_of_mem hentry), hbuilt.values entry hentry⟩
    rw [Scope.withIncluded_eq]
    exact .ofList hall
  intro space
  cases space with
  | globals =>
    rw [Config.values, heqGlobals]
    exact hlayers (hglobals.builtFrom hscope fun bound hbound =>
      ⟨(hscope.globals bound hbound).1, fun _ htask => nomatch htask⟩)
  | items =>
    rw [Config.values, heqItems]
    exact hlayers (hitems.builtFrom hscope fun bound hbound =>
      ⟨(hscope.items bound hbound).1, fun _ htask => nomatch htask⟩)
  | metadata =>
    rw [Config.values, heqMetadata]
    refine .ofList (hmetadata.builtFrom hscope fun bound hbound => ?_)
    obtain ⟨hkey, hnumbers⟩ := hscope.metadata bound hbound
    refine ⟨hkey, ?_⟩
    rintro _ ⟨⟩
    exact hnumbers

end

end ByName

/-- The configuration of a document is built from what the document and its modules are. -/
theorem Scope.builtFrom_of_evaluate {scope : Scope} (hscope : scope.BuiltFrom material)
    {resources : Resources} (htruthful : resources.Truthful scope.services.system)
    {config : Config} {after : Memory}
    (h : scope.evaluate (.fresh resources) = .ok config after) : config.BuiltFrom material := by
  have performed := scope.evaluate_performs _ (Memory.faithful_fresh htruthful)
  rw [h] at performed
  exact performed.2.2.builtFrom hscope

end Rune
