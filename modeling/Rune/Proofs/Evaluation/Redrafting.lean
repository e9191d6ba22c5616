import Rune.Proofs.Entries
import Rune.Proofs.Evaluation.Editing
import Rune.Proofs.Evaluation.Performing

/-!
# Rune - documents whose bindings yield the same values

A document is evaluated successfully if all of its tasks yield values, and what they
yield makes up the configuration.  So a document that is edited statement by statement
comes to the same entries in the same order.

Main results:

- Theorem {lit}`Scope.evaluate_of_yields`: the evaluation succeeds if all tasks yield values.
- Theorem {lit}`Scope.revises_of_edits`: a document that is edited statement by statement
  binds edited trees to the same names.
- Theorem {lit}`Scope.evaluate_edited`: it comes to the same globals, items and metadata.
-/

namespace Rune

/-! ## Evaluation succeeds -/

open ByName in
/-- A document all of whose tasks yield values is evaluated, and its configuration holds
what they yield. -/
theorem Scope.evaluate_of_yields {scope : Scope}
    (h : ∀ task ∈ scope.tasks, ∃ value, Yields scope task value) {memory : Memory}
    (hmemory : memory.Faithful scope) :
    ∃ config after, scope.evaluate memory = .ok config after ∧ Describes scope config := by
  have performed := scope.evaluate_performs memory hmemory
  generalize scope.evaluate memory = result at performed ⊢
  cases result with
  | ok config after => exact ⟨config, after, rfl, performed.2.2⟩
  | error flaw after =>
    obtain ⟨before, task, rest, htasks, -, hstops⟩ := performed
    obtain ⟨value, hvalue⟩ := h task (by simp [htasks])
    exact absurd hvalue (hstops.not_yields value)

/-! ## Documents that are edited -/

/-- What a document includes does not depend on the places of its gathers. -/
theorem Scope.includesOf_eq {document document' : Document}
    (h : document'.gathers.map Gather.unplaced = document.gathers.map Gather.unplaced)
    (aliases : Entries Config) : includesOf document' aliases = includesOf document aliases := by
  have unplaced (gathers : List Gather) :
      (gathers.filter (!·.explicitAlias)).filterMap (fun gather =>
        Entries.get? (Key.canonical gather.aliasName) aliases) =
      ((gathers.map Gather.unplaced).filter (!·.explicitAlias)).filterMap fun gather =>
        Entries.get? (Key.canonical gather.aliasName) aliases := by
    rw [List.filter_map, List.filterMap_map]
    rfl
  rw [includesOf, includesOf, unplaced, h, ← unplaced]

/-- Names stand for the same things in two documents with the same gathers and the same
names in the same services. -/
theorem Scope.seesLike_ofDocument {source source' : Source} {services : Services}
    {document document' : Document} {aliases : Entries Config}
    (hgathers : document'.gathers.map Gather.unplaced = document.gathers.map Gather.unplaced)
    (hglobals : ∀ key, Entries.contains key (globalsOf document') =
      Entries.contains key (globalsOf document))
    (hitems : ∀ key, Entries.contains key (itemsOf document') =
      Entries.contains key (itemsOf document)) :
    (ofDocument source services document aliases).SeesLike
      (ofDocument source' services document' aliases) where
  services := rfl
  aliases := rfl
  includes := includesOf_eq hgathers aliases
  slot? key := by
    simp only [slot?, ofDocument, hglobals key, hitems key]
    rfl

section

variable {scope : Scope} {document document' : Document}
  (h : List.Forall₂ (EditsStatement scope) document document')
include h

theorem gathers_of_edits :
    document'.gathers.map Gather.unplaced = document.gathers.map Gather.unplaced := by
  induction h with
  | nil => rfl
  | cons hstatement _ ih =>
    cases hstatement with
    | gather hgather => simpa [Document.gathers, hgather] using ih
    | _ => simpa [Document.gathers] using ih

theorem globals_of_edits :
    Entries.Match (fun bound bound' => EditsValue scope none bound.1 bound'.1)
      (Scope.globalsOf document) (Scope.globalsOf document') := by
  refine Entries.Match.ofList ?_
  induction h with
  | nil => exact .nil
  | cons hstatement _ ih =>
    cases hstatement with
    | global hexpr => exact .cons ⟨rfl, hexpr⟩ ih
    | _ => exact ih

theorem items_of_edits :
    Entries.Match (fun bound bound' => EditsMembers scope [] bound.1 bound'.1)
      (Scope.itemsOf document) (Scope.itemsOf document') := by
  refine Entries.Match.ofList ?_
  induction h with
  | nil => exact .nil
  | cons hstatement _ ih =>
    cases hstatement with
    | block hchildren => exact .cons ⟨rfl, hchildren⟩ ih
    | _ => exact ih

theorem metadata_of_edits :
    Entries.Match (fun bound bound' => EditsValue scope none bound.1 bound'.1)
      (Scope.metadataOf document) (Scope.metadataOf document') := by
  induction h with
  | nil => exact .nil
  | cons hstatement _ ih =>
    cases hstatement with
    | metadata hexpr => exact .cons ⟨rfl, hexpr⟩ ih
    | _ => exact ih

end

/-- A document that is edited statement by statement binds edited trees to the same
names. -/
theorem Scope.revises_of_edits {source source' : Source} {services : Services}
    {document document' : Document} {aliases : Entries Config}
    (h : List.Forall₂ (EditsStatement (ofDocument source services document aliases))
      document document') :
    (ofDocument source services document aliases).Revises
      (ofDocument source' services document' aliases) where
  sees := seesLike_ofDocument (gathers_of_edits h)
    (Entries.contains_eq_of_keys_eq (globals_of_edits h).keys_eq)
    (Entries.contains_eq_of_keys_eq (items_of_edits h).keys_eq)
  globals _ _ hbound := (globals_of_edits h).get? hbound
  items _ _ hbound := (items_of_edits h).get? hbound

namespace ByName

/-- Bindings of a second document have the same keys in the same order, and their tasks
yield the values that those of the first one do. -/
def Keeps {β : Type} (scope scope' : Scope) (task : String × β → Task)
    (bindings bindings' : List (String × β)) : Prop :=
  List.Forall₂ (fun bound bound' => bound'.1 = bound.1 ∧
    ∀ value, Yields scope (task bound) value → Yields scope' (task bound') value)
    bindings bindings'

namespace Keeps

variable {β : Type} {scope scope' : Scope} {task : String × β → Task}
  {bindings bindings' : List (String × β)}

/-- All tasks of the second document yield values if those of the first one do. -/
theorem yields (h : Keeps scope scope' task bindings bindings')
    (hall : ∀ bound ∈ bindings, ∃ value, Yields scope (task bound) value) :
    ∀ bound ∈ bindings', ∃ value, Yields scope' (task bound) value := by
  induction h with
  | nil => simp
  | cons hbound _ ih =>
    obtain ⟨⟨value, hvalue⟩, hrest⟩ := List.forall_mem_cons.1 hall
    exact List.forall_mem_cons.2 ⟨⟨value, hbound.2 value hvalue⟩, ih hrest⟩

/-- What the bindings yield are the same entries in the same order. -/
theorem fills_eq (h : Keeps scope scope' task bindings bindings') {own own' : Entries Value}
    (hown : Fills scope task bindings own) (hown' : Fills scope' task bindings' own') :
    own' = own := by
  induction h generalizing own own' with
  | nil =>
    cases hown
    cases hown'
    rfl
  | cons hbound _ ih =>
    cases hown with
    | cons hentry hrest =>
      cases hown' with
      | cons hentry' hrest' =>
        obtain ⟨hkey, hyields⟩ := hbound
        have hvalue := hentry'.2.unique (hyields _ hentry.2)
        rw [ih hrest hrest', Prod.ext (hentry'.1.trans (hkey.trans hentry.1.symm)) hvalue]

/-- Top-level bindings under the same keys. -/
theorem of_match {R : β → β → Prop} (h : Entries.Match R bindings bindings')
    (slotOf : String → Slot) (hyields : ∀ slot value, Yields scope (.slot slot) value →
      Yields scope' (.slot slot) value) :
    Keeps scope scope' (fun bound => .slot (slotOf bound.1)) bindings bindings' := by
  refine h.imp fun bound bound' hbound => ⟨hbound.1, fun value hvalue => ?_⟩
  dsimp only at hvalue ⊢
  rw [hbound.1]
  exact hyields _ value hvalue

end Keeps

end ByName

namespace Scope

variable {scope scope' : Scope} {memory memory' after : Memory} {config : Config}

open ByName in
/-- A document is evaluated if another one is, provided that its tasks yield values if
those of the other one do. -/
theorem evaluate_again (hmemory : memory.Faithful scope) (hmemory' : memory'.Faithful scope')
    (htasks : (∀ task ∈ scope.tasks, ∃ value, Yields scope task value) →
      ∀ task ∈ scope'.tasks, ∃ value, Yields scope' task value)
    (hrun : scope.evaluate memory = .ok config after) :
    Describes scope config ∧ ∃ config' after',
      scope'.evaluate memory' = .ok config' after' ∧ Describes scope' config' := by
  have performed := scope.evaluate_performs memory hmemory
  rw [hrun] at performed
  exact ⟨performed.2.2, evaluate_of_yields (htasks performed.2.1) hmemory'⟩

open ByName in
/-- What the tasks of three kinds of bindings yield is what all tasks do. -/
theorem forall_mem_tasks {p : Task → Prop} : (∀ task ∈ scope.tasks, p task) ↔
    (∀ bound ∈ scope.globals, p (.slot (.global bound.1))) ∧
      (∀ bound ∈ scope.metadata, p (.metadata bound.2.1)) ∧
        ∀ bound ∈ scope.items, p (.slot (.item bound.1)) := by
  simp only [tasks, List.mem_append, or_imp, forall_and, List.forall_mem_map, and_assoc]

open ByName in
/-- A document whose bindings keep their keys and what they yield comes to the same
globals, items and metadata, in the same order. -/
theorem evaluate_of_keeps (hsees : scope.SeesLike scope')
    (hglobals : Keeps scope scope' (fun bound => .slot (.global bound.1)) scope.globals
      scope'.globals)
    (hmetadata : Keeps scope scope' (fun bound => .metadata bound.2.1) scope.metadata
      scope'.metadata)
    (hitems : Keeps scope scope' (fun bound => .slot (.item bound.1)) scope.items scope'.items)
    (hmemory : memory.Faithful scope) (hmemory' : memory'.Faithful scope')
    (hrun : scope.evaluate memory = .ok config after) :
    ∃ config' after', scope'.evaluate memory' = .ok config' after' ∧
      config'.globals = config.globals ∧ config'.items = config.items ∧
      config'.metadata = config.metadata := by
  obtain ⟨⟨⟨globals, hownGlobals, heqGlobals⟩, ⟨items, hownItems, heqItems⟩,
      ⟨metadata, hownMetadata, heqMetadata⟩⟩,
    config', after', hrun', ⟨globals', hownGlobals', heqGlobals'⟩,
      ⟨items', hownItems', heqItems'⟩, ⟨metadata', hownMetadata', heqMetadata'⟩⟩ :=
    evaluate_again hmemory hmemory' (fun hall => by
      rw [forall_mem_tasks] at hall ⊢
      exact ⟨hglobals.yields hall.1, hmetadata.yields hall.2.1, hitems.yields hall.2.2⟩) hrun
  refine ⟨config', after', hrun', ?_, ?_, ?_⟩
  · rw [heqGlobals, heqGlobals', hsees.withIncluded_eq, hglobals.fills_eq hownGlobals hownGlobals']
  · rw [heqItems, heqItems', hsees.withIncluded_eq, hitems.fills_eq hownItems hownItems']
  · rw [heqMetadata, heqMetadata', hmetadata.fills_eq hownMetadata hownMetadata']

/-- A document that is edited statement by statement comes to the same globals, items and
metadata, in the same order. -/
theorem evaluate_edited {source : Source} (source' : Source) {services : Services}
    {document document' : Document} {aliases : Entries Config}
    (h : List.Forall₂ (EditsStatement (ofDocument source services document aliases))
      document document')
    (hmemory : memory.Faithful (ofDocument source services document aliases))
    (hmemory' : memory'.Faithful (ofDocument source' services document' aliases))
    (hrun : (ofDocument source services document aliases).evaluate memory = .ok config after) :
    ∃ config' after',
      (ofDocument source' services document' aliases).evaluate memory' = .ok config' after' ∧
      config'.globals = config.globals ∧ config'.items = config.items ∧
      config'.metadata = config.metadata := by
  have hrevises : (ofDocument source services document aliases).Revises
    (ofDocument source' services document' aliases) := revises_of_edits h
  refine evaluate_of_keeps hrevises.sees ?_ ?_ ?_ hmemory hmemory' hrun
  · exact .of_match (globals_of_edits h) .global fun _ _ => hrevises.yields
  · exact (metadata_of_edits h).imp fun bound bound' hbound =>
      ⟨hbound.1, fun value hvalue => hrevises.yields_metadata hbound.2 hvalue⟩
  · exact .of_match (items_of_edits h) .item fun _ _ => hrevises.yields

end Scope

end Rune
