import Rune.Proofs.Session.Redrafting
import Mathlib.Data.List.Perm.Basic

/-!
# Rune - the order of statements does not matter

Top-level bindings are evaluated when they are asked for, so that it does not matter in
which order they stand.  The gathers have to keep their order, since a later one hides an
earlier one, and no name may be bound twice, since the last binding of a name counts.

Main results:

- Structures {lit}`Document.Distinct` and {lit}`Document.Reorders` say which documents and
  which orders are meant.
- Theorem {lit}`Scope.evaluate_reordered`: a document in another order is evaluated to the
  same entries.
- Theorem {lit}`Session.resolveDocument_reordered`: it is resolved to the same entries.
-/

namespace Rune

/-! ## Documents in another order -/

namespace Statement

/-- The binding of a global, under its canonical key. -/
def global? : Statement → Option (String × ValueExpr × TextRange)
  | .global name value range => some (Key.canonical name, value, range)
  | _ => none

/-- The binding of a block. -/
def block? : Statement → Option (String × List Member × TextRange)
  | .block name children range => some (Key.canonical name, children, range)
  | _ => none

/-- The binding of metadata. -/
def metadata? : Statement → Option (String × ValueExpr × TextRange)
  | .metadata key value range => some (Key.canonical key, value, range)
  | _ => none

end Statement

namespace Document

/-- The bindings of a kind, without their places, are read off the statements without
theirs. -/
theorem map_bindings (document : Document) {β γ : Type}
    (binding? : Statement → Option (String × β)) (expression unplaced : β → γ)
    (hunplaced : ∀ s, (binding? s.unplaced).map (fun e => (e.1, expression e.2)) =
      (binding? s).map fun e => (e.1, unplaced e.2)) :
    (document.filterMap binding?).map (fun e => (e.1, unplaced e.2)) =
      (document.map Statement.unplaced).filterMap fun s =>
        (binding? s).map fun e => (e.1, expression e.2) := by
  rw [List.map_filterMap, List.filterMap_map]
  exact List.filterMap_congr fun s _ => (hunplaced s).symm

/-- The globals of a document have different names in canonical spelling, and so have its
metadata and its blocks. -/
structure Distinct (document : Document) : Prop where
  globals : (Entries.keys (document.filterMap Statement.global?)).Nodup
  blocks : (Entries.keys (document.filterMap Statement.block?)).Nodup
  metadata : (Entries.keys (document.filterMap Statement.metadata?)).Nodup

/-- A document has the same statements in another order and at other places.  The gathers
are in the same order. -/
structure Reorders (document document' : Document) : Prop where
  perm : (document'.map Statement.unplaced).Perm (document.map Statement.unplaced)
  gathers : document'.gathers.map Gather.unplaced = document.gathers.map Gather.unplaced

namespace Reorders

variable {document document' : Document}

/-- Bindings of a kind are the same in another order, without their places. -/
theorem bindings (h : document.Reorders document') {β γ : Type}
    (binding? : Statement → Option (String × β)) (expression unplaced : β → γ)
    (hunplaced : ∀ s, (binding? s.unplaced).map (fun e => (e.1, expression e.2)) =
      (binding? s).map fun e => (e.1, unplaced e.2)) :
    Entries.Shuffled unplaced (document.filterMap binding?) (document'.filterMap binding?) := by
  unfold Entries.Shuffled
  rw [map_bindings document' binding? expression unplaced hunplaced,
    map_bindings document binding? expression unplaced hunplaced]
  exact h.perm.filterMap _

theorem globals (h : document.Reorders document') :
    Entries.Shuffled (·.1.unplaced) (document.filterMap Statement.global?)
      (document'.filterMap Statement.global?) :=
  h.bindings Statement.global? (·.1) (·.1.unplaced) fun s => by cases s <;> rfl

theorem blocks (h : document.Reorders document') :
    Entries.Shuffled (fun bound => Member.unplacedAll bound.1)
      (document.filterMap Statement.block?) (document'.filterMap Statement.block?) :=
  h.bindings Statement.block? (·.1) (fun bound => Member.unplacedAll bound.1)
    fun s => by cases s <;> rfl

theorem metadata (h : document.Reorders document') :
    Entries.Shuffled (·.1.unplaced) (document.filterMap Statement.metadata?)
      (document'.filterMap Statement.metadata?) :=
  h.bindings Statement.metadata? (·.1) (·.1.unplaced) fun s => by cases s <;> rfl

/-- A global is bound to the same expression. -/
theorem get?_globals (h : document.Reorders document') (hdistinct : document.Distinct)
    (key : String) :
    (Entries.get? key (Scope.globalsOf document')).map (·.1.unplaced) =
      (Entries.get? key (Scope.globalsOf document)).map (·.1.unplaced) :=
  h.globals.map_get?_ofList hdistinct.globals key

/-- A block has the same members. -/
theorem get?_items (h : document.Reorders document') (hdistinct : document.Distinct)
    (key : String) :
    (Entries.get? key (Scope.itemsOf document')).map (fun bound => Member.unplacedAll bound.1) =
      (Entries.get? key (Scope.itemsOf document)).map fun bound => Member.unplacedAll bound.1 :=
  h.blocks.map_get?_ofList hdistinct.blocks key

/-- Metadata is bound to the same expression. -/
theorem get?_metadata (h : document.Reorders document') (hdistinct : document.Distinct)
    (key : String) :
    (Entries.get? key (Scope.metadataOf document')).map (·.1.unplaced) =
      (Entries.get? key (Scope.metadataOf document)).map (·.1.unplaced) :=
  h.metadata.map_get? hdistinct.metadata key

end Reorders

end Document

/-! ## Evaluation -/

section

variable {source source' : Source} {services : Services} {document document' : Document}
  {aliases : Entries Config} (hreorders : document.Reorders document')
  (hdistinct : document.Distinct)
include hreorders hdistinct

/-- A document in another order binds the same trees to the same names. -/
theorem Scope.revises_of_reorders :
    (ofDocument source services document aliases).Revises
      (ofDocument source' services document' aliases) where
  sees := seesLike_ofDocument hreorders.gathers
    (fun key => Entries.contains_eq_of_map_eq (hreorders.get?_globals hdistinct key))
    (fun key => Entries.contains_eq_of_map_eq (hreorders.get?_items hdistinct key))
  globals name bound hbound := by
    obtain ⟨bound', hbound', halike⟩ :=
      Entries.exists_get?_of_map_eq (hreorders.get?_globals hdistinct name) hbound
    exact ⟨bound', hbound', .same halike⟩
  items name bound hbound := by
    obtain ⟨bound', hbound', halike⟩ :=
      Entries.exists_get?_of_map_eq (hreorders.get?_items hdistinct name) hbound
    exact ⟨bound', hbound', .same halike⟩

end

namespace ByName

/-- Two lists of bindings bind the same keys, none of them twice, and what a key yields
in the first one it yields in the second one. -/
structure Matches {β : Type} (scope scope' : Scope) (task : String × β → Task)
    (bindings bindings' : List (String × β)) : Prop where
  nodup : (Entries.keys bindings).Nodup
  nodup' : (Entries.keys bindings').Nodup
  contains : ∀ key, Entries.contains key bindings' = Entries.contains key bindings
  yields : ∀ key bound bound' value, Entries.get? key bindings = some bound →
    Entries.get? key bindings' = some bound' → Yields scope (task (key, bound)) value →
    Yields scope' (task (key, bound')) value

namespace Matches

variable {β : Type} {scope scope' : Scope} {task : String × β → Task}
  {bindings bindings' : List (String × β)}

/-- A key that is bound in the second list is bound in the first one. -/
theorem exists_get? (h : Matches scope scope' task bindings bindings') {key : String} {bound' : β}
    (hbound' : Entries.get? key bindings' = some bound') :
    ∃ bound, Entries.get? key bindings = some bound := by
  have hkey : Entries.contains key bindings' := by rw [Entries.contains, hbound']; rfl
  rw [h.contains] at hkey
  exact Option.isSome_iff_exists.1 hkey

/-- All tasks of the second list yield values if those of the first one do. -/
theorem yields_all (h : Matches scope scope' task bindings bindings')
    (hall : ∀ bound ∈ bindings, ∃ value, Yields scope (task bound) value) :
    ∀ bound ∈ bindings', ∃ value, Yields scope' (task bound) value := by
  rintro ⟨key, bound'⟩ hmem
  have hbound' := Entries.get?_of_mem h.nodup' hmem
  obtain ⟨bound, hbound⟩ := h.exists_get? hbound'
  obtain ⟨value, hvalue⟩ := hall _ (Entries.mem_of_get? hbound)
  exact ⟨value, h.yields key bound bound' value hbound hbound' hvalue⟩

/-- What both lists yield is the same under every key. -/
theorem get?_eq (h : Matches scope scope' task bindings bindings') {own own' : Entries Value}
    (hown : Fills scope task bindings own) (hown' : Fills scope' task bindings' own')
    (key : String) : Entries.get? key own' = Entries.get? key own := by
  cases hvalue : Entries.get? key own with
  | none =>
    rw [Entries.get?_eq_none_iff, hown.keys_eq, ← Entries.contains_iff_mem_keys] at hvalue
    rwa [Entries.get?_eq_none_iff, hown'.keys_eq, ← Entries.contains_iff_mem_keys, h.contains]
  | some value =>
    obtain ⟨bound, hbound, hyields⟩ := (hown.get?_iff key value).1 hvalue
    have hkey : Entries.contains key bindings := by rw [Entries.contains, hbound]; rfl
    rw [← h.contains] at hkey
    obtain ⟨bound', hbound'⟩ := Option.isSome_iff_exists.1 hkey
    exact (hown'.get?_iff key value).2
      ⟨bound', hbound', h.yields key bound bound' value hbound hbound' hyields⟩

/-- Giving them after other entries does not change that. -/
theorem get?_merge_eq (h : Matches scope scope' task bindings bindings') {own own' : Entries Value}
    (hown : Fills scope task bindings own) (hown' : Fills scope' task bindings' own')
    (given : Entries Value) (key : String) :
    Entries.get? key (Entries.merge given own') = Entries.get? key (Entries.merge given own) := by
  have hnodup : (Entries.keys own).Nodup := hown.keys_eq ▸ h.nodup
  have hnodup' : (Entries.keys own').Nodup := hown'.keys_eq ▸ h.nodup'
  rw [Entries.get?_merge, Entries.get?_merge, Entries.get?_reverse hnodup,
    Entries.get?_reverse hnodup', h.get?_eq hown hown']

end Matches

end ByName

section

variable (source source' : Source) (services : Services) (aliases : Entries Config)
  {document document' : Document} (hreorders : document.Reorders document')
  (hdistinct : document.Distinct)
include hreorders hdistinct

open ByName Scope

theorem Document.Reorders.matches_globals :
    Matches (ofDocument source services document aliases)
      (ofDocument source' services document' aliases) (fun bound => .slot (.global bound.1))
      (globalsOf document) (globalsOf document') where
  nodup := Entries.nodup_keys_ofList _
  nodup' := Entries.nodup_keys_ofList _
  contains key := Entries.contains_eq_of_map_eq (hreorders.get?_globals hdistinct key)
  yields _ _ _ _ _ _ := (revises_of_reorders hreorders hdistinct).yields

theorem Document.Reorders.matches_items :
    Matches (ofDocument source services document aliases)
      (ofDocument source' services document' aliases) (fun bound => .slot (.item bound.1))
      (itemsOf document) (itemsOf document') where
  nodup := Entries.nodup_keys_ofList _
  nodup' := Entries.nodup_keys_ofList _
  contains key := Entries.contains_eq_of_map_eq (hreorders.get?_items hdistinct key)
  yields _ _ _ _ _ _ := (revises_of_reorders hreorders hdistinct).yields

theorem Document.Reorders.matches_metadata :
    Matches (ofDocument source services document aliases)
      (ofDocument source' services document' aliases) (fun bound => .metadata bound.2.1)
      (metadataOf document) (metadataOf document') where
  nodup := hdistinct.metadata
  nodup' := hreorders.metadata.nodup_keys hdistinct.metadata
  contains key := Entries.contains_eq_of_map_eq (hreorders.get?_metadata hdistinct key)
  yields key bound bound' value hbound hbound' hvalue := by
    obtain ⟨other, hother, halike⟩ :=
      Entries.exists_get?_of_map_eq (hreorders.get?_metadata hdistinct key) hbound
    obtain rfl : other = bound' := Option.some.inj (hother.symm.trans hbound')
    exact (revises_of_reorders hreorders hdistinct).yields_metadata (.same halike) hvalue

/-- A document in another order is evaluated to the same entries. -/
theorem Scope.evaluate_reordered {memory memory' after : Memory} {config : Config}
    (hmemory : memory.Faithful (ofDocument source services document aliases))
    (hmemory' : memory'.Faithful (ofDocument source' services document' aliases))
    (hrun : (ofDocument source services document aliases).evaluate memory = .ok config after) :
    ∃ config' after',
      (ofDocument source' services document' aliases).evaluate memory' = .ok config' after' ∧
      ∀ key, Entries.get? key config'.globals = Entries.get? key config.globals ∧
        Entries.get? key config'.items = Entries.get? key config.items ∧
        Entries.get? key config'.metadata = Entries.get? key config.metadata := by
  have hglobals := hreorders.matches_globals source source' services aliases hdistinct
  have hitems := hreorders.matches_items source source' services aliases hdistinct
  have hmetadata := hreorders.matches_metadata source source' services aliases hdistinct
  have hsees : (ofDocument source services document aliases).SeesLike
    (ofDocument source' services document' aliases) :=
      (revises_of_reorders hreorders hdistinct).sees
  obtain ⟨⟨⟨globals, hownGlobals, heqGlobals⟩, ⟨items, hownItems, heqItems⟩,
      ⟨metadata, hownMetadata, heqMetadata⟩⟩,
    config', after', hrun', ⟨globals', hownGlobals', heqGlobals'⟩,
      ⟨items', hownItems', heqItems'⟩, ⟨metadata', hownMetadata', heqMetadata'⟩⟩ :=
    evaluate_again hmemory hmemory' (fun hall => by
      rw [forall_mem_tasks] at hall ⊢
      exact ⟨hglobals.yields_all hall.1, hmetadata.yields_all hall.2.1,
        hitems.yields_all hall.2.2⟩) hrun
  refine ⟨config', after', hrun', fun key => ⟨?_, ?_, ?_⟩⟩
  · rw [heqGlobals, heqGlobals', hsees.withIncluded_eq]
    exact hglobals.get?_merge_eq hownGlobals hownGlobals' _ key
  · rw [heqItems, heqItems', hsees.withIncluded_eq]
    exact hitems.get?_merge_eq hownItems hownItems' _ key
  · rw [heqMetadata, heqMetadata']
    exact hmetadata.get?_merge_eq hownMetadata hownMetadata' [] key

end

/-! ## Resolution -/

namespace Session

/-- A document in another order is resolved if the document is, and to the same entries,
provided that no name is bound twice and that the gathers keep their order. -/
theorem resolveDocument_reordered {services : Services} {path : Option String}
    {source : Source} {document document' : Document} {session after : Session} {config : Config}
    (hsession : Sound services [] session) (hdistinct : document.Distinct)
    (hreorders : document.Reorders document')
    (h : resolveDocument services path source document session = .ok config after)
    (source' : Source) :
    ∃ config' after',
      resolveDocument services path source' document' session = .ok config' after' ∧
      ∀ key, Entries.get? key config'.globals = Entries.get? key config.globals ∧
        Entries.get? key config'.items = Entries.get? key config.items ∧
        Entries.get? key config'.metadata = Entries.get? key config.metadata := by
  obtain ⟨aliases, gathered, memory, hcollects, hrun⟩ := exists_collects h
  have htruthful := hcollects.truthful hsession
  obtain ⟨config', memory', hrun', hsame⟩ :=
    Scope.evaluate_reordered source source' services aliases hreorders hdistinct
      (Memory.faithful_fresh htruthful) (Memory.faithful_fresh htruthful) hrun
  obtain ⟨after', hafter⟩ :=
    (hcollects.redraft source' hreorders.gathers).resolveDocument_eq_ok hrun'
  exact ⟨config', after', hafter, hsame⟩

/-- A global that refers to a later block, which refers to what a still later gather
includes, stands behind both of them. -/
theorem resolveDocument_reordered_reverse :
    let services := Services.ofStore [("/lib", "x 1\n")]
    let range := TextRange.nowhere
    let refer (name : String) : ValueExpr := .operand (.name name range)
    let a : Statement := .global "a" (refer "b") range
    let b : Statement := .block "b" [.field "y" (refer "x") range] range
    let lib : Statement := .gather ⟨"lib", "lib", range, false⟩
    ∃ config after config' after',
      resolveDocument services none (.ofText "") [a, b, lib] fresh = .ok config after ∧
      resolveDocument services none (.ofText "") [lib, b, a] fresh = .ok config' after' ∧
      ∀ key, Entries.get? key config'.globals = Entries.get? key config.globals ∧
        Entries.get? key config'.items = Entries.get? key config.items ∧
        Entries.get? key config'.metadata = Entries.get? key config.metadata := by
  intro services range refer a b lib
  have hrun : (success? (resolveDocument services none (.ofText "") [a, b, lib] fresh)).isSome := by
    decide +kernel
  obtain ⟨⟨config, after⟩, h⟩ := Option.isSome_iff_exists.1 hrun
  rw [success?_eq_some_iff] at h
  have hdistinct : Document.Distinct [a, b, lib] := ⟨by decide, by decide, by decide⟩
  have hreorders : Document.Reorders [a, b, lib] [lib, b, a] :=
    ⟨(List.reverse_perm [a, b, lib]).map Statement.unplaced, rfl⟩
  obtain ⟨config', after', h', hsame⟩ :=
    resolveDocument_reordered (Sound.fresh services) hdistinct hreorders h (.ofText "")
  exact ⟨config, after, config', after', h, h', hsame⟩

end Session

end Rune
