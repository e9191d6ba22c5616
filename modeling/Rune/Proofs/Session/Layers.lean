import Rune.Proofs.Evaluation.Probing
import Rune.Proofs.Session.Includes
import Rune.Proofs.Session.Redrafting

/-!
# Rune - layers of a configuration

A configuration is made of layers: the modules that its document includes, one after
another, and the document's own bindings.  Inside the document a bare name is looked up layer
by layer.  Outside, where the configuration is included itself, it is looked up in the globals
of all layers and then in the items of all layers.

Main results:

- Definition {lit}`Config.bareIn?` looks a bare name up in layers, and {lit}`Config.bare?` in a
  configuration.
- Theorem {lit}`Config.MadeOf.bare?_eq_or`: both find the same, unless a layer has an item where
  a layer below has a global.
- Theorems {lit}`Scope.exists_layers` and {lit}`Session.exists_layers`: a document that is
  evaluated, or resolved, is made of its layers.
-/

namespace Rune

/-! ## Entries of several lists -/

/-- Of entries of several lists, given one after another, the last list that has a key
counts. -/
theorem Entries.get?_ofList_flatMap {κ α β : Type} [DecidableEq κ] (key : κ)
    (entries : β → List (κ × α)) {bs : List β}
    (hnodup : ∀ b ∈ bs, (Entries.keys (entries b)).Nodup) :
    Entries.get? key (Entries.ofList (bs.flatMap entries)) =
      bs.reverse.findSome? fun b => Entries.get? key (entries b) := by
  rw [Entries.get?_ofList]
  induction bs with
  | nil => rfl
  | cons b bs ih =>
    obtain ⟨hfirst, hrest⟩ := List.forall_mem_cons.1 hnodup
    rw [List.flatMap_cons, List.reverse_append, Entries.get?_append, ih hrest,
      Entries.get?_reverse hfirst, List.reverse_cons, List.findSome?_append]
    simp

namespace Config

/-! ## Bare names -/

/-- What a bare name stands for in one configuration: a global before an item. -/
def bare? (config : Config) (key : String) : Option Value :=
  (Entries.get? key config.globals).or (Entries.get? key config.items)

/-- What a bare name stands for in layers: a later layer comes before an earlier one. -/
def bareIn? (layers : List Config) (key : String) : Option Value :=
  layers.reverse.findSome? (·.bare? key)

/-- The keys of a configuration are different. -/
structure Distinct (config : Config) : Prop where
  globals : (Entries.keys config.globals).Nodup
  items : (Entries.keys config.items).Nodup

/-- A configuration is made of layers: a later layer hides an earlier one, namespace by
namespace. -/
structure MadeOf (config : Config) (layers : List Config) : Prop where
  globals : config.globals = Entries.ofList (layers.flatMap (·.globals))
  items : config.items = Entries.ofList (layers.flatMap (·.items))
  distinct : ∀ layer ∈ layers, layer.Distinct

/-- The last layer that has a bare name has it as an item only, and below it the name is that
of a global. -/
def Clashes (layers : List Config) (key : String) (item global : Value) : Prop :=
  ∃ before layer after, layers = before ++ layer :: after ∧
    (∀ later ∈ after, later.bare? key = none) ∧
    Entries.get? key layer.globals = none ∧ Entries.get? key layer.items = some item ∧
    (before.reverse.findSome? fun earlier => Entries.get? key earlier.globals) = some global

variable {config : Config} {layers : List Config} {key : String} {item global : Value}

/-- The last layer comes before the others. -/
theorem bareIn?_concat (layers : List Config) (last : Config) (key : String) :
    bareIn? (layers ++ [last]) key = (last.bare? key).or (bareIn? layers key) := by
  rw [bareIn?, List.reverse_append, List.findSome?_append]
  simp [bareIn?]

/-- A clash is looked up inside as the item. -/
theorem Clashes.bareIn?_eq (h : Clashes layers key item global) :
    bareIn? layers key = some item := by
  obtain ⟨before, layer, after, rfl, hafter, hglobal, hitem, -⟩ := h
  have hlater : after.reverse.findSome? (·.bare? key) = none := by
    simpa [List.findSome?_eq_none_iff] using hafter
  have hlayer : layer.bare? key = some item := by rw [bare?, hglobal, hitem, Option.none_or]
  simp [bareIn?, List.findSome?_append, hlater, hlayer]

namespace MadeOf

variable (h : config.MadeOf layers)
include h

theorem get?_globals (key : String) : Entries.get? key config.globals =
    layers.reverse.findSome? fun layer => Entries.get? key layer.globals := by
  rw [h.globals,
    Entries.get?_ofList_flatMap key _ fun layer hlayer => (h.distinct layer hlayer).globals]

theorem get?_items (key : String) : Entries.get? key config.items =
    layers.reverse.findSome? fun layer => Entries.get? key layer.items := by
  rw [h.items,
    Entries.get?_ofList_flatMap key _ fun layer hlayer => (h.distinct layer hlayer).items]

/-- A clash is looked up outside as the global. -/
theorem bare?_of_clashes (hclash : Clashes layers key item global) :
    config.bare? key = some global := by
  obtain ⟨before, layer, after, rfl, hafter, hglobal, -, hbefore⟩ := hclash
  have hlater : (after.reverse.findSome? fun later => Entries.get? key later.globals) = none := by
    rw [List.findSome?_eq_none_iff]
    intro later hmem
    have hnone := hafter later (List.mem_reverse.1 hmem)
    rw [bare?, Option.or_eq_none_iff] at hnone
    exact hnone.1
  rw [bare?, h.get?_globals]
  simp [List.findSome?_append, hlater, hglobal, hbefore]

/-- A bare name stands for something inside exactly if it does outside. -/
theorem isSome_bare?_eq (key : String) :
    (config.bare? key).isSome = (bareIn? layers key).isSome := by
  rw [bare?, h.get?_globals, h.get?_items, bareIn?, Option.isSome_or]
  induction layers.reverse with
  | nil => rfl
  | cons layer layers ih =>
    simp only [List.findSome?_cons, bare?]
    cases Entries.get? key layer.globals <;> cases Entries.get? key layer.items <;>
      simp_all [bare?]

end MadeOf

/-- Looking up layer by layer and looking up namespace by namespace find the same, or else the
last layer that has a key has it as an item only and one below has it as a global. -/
theorem findSome?_eq_or (key : String) (layers : List Config) :
    layers.findSome? (·.bare? key) =
      (layers.findSome? fun layer => Entries.get? key layer.globals).or
        (layers.findSome? fun layer => Entries.get? key layer.items) ∨
    ∃ after layer before item global, layers = after ++ layer :: before ∧
      (∀ later ∈ after, later.bare? key = none) ∧
      Entries.get? key layer.globals = none ∧ Entries.get? key layer.items = some item ∧
      (before.findSome? fun earlier => Entries.get? key earlier.globals) = some global := by
  induction layers with
  | nil => exact .inl rfl
  | cons layer layers ih =>
    cases hglobal : Entries.get? key layer.globals with
    | some value => exact .inl (by simp [bare?, hglobal])
    | none =>
      cases hitem : Entries.get? key layer.items with
      | some item =>
        cases hbelow : layers.findSome? fun earlier => Entries.get? key earlier.globals with
        | none => exact .inl (by simp [bare?, hglobal, hitem, hbelow])
        | some global =>
          exact .inr ⟨[], layer, layers, item, global, rfl, by simp, hglobal, hitem, hbelow⟩
      | none =>
        have hlayer : layer.bare? key = none := by rw [bare?, hglobal, hitem, Option.none_or]
        rcases ih with heq | ⟨after, last, before, item, global, rfl, hafter, hrest⟩
        · exact .inl (by simpa [hlayer, hglobal, hitem] using heq)
        · exact .inr ⟨layer :: after, last, before, item, global, rfl,
            List.forall_mem_cons.2 ⟨hlayer, hafter⟩, hrest⟩

/-- A bare name stands for the same outside as inside, unless it clashes. -/
theorem MadeOf.bare?_eq_or (h : config.MadeOf layers) (key : String) :
    config.bare? key = bareIn? layers key ∨ ∃ item global, Clashes layers key item global := by
  rw [bare?, h.get?_globals, h.get?_items, bareIn?]
  rcases findSome?_eq_or key layers.reverse with heq |
    ⟨after, layer, before, item, global, hlayers, hafter, hglobal, hitem, hbefore⟩
  · exact .inl heq.symm
  · refine .inr ⟨item, global, before.reverse, layer, after.reverse, ?_, ?_, hglobal, hitem, ?_⟩
    · rw [← List.reverse_reverse layers, hlayers]
      simp
    · simpa using hafter
    · rwa [List.reverse_reverse]

end Config

/-! ## The layers of a document -/

namespace Scope

/-- No key is given twice in the configuration of a document. -/
theorem distinct_of_evaluate {scope : Scope} {memory after : Memory} {config : Config}
    (h : scope.evaluate memory = .ok config after) : config.Distinct := by
  obtain ⟨globals, _, -, h⟩ := bind_eq_ok_iff.1 h
  obtain ⟨metadata, _, -, h⟩ := bind_eq_ok_iff.1 h
  obtain ⟨items, _, -, h⟩ := bind_eq_ok_iff.1 h
  cases h
  constructor
  · dsimp only
    rw [withIncluded_eq]
    exact Entries.nodup_keys_ofList _
  · dsimp only
    rw [withIncluded_eq]
    exact Entries.nodup_keys_ofList _

open ByName in
/-- The document's own layer is what its bindings yield. -/
structure Own (scope : Scope) (own : Config) : Prop where
  globals : Fills scope (fun bound => .slot (.global bound.1)) scope.globals own.globals
  items : Fills scope (fun bound => .slot (.item bound.1)) scope.items own.items

open ByName in
/-- The configuration of a document is made of the modules that are included and of the
document's own layer. -/
theorem exists_layers {scope : Scope} {config : Config} (h : Describes scope config)
    (hglobals : (Entries.keys scope.globals).Nodup) (hitems : (Entries.keys scope.items).Nodup)
    (hincludes : ∀ included ∈ scope.includes, included.Distinct) :
    ∃ own, scope.Own own ∧ config.MadeOf (scope.includes ++ [own]) := by
  obtain ⟨globals, hownGlobals, heqGlobals⟩ := h.globals
  obtain ⟨items, hownItems, heqItems⟩ := h.items
  refine ⟨{ config with globals := globals, items := items }, ⟨hownGlobals, hownItems⟩, ?_, ?_, ?_⟩
  · rw [heqGlobals, withIncluded_eq]
    simp [Config.values]
  · rw [heqItems, withIncluded_eq]
    simp [Config.values]
  · intro layer hlayer
    rcases List.mem_append.1 hlayer with hlayer | hlayer
    · exact hincludes layer hlayer
    · obtain rfl := List.mem_singleton.1 hlayer
      exact ⟨hownGlobals.keys_eq ▸ hglobals, hownItems.keys_eq ▸ hitems⟩

namespace Own

open ByName

variable {scope : Scope} {own : Config} (h : scope.Own own) {key : String}
include h

/-- What a name stands for inside a document is the value of a binding or of what is
included. -/
theorem bareIn?_of_slot {slot : Slot} (hslot : scope.slot? key = some slot) :
    ∃ value, Config.bareIn? (scope.includes ++ [own]) key = some value ∧
      Yields scope (.slot slot) value := by
  rw [Config.bareIn?_concat]
  have get? {β : Type} {task : String × β → Task} {bindings : List (String × β)}
      {entries : Entries Value} (hfills : Fills scope task bindings entries) {bound : β}
      (hbound : Entries.get? key bindings = some bound) :
      ∃ value, Entries.get? key entries = some value ∧ Yields scope (task (key, bound)) value := by
    have hkey : Entries.contains key entries := by
      rw [Entries.contains_iff_mem_keys, hfills.keys_eq]
      exact Entries.mem_keys_of_get? hbound
    obtain ⟨value, hvalue⟩ := Option.isSome_iff_exists.1 hkey
    obtain ⟨bound', hbound', hyields⟩ := (hfills.get?_iff key value).1 hvalue
    rw [hbound] at hbound'
    cases hbound'
    exact ⟨value, hvalue, hyields⟩
  unfold slot? Entries.contains at hslot
  cases hglobal : Entries.get? key scope.globals with
  | some bound =>
    obtain ⟨value, hvalue, hyields⟩ := get? h.globals hglobal
    rw [hglobal] at hslot
    cases hslot
    exact ⟨value, by simp [Config.bare?, hvalue], hyields⟩
  | none =>
    cases hitem : Entries.get? key scope.items with
    | none => simp [hglobal, hitem] at hslot
    | some bound =>
      obtain ⟨value, hvalue, hyields⟩ := get? h.items hitem
      rw [hglobal, hitem] at hslot
      cases hslot
      have hnone : Entries.get? key own.globals = none := by
        rw [Entries.get?_eq_none_iff] at hglobal ⊢
        rwa [h.globals.keys_eq]
      exact ⟨value, by simp [Config.bare?, hvalue, hnone], hyields⟩

theorem bareIn?_of_unbound (hslot : scope.slot? key = none) :
    Config.bareIn? (scope.includes ++ [own]) key = scope.included? key := by
  obtain ⟨hglobal, hitem⟩ := slot?_eq_none_iff.1 hslot
  rw [Entries.get?_eq_none_iff] at hglobal hitem
  rw [← h.globals.keys_eq, ← Entries.get?_eq_none_iff] at hglobal
  rw [← h.items.keys_eq, ← Entries.get?_eq_none_iff] at hitem
  rw [Config.bareIn?_concat, Config.bare?, hglobal, hitem]
  rfl

end Own

end Scope

/-! ## Gathered configurations -/

namespace Session

variable {services : Services}

/-- No key is given twice in the configuration of a file. -/
theorem distinct_of_settles {path : String} {config : Config}
    (h : Settles (fun depth => Reloading.file services depth path) (.value config)) :
    config.Distinct := by
  obtain ⟨depth, hdepth⟩ := h.exists_eq
  obtain ⟨below, text, -, -, hdepth⟩ := Reloading.exists_of_file hdepth
  obtain ⟨_, _, _, _, -, -, -, hevaluate⟩ := Reloading.exists_of_resolveUsing hdepth
  exact Scope.distinct_of_evaluate hevaluate

/-- No key is given twice in the configurations that are gathered. -/
theorem gatherAll_distinct {active : List String} {deep : Nat → Prop} {resolver : Resolver}
    {source : Source} {directory : String}
    (hgather : GathersReload services active deep resolver source directory)
    {gathers : List Gather} {given aliases : Entries Config} {session after : Session}
    (hsession : Sound services active session)
    (hgiven : ∀ key config, Entries.get? key given = some config → config.Distinct)
    (h : gatherAll services resolver source directory given gathers session = .ok aliases after) :
    ∀ key config, Entries.get? key aliases = some config → config.Distinct := by
  induction gathers generalizing given session with
  | nil =>
    cases h
    exact hgiven
  | cons g gathers ih =>
    obtain ⟨config, gathered, hone, hall⟩ := bind_eq_ok_iff.1 h
    have first := hgather g session hsession
    rw [hone] at first
    cases first with
    | value hgathered hsettles =>
      obtain ⟨path, -, hfile⟩ := exists_settles_of_gather hsettles
      refine ih hgathered (fun key known hknown => ?_) hall
      by_cases hkey : key = Key.canonical g.aliasName
      · rw [hkey, Entries.get?_insert_self] at hknown
        cases hknown
        exact distinct_of_settles hfile
      · rw [Entries.get?_insert_of_ne hkey] at hknown
        exact hgiven key known hknown

/-- No key is given twice in the modules that a document includes. -/
theorem Collects.distinct {path : Option String} {source : Source} {document : Document}
    {session gathered : Session} {aliases : Entries Config} (hsession : Sound services [] session)
    (h : Collects services path source document session aliases gathered) :
    ∀ included ∈ Scope.includesOf document aliases, included.Distinct := by
  obtain ⟨directory, -, hall⟩ := h
  have hgather : GathersReload services path.toList (Deep services path.toList)
      (resolverWith services services.files.known.length) source directory :=
    gather_reloads (fun _ _ hnew hread hcanonical => resolver_reloads path hnew hread hcanonical)
      source directory
  have hdistinct := gatherAll_distinct hgather (hsession.entered path) (by simp [Entries.get?]) hall
  intro included hincluded
  obtain ⟨g, -, hget⟩ := List.mem_filterMap.1 hincluded
  exact hdistinct _ included hget

/-- A document that is resolved is made of its layers. -/
theorem exists_layers {path : Option String} {source : Source} {document : Document}
    {session after : Session} {config : Config} (hsession : Sound services [] session)
    (h : resolveDocument services path source document session = .ok config after) :
    ∃ aliases gathered own, Collects services path source document session aliases gathered ∧
      let scope := Scope.ofDocument source services document aliases
      (∀ task ∈ scope.tasks, ∃ value, ByName.Yields scope task value) ∧ scope.Own own ∧
      config.MadeOf (scope.includes ++ [own]) := by
  obtain ⟨aliases, gathered, memory, hcollects, hrun⟩ := exists_collects h
  have hmemory : (Memory.fresh gathered.resources).Faithful
      (.ofDocument source services document aliases) :=
    Memory.faithful_fresh (hcollects.truthful hsession)
  have performed := Scope.evaluate_performs _ _ hmemory
  rw [hrun] at performed
  obtain ⟨-, hall, hdescribes⟩ := performed
  obtain ⟨own, hown, hlayers⟩ := Scope.exists_layers hdescribes (Entries.nodup_keys_ofList _)
    (Entries.nodup_keys_ofList _) (hcollects.distinct hsession)
  exact ⟨aliases, gathered, own, hcollects, hall, hown, hlayers⟩

end Session

end Rune
