import Rune.Proofs.Evaluation.Queries
import Rune.Proofs.Session.Includes
import Rune.Proofs.Session.Redrafting

/-!
# Rune - dotted references of a document

A dotted reference whose head is an alias agrees with a query in the configuration that was
gathered last under the alias.  One whose head is a binding of the document agrees with a query
in the configuration of the document itself.

Main results:

- Theorem {lit}`Session.Collects.get?_alias`: which configuration an alias stands for.
- Theorem {lit}`Session.Collects.references_match`: with which queries the references agree.
-/

namespace Rune

/-- The namespace of a slot. -/
def Slot.space : Slot → Namespace
  | .global _ => .globals
  | .item _ => .items

/-- What a key stands for has the key as its name. -/
theorem Scope.name_of_slot? {scope : Scope} {key : String} {slot : Slot}
    (h : scope.slot? key = some slot) : slot.name = key := by
  unfold slot? at h
  split at h
  · cases h
    rfl
  · split at h <;> cases h
    rfl

/-- A binding of a document that comes to a configuration has there the value that it yields. -/
theorem ByName.Describes.get?_slot {scope : Scope} {config : Config} (h : Describes scope config)
    (hglobals : (Entries.keys scope.globals).Nodup) (hitems : (Entries.keys scope.items).Nodup)
    {slot : Slot} (hslot : scope.Binds slot) (value : Value) :
    Entries.get? slot.name (config.values slot.space) = some value ↔
      Yields scope (.slot slot) value := by
  cases slot with
  | global name => exact h.get?_globals hglobals hslot value
  | item name => exact h.get?_items hitems hslot value

/-- The last gather of an alias is the last one under it. -/
theorem Document.lastUnder_eq {document : Document} {g : Gather} {before behind : List Gather}
    (hgathers : document.gathers = before ++ g :: behind)
    (hlast : ∀ other ∈ behind, Key.canonical other.aliasName ≠ Key.canonical g.aliasName) :
    document.lastUnder g = g := by
  have hnone : behind.reverse.find? (fun other =>
      Key.canonical other.aliasName = Key.canonical g.aliasName) = none := by
    rw [List.find?_eq_none]
    exact fun other hother => by simpa using hlast other (List.mem_reverse.1 hother)
  simp [lastUnder, hgathers, List.find?_append, hnone]

namespace Evaluation

variable {scope : Scope} {config : Config} {space : Namespace} {path : String}
  {head next : String} {rest : List String} {range : TextRange}

/-! ## What plain evaluation comes to -/

/-- A reference whose head is an alias leads into the gathered configuration. -/
theorem settles_of_alias
    (halias : Entries.get? (Key.canonical head) scope.aliases = some config) :
    Settles (fun depth => operandValue scope (ByName.effectsAt scope depth) none
      (.path head next rest range)) (outcomeAt range (memberLed config head next rest)) := by
  have hconst (depth : Nat) : operandValue scope (ByName.effectsAt scope depth) none
      (.path head next rest range) = outcomeAt range (memberLed config head next rest) := by
    simp only [operandValue, pathValue, halias, memberLed]
    cases config.member? next with
    | none => rfl
    | some value =>
      simp only [pure_bind]
      cases descend (head :: next :: rest) [head, next] rest value <;> rfl
  simp only [hconst]
  exact Settles.const _

/-- A reference whose head is a binding of the document goes down the value of the binding. -/
theorem settles_of_slot (halias : Entries.get? (Key.canonical head) scope.aliases = none)
    {slot : Slot} (hslot : scope.slot? (Key.canonical head) = some slot) {value : Value}
    (hvalue : ByName.Yields scope (.slot slot) value) :
    Settles (fun depth => operandValue scope (ByName.effectsAt scope depth) none
      (.path head next rest range))
      (outcomeAt range (descend (head :: next :: rest) [head] (next :: rest) value)) := by
  have hrun (depth : Nat) : operandValue scope (ByName.effectsAt scope depth) none
      (.path head next rest range) = ByName.slotValue scope depth slot >>= fun value =>
        outcomeAt range (descend (head :: next :: rest) [head] (next :: rest) value) := by
    have hbound : isBound scope none (Key.canonical head) = true := by simp [isBound, hslot]
    simp only [operandValue, pathValue, halias, hbound, if_true, nameValue, sibling?,
      Option.bind_none, hslot, bind_assoc, pure_bind]
    refine congrArg _ (funext fun value => ?_)
    cases descend (head :: next :: rest) [head] (next :: rest) value <;> rfl
  simp only [hrun]
  exact hvalue.settles.bind_value (f := fun _ value => outcomeAt range
    (descend (head :: next :: rest) [head] (next :: rest) value)) (Settles.const _)

end Evaluation

namespace Session

open Evaluation

variable {services : Services} {root : Option String} {source : Source} {document : Document}
  {session gathered : Session} {aliases : Entries Config}

/-! ## Aliases -/

/-- A document gathers in one way only. -/
theorem Collects.unique (h : Collects services root source document session aliases gathered)
    {aliases' : Entries Config} {gathered' : Session}
    (h' : Collects services root source document session aliases' gathered') :
    aliases' = aliases ∧ gathered' = gathered := by
  obtain ⟨directory, hdirectory, hall⟩ := h
  obtain ⟨directory', hdirectory', hall'⟩ := h'
  rw [hdirectory] at hdirectory'
  cases hdirectory'
  rw [hall] at hall'
  cases hall'
  exact ⟨rfl, rfl⟩

/-- An alias stands for the configuration of the file that is gathered last under it. -/
theorem Collects.get?_alias (hsession : Sound services [] session)
    (h : Collects services root source document session aliases gathered)
    {before behind : List Gather} {g : Gather}
    (hgathers : document.gathers = before ++ g :: behind)
    (hlast : ∀ other ∈ behind, Key.canonical other.aliasName ≠ Key.canonical g.aliasName)
    {directory : String} (hdirectory : directoryOf services root = .ok directory)
    {config : Config} (hconfig : Names services directory g config) :
    Entries.get? (Key.canonical g.aliasName) aliases = some config := by
  obtain ⟨directory', hdirectory', hall⟩ := h
  rw [hdirectory] at hdirectory'
  cases hdirectory'
  have hg : g ∈ document.gathers := by simp [hgathers]
  obtain ⟨base, hbase⟩ : ∃ base, services.base = .ok base := by
    obtain ⟨path, last, -, hresolve⟩ := hconfig
    obtain ⟨path', hlocate, -⟩ := sourcePath_of_resolveFile hresolve
    obtain ⟨base, hbase, -⟩ := Services.locate_eq_ok_iff.1 hlocate
    exact ⟨base, hbase⟩
  obtain ⟨-, hnames, haliases⟩ :=
    gatherAll_names hbase (root_gathers_reload root _ _) (hsession.entered root) hall
  have : Nonempty Config := ⟨config⟩
  choose! modules hmodules using hnames
  obtain rfl : aliases = document.aliasTable modules := haliases modules hmodules
  rw [Document.get?_aliasTable modules hg, Document.lastUnder_eq hgathers hlast,
    ((hmodules g hg).eq_iff hconfig).2 rfl]

/-- Gathering binds no other aliases. -/
theorem get?_gatherAll {resolver : Resolver} {directory key : String} {gathers : List Gather}
    (hkey : ∀ g ∈ gathers, Key.canonical g.aliasName ≠ key) {given : Entries Config}
    (h : gatherAll services resolver source directory given gathers session =
      .ok aliases gathered) : Entries.get? key aliases = Entries.get? key given := by
  induction gathers generalizing given session with
  | nil =>
    cases h
    rfl
  | cons g gathers ih =>
    rw [List.forall_mem_cons] at hkey
    obtain ⟨config, mid, -, hrest⟩ := bind_eq_ok_iff.1 h
    rw [ih hkey.2 hrest, Entries.get?_insert_of_ne hkey.1.symm]

/-- What no gather has as its alias is none. -/
theorem Collects.get?_eq_none
    (h : Collects services root source document session aliases gathered) {key : String}
    (hkey : ∀ g ∈ document.gathers, Key.canonical g.aliasName ≠ key) :
    Entries.get? key aliases = none := by
  obtain ⟨directory, -, hall⟩ := h
  exact get?_gatherAll hkey hall

/-! ## References and queries -/

/-- With which queries the dotted references of a document agree.  If the head is an alias, the
query is about the configuration that was gathered last under it, and goes through its items if
the first name is one of them and through its globals otherwise.  If the head is no alias and
the document is resolved, the query is about its own configuration, and goes through the
globals if the head is one of them and through the items otherwise. -/
theorem Collects.references_match (hsession : Sound services [] session)
    (h : Collects services root source document session aliases gathered) :
    let scope := Scope.ofDocument source services document aliases
    (∀ before g behind directory config, document.gathers = before ++ g :: behind →
      (∀ other ∈ behind, Key.canonical other.aliasName ≠ Key.canonical g.aliasName) →
      directoryOf services root = .ok directory → Names services directory g config →
      ∀ head next rest range, Key.canonical head = Key.canonical g.aliasName →
        (∀ name ∈ next :: rest, IsIdentifier name) →
        Matches scope (.path head next rest range)
          (config.value (config.home next) (".".intercalate (next :: rest)))) ∧
    ∀ config after, resolveDocument services root source document session = .ok config after →
      ∀ head next rest range slot,
        (∀ g ∈ document.gathers, Key.canonical g.aliasName ≠ Key.canonical head) →
        scope.slot? (Key.canonical head) = some slot →
        (∀ name ∈ head :: next :: rest, IsIdentifier name) →
        Matches scope (.path head next rest range)
          (config.value slot.space (".".intercalate (head :: next :: rest))) := by
  intro scope
  have hglobals : (Entries.keys scope.globals).Nodup := Entries.nodup_keys_ofList _
  have hitems : (Entries.keys scope.items).Nodup := Entries.nodup_keys_ofList _
  constructor
  · intro before g behind directory config hgathers hlast hdirectory hconfig head next rest range
      hhead hnames
    have halias : Entries.get? (Key.canonical head) scope.aliases = some config :=
      hhead ▸ h.get?_alias hsession hgathers hlast hdirectory hconfig
    exact .of_settles hglobals (Config.answers_member hnames) (settles_of_alias halias)
  · intro config after hresolve head next rest range slot halias hslot hnames
    obtain ⟨aliases', gathered', memory, hcollects, hrun⟩ := exists_collects hresolve
    obtain ⟨rfl, rfl⟩ := h.unique hcollects
    have performed := scope.evaluate_performs _ (Memory.faithful_fresh (h.truthful hsession))
    rw [hrun] at performed
    obtain ⟨-, hall, hdescribes⟩ := performed
    have hbinds := Scope.binds_of_slot? hslot
    obtain ⟨value, hyields⟩ := hall _ (Scope.slot_mem_tasks hbinds)
    have hvalue := (hdescribes.get?_slot hglobals hitems hbinds value).2 hyields
    rw [Scope.name_of_slot? hslot] at hvalue
    exact .of_settles hglobals (Config.answers_own hnames hvalue)
      (settles_of_slot (h.get?_eq_none halias) hslot hyields)

/-- A reference to a member of an item that is gathered, and one to a member of an item of the
document. -/
theorem Collects.references_match_items :
    let services := Services.ofStore [("/q", "k:\n  v true\nend\n")]
    let range := TextRange.nowhere
    let g : Gather := ⟨"q", "a", range, true⟩
    let document := [.gather g, .global "x" (.operand (.path "a" "k" ["v"] range)) range,
      .block "b" [.field "c" (.operand (.literal (.bool true) range)) range] range,
      .global "y" (.operand (.path "b" "c" [] range)) range]
    ∃ aliases gathered module config after,
      Collects services none (.ofText "") document fresh aliases gathered ∧
      Names services "/" g module ∧
      resolveDocument services none (.ofText "") document fresh = .ok config after ∧
      module.value (module.home "k") "k.v" = .ok (.bool true) ∧
      config.value .items "b.c" = .ok (.bool true) := by
  intro services range g document
  have htrue : (success? (resolveDocument services none (.ofText "") document fresh)).map
      (fun result => ["x", "y"].all fun key =>
        (Entries.get? key result.1.globals).any (·.comparison (.bool true) = some true)) =
      some true := by
    decide +kernel
  have hmodule : (success? (resolveFile services "/q" fresh)).isSome := by decide +kernel
  obtain ⟨⟨config, after⟩, h, hboth⟩ := Option.map_eq_some_iff.1 htrue
  obtain ⟨⟨module, last⟩, hfile⟩ := Option.isSome_iff_exists.1 hmodule
  rw [success?_eq_some_iff] at h hfile
  simp only [List.all_cons, List.all_nil, Bool.and_true, Bool.and_eq_true] at hboth
  have isTrue (key : String) (h : (Entries.get? key config.globals).any
      (·.comparison (.bool true) = some true) = true) :
      Entries.get? key config.globals = some (.bool true) := by
    obtain ⟨value, hvalue, hequal⟩ := (Option.any_eq_true _ _).1 h
    rw [hvalue]
    cases value <;> simp_all [Value.comparison]
  have identifier (name : String) (h : (Source.ofText name).tokens.toOption.map
      (List.map fun token => (token.kind, token.text)) = some [(.identifier, name), (.eof, "")]) :
      IsIdentifier name := isIdentifier_of_tokens h
  have hk := identifier "k" (by decide +kernel)
  have hv := identifier "v" (by decide +kernel)
  have hb := identifier "b" (by decide +kernel)
  have hc := identifier "c" (by decide +kernel)
  have hnames : Names services "/" g module := ⟨"/q", last, by decide +kernel, hfile⟩
  obtain ⟨aliases, gathered, memory, hcollects, hrun⟩ := exists_collects h
  obtain ⟨hgathered, hown⟩ := hcollects.references_match (Sound.fresh services)
  have hmemory : (Memory.fresh gathered.resources).Faithful
      (.ofDocument (.ofText "") services document aliases) :=
    Memory.faithful_fresh (hcollects.truthful (Sound.fresh services))
  have hmember := hgathered [] g [] "/" module rfl (by simp) rfl hnames "a" "k" ["v"] range
    rfl (by simp [hk, hv])
  have hitem := hown config after h "b" "c" [] range (.item "b") (by decide +kernel) rfl
    (by simp [hb, hc])
  exact ⟨aliases, gathered, module, config, after, hcollects, hnames, h,
    (hmember.global "x" range rfl _ _ _ hmemory hrun _).1 (isTrue "x" hboth.1),
    (hitem.global "y" range rfl _ _ _ hmemory hrun _).1 (isTrue "y" hboth.2)⟩

end Session

end Rune
