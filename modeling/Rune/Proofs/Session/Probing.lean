import Rune.Proofs.Session.ImportCycle
import Rune.Proofs.Session.Layers
import Rune.Proofs.Session.Reordering

/-!
# Rune - names across an include

A module is probed twice: with a probe among its own statements, and with a probe in a
document that gathers the module without an alias.  Both probes find what the name stands for
in the layers of the module, the first one layer by layer and the second one globals first.

Main results:

- Definition {lit}`Document.Adds` puts one more statement into a document, and
  {lit}`Document.Fresh` says that a name is fresh for it.
- Definition {lit}`Session.Finds` says what a probe finds.
- Theorem {lit}`Session.resolve_probed`: what both probes find.
-/

namespace Rune

/-! ## One more statement -/

namespace Document

/-- A second document has one more statement, anywhere, and the others at other places. -/
def Adds (statement : Statement) (document document' : Document) : Prop :=
  ∃ before after, document.map Statement.unplaced = before ++ after ∧
    document'.map Statement.unplaced = before ++ statement.unplaced :: after

/-- Nothing in a document is bound to a name, and nothing refers to it. -/
structure Fresh (document : Document) (name : String) : Prop where
  globals : Entries.contains (Key.canonical name) (Scope.globalsOf document) = false
  items : Entries.contains (Key.canonical name) (Scope.itemsOf document) = false
  mentions : .name (Key.canonical name) ∉ document.mentions

namespace Adds

variable {document document' : Document} {probe name : String} {range range' : TextRange}
  (h : Adds (.global probe (.operand (.name name range)) range') document document')
include h

/-- The bindings of another kind are the same. -/
theorem bindings_eq {β γ : Type} (binding? : Statement → Option (String × β))
    (expression unplaced : β → γ)
    (hunplaced : ∀ s, (binding? s.unplaced).map (fun e => (e.1, expression e.2)) =
      (binding? s).map fun e => (e.1, unplaced e.2))
    (hother : ∀ probe expr range, binding? (.global probe expr range) = none) :
    (document'.filterMap binding?).map (fun e => (e.1, unplaced e.2)) =
      (document.filterMap binding?).map fun e => (e.1, unplaced e.2) := by
  obtain ⟨before, after, hdocument, hdocument'⟩ := h
  rw [map_bindings document' binding? expression unplaced hunplaced,
    map_bindings document binding? expression unplaced hunplaced, hdocument, hdocument']
  simp [List.filterMap_append, Statement.unplaced, hother]

theorem gathers_eq :
    document'.gathers.map Gather.unplaced = document.gathers.map Gather.unplaced := by
  have unplaced (document : Document) : document.gathers.map Gather.unplaced =
      gathers (document.map Statement.unplaced) := by
    rw [gathers, gathers, List.map_filterMap, List.filterMap_map]
    exact List.filterMap_congr fun s _ => by cases s <;> rfl
  obtain ⟨before, after, hdocument, hdocument'⟩ := h
  rw [unplaced, unplaced, hdocument, hdocument']
  simp [gathers, List.filterMap_append, Statement.unplaced]

theorem map_get?_items (other : String) :
    (Entries.get? other (Scope.itemsOf document')).map (fun bound => Member.unplacedAll bound.1) =
      (Entries.get? other (Scope.itemsOf document)).map fun bound => Member.unplacedAll bound.1 := by
  have hbindings := h.bindings_eq Statement.block? (·.1)
    (fun bound => Member.unplacedAll bound.1) (fun s => by cases s <;> rfl) fun _ _ _ => rfl
  rw [Scope.itemsOf, Scope.itemsOf, Entries.map_get?_ofList, Entries.map_get?_ofList]
  exact congrArg (fun entries => Entries.get? other entries.reverse) hbindings

theorem metadata_eq : (Scope.metadataOf document').map (fun bound => bound.2.1.unplaced) =
    (Scope.metadataOf document).map fun bound => bound.2.1.unplaced := by
  have hbindings := h.bindings_eq Statement.metadata? (·.1) (·.1.unplaced)
    (fun s => by cases s <;> rfl) fun _ _ _ => rfl
  have hvalues := congrArg (List.map Prod.snd) hbindings
  rw [List.map_map, List.map_map] at hvalues
  exact hvalues

/-- The globals are the same, with the probe in addition. -/
theorem map_get?_globals (hunbound : Entries.contains (Key.canonical probe)
      (Scope.globalsOf document) = false) (other : String) :
    (Entries.get? other (Scope.globalsOf document')).map (·.1.unplaced) =
      if other = Key.canonical probe then
        some (ValueExpr.operand (.name name range)).unplaced
      else (Entries.get? other (Scope.globalsOf document)).map (·.1.unplaced) := by
  let read (s : Statement) : Option (String × ValueExpr) :=
    (Statement.global? s).map fun e => (e.1, e.2.1)
  have forgets (document : Document) :
      (Entries.get? other (Scope.globalsOf document)).map (·.1.unplaced) =
        Entries.get? other ((document.map Statement.unplaced).filterMap read).reverse := by
    rw [Scope.globalsOf, Entries.map_get?_ofList]
    exact congrArg (fun entries => Entries.get? other entries.reverse)
      (map_bindings document Statement.global? (·.1) (·.1.unplaced) fun s => by cases s <;> rfl)
  obtain ⟨before, after, hdocument, hdocument'⟩ := h
  have hcons : List.filterMap read (Statement.unplaced
      (.global probe (.operand (.name name range)) range') :: after) =
      (Key.canonical probe, .operand (.name name .nowhere)) :: after.filterMap read := rfl
  have hold : (Entries.get? other (Scope.globalsOf document)).map (·.1.unplaced) =
      (Entries.get? other (after.filterMap read).reverse).or
        (Entries.get? other (before.filterMap read).reverse) := by
    rw [forgets, hdocument, List.filterMap_append, List.reverse_append, Entries.get?_append]
  rw [forgets, hdocument', List.filterMap_append, List.reverse_append, Entries.get?_append, hcons,
    List.reverse_cons, Entries.get?_append]
  by_cases hother : other = Key.canonical probe
  · subst hother
    have hnone : Entries.get? (Key.canonical probe) (Scope.globalsOf document) = none := by
      simpa [Entries.contains] using hunbound
    rw [hnone, Option.map_none, eq_comm, Option.or_eq_none_iff] at hold
    rw [if_pos rfl, hold.1]
    simp [Entries.get?, ValueExpr.unplaced, Operand.unplaced]
  · rw [if_neg hother, hold]
    simp [Entries.get?, Ne.symm hother]

/-- Where its name is fresh, the document with the probe probes the one without. -/
theorem probes (hfresh : document.Fresh probe) (source source' : Source) (services : Services)
    (aliases : Entries Config) :
    (Scope.ofDocument source services document aliases).Probes (Key.canonical probe) name
      (Scope.ofDocument source' services document' aliases) where
  services := rfl
  aliases := rfl
  includes := Scope.includesOf_eq h.gathers_eq aliases
  unbound := by
    have hglobals : Entries.get? (Key.canonical probe) (Scope.globalsOf document) = none := by
      simpa [Entries.contains] using hfresh.globals
    have hitems : Entries.get? (Key.canonical probe) (Scope.itemsOf document) = none := by
      simpa [Entries.contains] using hfresh.items
    exact Scope.slot?_eq_none_iff.2 ⟨hglobals, hitems⟩
  unmentioned := by
    have hmentions := Scope.mentionsOnly_ofDocument source services document aliases
    have hne {mention : Mention} (hmem : mention ∈ document.mentions) :
        mention ≠ .name (Key.canonical probe) := fun heq => hfresh.mentions (heq ▸ hmem)
    exact ⟨fun name bound hbound mention hmem =>
        hne (hmentions.globals name bound hbound mention hmem),
      fun name bound hbound mention hmem => hne (hmentions.items name bound hbound mention hmem),
      fun bound hbound mention hmem => hne (hmentions.metadata bound hbound mention hmem)⟩
  probe := by
    have hprobe := h.map_get?_globals hfresh.globals (Key.canonical probe)
    rw [if_pos rfl, Option.map_eq_some_iff] at hprobe
    obtain ⟨⟨expr, range''⟩, hbound, hexpr⟩ := hprobe
    obtain ⟨operand, rfl, hoperand⟩ : ∃ operand, expr = .operand operand ∧
        operand.unplaced = .name name .nowhere := by
      cases expr <;> simp_all [ValueExpr.unplaced, Operand.unplaced]
    cases operand <;> simp only [Operand.unplaced, reduceCtorEq, Operand.name.injEq, and_true]
      at hoperand
    subst hoperand
    exact ⟨_, range'', hbound⟩
  globals other hother := by
    rw [Scope.ofDocument, h.map_get?_globals hfresh.globals, if_neg hother]
    rfl
  items := h.map_get?_items
  metadata := h.metadata_eq

end Adds

end Document

namespace Session

open ImportGraph

/-! ## What a probe finds -/

/-- What a probe finds: a value, or its name is unresolved. -/
def Finds (source : Source) (probe name : String)
    (result : EStateM.Result Failure Session Config) : Option Value → Prop
  | some value => ∃ config after, result = .ok config after ∧
      Entries.get? (Key.canonical probe) config.globals = some value
  | none => ∃ range after,
      result = .error ((Flaw.fault (.unresolved name) range).failure source) after

/-- A probe is found to refer to itself. -/
def FindsItself (result : EStateM.Result Failure Session Config) : Prop :=
  ∃ failure after, result = .error failure after ∧ failure.IsReferenceCycle

section

variable {services : Services} {path : Option String} {source : Source}
  {document document' : Document} {session gathered : Session} {aliases : Entries Config}
  {probe name : String} {range range' : TextRange}
  (hsession : Sound services [] session)
  (hcollects : Collects services path source document session aliases gathered)
  (hall : ∀ task ∈ (Scope.ofDocument source services document aliases).tasks,
    ∃ value, ByName.Yields (.ofDocument source services document aliases) task value)
  (hfresh : document.Fresh probe)
  (hadds : document.Adds (.global probe (.operand (.name name range)) range') document')
include hsession hcollects hall hfresh hadds

/-- A probe in a document finds what its name stands for in the layers of the document. -/
theorem Collects.finds (hname : Key.canonical name ≠ Key.canonical probe) {own : Config}
    (hown : (Scope.ofDocument source services document aliases).Own own) (source' : Source) :
    Finds source' probe name (resolveDocument services path source' document' session)
      (Config.bareIn? (Scope.includesOf document aliases ++ [own]) (Key.canonical name)) := by
  have hprobes := hadds.probes hfresh source source' services aliases
  have hcollects' := hcollects.redraft source' hadds.gathers_eq
  have hmemory : (Memory.fresh gathered.resources).Faithful
      (.ofDocument source' services document' aliases) :=
    Memory.faithful_fresh (hcollects.truthful hsession)
  have found {value : Value}
      (hvalue : ByName.Yields (.ofDocument source' services document' aliases)
        (.slot (.global (Key.canonical probe))) value) :
      Finds source' probe name (resolveDocument services path source' document' session)
        (some value) := by
    obtain ⟨config, memory, hrun, hget⟩ :=
      hprobes.evaluate_found hall hmemory (Entries.nodup_keys_ofList _) hvalue
    obtain ⟨after, hafter⟩ := hcollects'.resolveDocument_eq_ok hrun
    exact ⟨config, after, hafter, hget⟩
  change Finds _ _ _ _ (Config.bareIn?
    ((Scope.ofDocument source services document aliases).includes ++ [own]) _)
  cases hslot : (Scope.ofDocument source services document aliases).slot? (Key.canonical name) with
  | some slot =>
    obtain ⟨value, hvalue, hyields⟩ := hown.bareIn?_of_slot hslot
    rw [hvalue]
    exact found (hprobes.probe_of_slot hname hslot hyields)
  | none =>
    rw [hown.bareIn?_of_unbound hslot]
    cases hincluded : (Scope.ofDocument source services document aliases).included?
        (Key.canonical name) with
    | some value => exact found (hprobes.probe_of_included hname hslot hincluded)
    | none =>
      obtain ⟨range, memory, hrun⟩ :=
        hprobes.evaluate_unresolved hall hmemory hname hslot hincluded
      obtain ⟨after, hafter⟩ := hcollects'.resolveDocument_eq_error hrun
      exact ⟨range, after, hafter⟩

/-- A probe of its own name finds itself. -/
theorem Collects.findsItself (hname : Key.canonical name = Key.canonical probe)
    (source' : Source) :
    FindsItself (resolveDocument services path source' document' session) := by
  have hprobes := hadds.probes hfresh source source' services aliases
  have hmemory : (Memory.fresh gathered.resources).Faithful
      (.ofDocument source' services document' aliases) :=
    Memory.faithful_fresh (hcollects.truthful hsession)
  obtain ⟨chain, range, memory, hrun⟩ := hprobes.evaluate_self hall hmemory hname
  obtain ⟨after, hafter⟩ :=
    (hcollects.redraft source' hadds.gathers_eq).resolveDocument_eq_error hrun
  exact ⟨_, after, hafter, Flaw.failure_isReferenceCycle_iff.2 trivial⟩

end

/-! ## A document that includes a module -/

section

variable {services : Services} {root : Option String} {path directory text above : String}
  {document : Document} {config : Config} {after : Session} {g : Gather}
  {probe name : String} {range range' : TextRange}
  (hread : services.files.read path = .ok text)
  (hresolve : resolve services (some path) text fresh = .ok config after)
  (habove : (Source.ofText above root).parse =
    .ok [.gather g, .global probe (.operand (.name name range)) range'])
  (hdirectory : directoryOf services root = .ok directory)
  (hlocate : FilePath.locate services.standpoint directory g.path = .ok path)
include hread hresolve habove hdirectory hlocate

/-- A file that is the document itself is not gathered by the module. -/
theorem not_reachable_of_read {file : String} (hroot : root = some file)
    (hfile : services.files.read file = .ok above) :
    ¬ Reachable services (some path) text (some file) := by
  subst hroot
  have htext : textAt services (some path) text (some file) = some above := by
    unfold textAt
    split
    · rename_i heq
      cases heq
      rw [hread] at hfile
      cases hfile
      rfl
    · simp [hfile, Except.toOption]
  have hgathers := (gathers_iff htext habove hdirectory).2 ⟨by simp [Document.gathers], hlocate⟩
  intro hreach
  exact acyclic_of_resolve hresolve _ .refl (.tail' hreach ⟨g, path, hgathers, rfl⟩)

variable (hroot : ∀ file, root = some file → ¬ Reachable services (some path) text (some file))
include hroot

/-- With the document in front of the module, there is still no file that gathers itself. -/
theorem acyclic_of_gathers : Acyclic services root above := by
  refine (acyclic_of_resolve hresolve).before hread hroot ?_
  rintro _ ⟨other, file, hgathers, rfl⟩
  obtain ⟨hmem, hfile⟩ := (gathers_iff (by simp [textAt]) habove hdirectory).1 hgathers
  obtain rfl : other = g := by simpa [Document.gathers] using hmem
  rw [hlocate] at hfile
  cases hfile
  rfl

/-- Resolved from the document, the module has the configuration that it has by itself. -/
theorem resolver_module {session : Session} (hsession : Sound services root.toList session)
    (hmodules : session.modules = []) : ∃ gathered,
      resolverWith services services.files.known.length path text session = .ok config gathered := by
  have hcanonical := FilePath.isCanonical_of_locate hlocate
  have hsettles : Settles (fun depth => Reloading.file services depth path) (.value config) := by
    have result := resolve_reloads hread hcanonical _ (Sound.fresh services)
    rw [hresolve] at result
    cases result with
    | value _ hq => exact hq
  have hgathers : Gathers services root above root g path :=
    (gathers_iff (by simp [textAt]) habove hdirectory).2 ⟨by simp [Document.gathers], hlocate⟩
  have hnew : path ∉ root.toList := fun hmem => hroot path (by simpa using hmem) .refl
  have reloaded := resolver_reloads root hnew hread hcanonical session hsession
  have explored := resolver_explores hnew hread ⟨g, path, hgathers, rfl⟩ session hsession.active_eq
    (by rw [hmodules]; exact .nil)
  generalize resolverWith services services.files.known.length path text session = ended
    at reloaded explored ⊢
  cases reloaded with
  | value _ hq =>
    cases hq.unique hsettles
    exact ⟨_, rfl⟩
  | failure _ _ hq => cases hq.unique hsettles
  | @recurs failure _ _ _ hcycle _ =>
    cases failure with
    | importCycle diagnostic chain =>
      have hacyclic := acyclic_of_gathers hread hresolve habove hdirectory hlocate hroot
      exact absurd hacyclic (explored diagnostic chain rfl).not_acyclic
    | _ => exact hcycle.elim

/-- What the document gathers is the configuration of the module. -/
theorem collects_module (source : Source) : ∃ gathered,
    Collects services root source [.gather g] fresh [(Key.canonical g.aliasName, config)]
      gathered := by
  have hsession := (((Sound.fresh services).entered root).noted (.fileAsked path)).noted
    (.loaded path text.length g.aliasName)
  obtain ⟨gathered, hrun⟩ :=
    resolver_module hread hresolve habove hdirectory hlocate hroot hsession rfl
  have hnew : path ∉ (fresh.entered root).active := fun hmem =>
    hroot path (by simpa [entered, fresh] using hmem) .refl
  have hgather : gather services (resolverWith services services.files.known.length) source
      directory g (fresh.entered root) = .ok config gathered :=
    gather_eq_ok_iff.2 ⟨path, hlocate, hnew, .inr ⟨rfl, text, hread, hrun⟩⟩
  exact ⟨gathered, directory, hdirectory,
    bind_eq_ok_iff.2 ⟨config, gathered, hgather, rfl⟩⟩

end

/-! ## Both probes -/

/-- A document that only gathers one module without an alias has nothing of its own, and what
it includes is the module. -/
theorem own_of_gather (source : Source) (services : Services) {g : Gather}
    (halias : g.explicitAlias = false) (config : Config) :
    let aliases := [(Key.canonical g.aliasName, config)]
    ∃ own, (Scope.ofDocument source services [.gather g] aliases).Own own ∧
      ∀ key, Config.bareIn? (Scope.includesOf [.gather g] aliases ++ [own]) key =
        config.bare? key := by
  refine ⟨{ config with globals := [], items := [] }, ⟨.nil, .nil⟩, fun key => ?_⟩
  rw [Config.bareIn?_concat]
  simp [Scope.includesOf, Document.gathers, halias, Entries.get?, Config.bareIn?, Config.bare?]

/-- A module is probed by a statement of its own, and by a document that includes the module.
The first probe finds what its name stands for in the layers of the module: the modules that it
includes, and its own bindings.  The second one finds what the name stands for in the
configuration, which is the same unless the name clashes: a layer has it as an item only, none
above has it, and one below has it as a global.  Then the first probe finds the item, and the
second one the global. -/
theorem resolve_probed {services : Services} {root : Option String}
    {path directory text inside above : String} {document document' : Document} {config : Config}
    {after : Session} {g : Gather} {probe name : String} {place whole place' whole' : TextRange}
    (hread : services.files.read path = .ok text)
    (hparse : (Source.ofText text (some path)).parse = .ok document)
    (hresolve : resolve services (some path) text fresh = .ok config after)
    (hfresh : document.Fresh probe)
    (hinside : (Source.ofText inside (some path)).parse = .ok document')
    (hadds : document.Adds (.global probe (.operand (.name name place)) whole) document')
    (habove : (Source.ofText above root).parse =
      .ok [.gather g, .global probe (.operand (.name name place')) whole'])
    (halias : g.explicitAlias = false) (hdirectory : directoryOf services root = .ok directory)
    (hlocate : FilePath.locate services.standpoint directory g.path = .ok path)
    (hroot : ∀ file, root = some file → services.files.read file ≠ .ok above →
      ¬ Reachable services (some path) text (some file)) :
    ∃ aliases gathered own,
      Collects services (some path) (.ofText text (some path)) document fresh aliases gathered ∧
      (Scope.ofDocument (.ofText text (some path)) services document aliases).Own own ∧
      let key := Key.canonical name
      let layers := Scope.includesOf document aliases ++ [own]
      config.MadeOf layers ∧
      (key ≠ Key.canonical probe →
        Finds (.ofText inside (some path)) probe name (resolve services (some path) inside fresh)
          (Config.bareIn? layers key) ∧
        Finds (.ofText above root) probe name (resolve services root above fresh)
          (config.bare? key)) ∧
      (key = Key.canonical probe →
        FindsItself (resolve services (some path) inside fresh) ∧
        FindsItself (resolve services root above fresh)) ∧
      (config.bare? key).isSome = (Config.bareIn? layers key).isSome ∧
      (∀ item global, Config.Clashes layers key item global →
        Config.bareIn? layers key = some item ∧ config.bare? key = some global) ∧
      ((∀ item global, ¬ Config.Clashes layers key item global) →
        config.bare? key = Config.bareIn? layers key) := by
  have hsession := Sound.fresh services
  have hroot (file : String) (hfile : root = some file) :
      ¬ Reachable services (some path) text (some file) := by
    by_cases hsame : services.files.read file = .ok above
    · exact not_reachable_of_read hread hresolve habove hdirectory hlocate hfile hsame
    · exact hroot file hfile hsame
  obtain ⟨aliases, gathered, own, hcollects, hall, hown, hlayers⟩ :=
    exists_layers hsession (resolve_of_parse hparse ▸ hresolve)
  -- The document that includes the module is one that gathers it, with a probe in addition.
  obtain ⟨gathered', hcollects'⟩ := collects_module hread hresolve habove hdirectory hlocate hroot
    (.ofText above root)
  obtain ⟨own', hown', hbare⟩ := own_of_gather (.ofText above root) services halias config
  have hfresh' : Document.Fresh [.gather g] probe := ⟨rfl, rfl, nofun⟩
  have hadds' : Document.Adds (.global probe (.operand (.name name place')) whole') [.gather g]
      [.gather g, .global probe (.operand (.name name place')) whole'] :=
    ⟨[.gather g.unplaced], [], rfl, rfl⟩
  refine ⟨aliases, gathered, own, hcollects, hown, hlayers, fun hname => ⟨?_, ?_⟩,
    fun hname => ⟨?_, ?_⟩, hlayers.isSome_bare?_eq _,
    fun item global hclash => ⟨hclash.bareIn?_eq, hlayers.bare?_of_clashes hclash⟩, fun hnone => ?_⟩
  · rw [resolve_of_parse hinside]
    exact hcollects.finds hsession hall hfresh hadds hname hown _
  · rw [resolve_of_parse habove, ← hbare]
    exact hcollects'.finds hsession nofun hfresh' hadds' hname hown' _
  · rw [resolve_of_parse hinside]
    exact hcollects.findsItself hsession hall hfresh hadds hname _
  · rw [resolve_of_parse habove]
    exact hcollects'.findsItself hsession nofun hfresh' hadds' hname _
  · rcases hlayers.bare?_eq_or (Key.canonical name) with heq | ⟨item, global, hclash⟩
    · exact heq
    · exact absurd hclash (hnone item global)

/-- What a document of one gather and at most one probe says, without places. -/
def outline : Document → Option (Gather × Option (String × String))
  | [.gather g] => some (g.unplaced, none)
  | [.gather g, .global probe (.operand (.name name _)) _] => some (g.unplaced, some (probe, name))
  | _ => none

/-- A document is what its outline says. -/
theorem eq_of_outline {document : Document} {g : Gather} {probe? : Option (String × String)}
    (h : outline document = some (g, probe?)) :
    ∃ g', g'.unplaced = g ∧ match probe? with
      | none => document = [.gather g']
      | some (probe, name) => ∃ place whole,
          document = [.gather g', .global probe (.operand (.name name place)) whole] := by
  unfold outline at h
  split at h <;> cases h
  · exact ⟨_, rfl, rfl⟩
  · exact ⟨_, rfl, _, _, rfl⟩

/-- A module that only includes another one, and a name of that one. -/
theorem resolve_probed_through :
    let services := Services.ofStore [("/m", "gather \"n\"\n"), ("/n", "x 1\n")]
    let inside := "gather \"n\"\nprobe x\n"
    let above := "gather \"m\"\nprobe x\n"
    ∃ config after layers,
      resolve services (some "/m") "gather \"n\"\n" fresh = .ok config after ∧
      config.MadeOf layers ∧ (config.bare? "x").isSome ∧
      Finds (.ofText inside (some "/m")) "probe" "x" (resolve services (some "/m") inside fresh)
        (Config.bareIn? layers "x") ∧
      Finds (.ofText above none) "probe" "x" (resolve services none above fresh)
        (config.bare? "x") := by
  intro services inside above
  have hrun : (success? (resolve services (some "/m") "gather \"n\"\n" fresh)).map
      (fun result => (result.1.bare? "x").isSome) = some true := by
    decide +kernel
  have outlined (path : Option String) (text : String) (g : Gather)
      (probe? : Option (String × String))
      (h : (Source.ofText text path).parse.toOption.bind outline = some (g, probe?)) :
      ∃ document, (Source.ofText text path).parse = .ok document ∧
        outline document = some (g, probe?) := by
    cases hparse : (Source.ofText text path).parse with
    | error failure =>
      rw [hparse] at h
      cases h
    | ok document =>
      rw [hparse] at h
      exact ⟨document, rfl, h⟩
  obtain ⟨_, hparse, hmodule⟩ := outlined (some "/m") "gather \"n\"\n"
    ⟨"n", "n", .nowhere, false⟩ none (by decide +kernel)
  obtain ⟨_, hinside, hinner⟩ := outlined (some "/m") inside
    ⟨"n", "n", .nowhere, false⟩ (some ("probe", "x")) (by decide +kernel)
  obtain ⟨_, habove, houter⟩ := outlined none above
    ⟨"m", "m", .nowhere, false⟩ (some ("probe", "x")) (by decide +kernel)
  obtain ⟨n, hn, rfl⟩ := eq_of_outline hmodule
  obtain ⟨n', hn', place, whole, rfl⟩ := eq_of_outline hinner
  obtain ⟨m, hm, place', whole', rfl⟩ := eq_of_outline houter
  obtain ⟨⟨config, after⟩, h, hsome⟩ := Option.map_eq_some_iff.1 hrun
  rw [success?_eq_some_iff] at h
  have hlocate : FilePath.locate services.standpoint "/" m.path = .ok "/m" := by
    rw [show m.path = "m" from congrArg Gather.path hm]
    decide +kernel
  have halias : m.explicitAlias = false := congrArg Gather.explicitAlias hm
  obtain ⟨aliases, gathered, own, -, -, hlayers, hfinds, -⟩ := resolve_probed rfl hparse h
    ⟨rfl, rfl, nofun⟩ hinside ⟨[.gather n.unplaced], [], rfl, by rw [hn, ← hn']; rfl⟩ habove halias
    rfl hlocate nofun
  have hfound := hfinds (by decide +kernel)
  exact ⟨config, after, _, h, hlayers, hsome, hfound⟩

/-- A module whose item hides the global of a module that it includes: a probe of its own finds
the item, and a document that includes it finds the global. -/
theorem resolve_probed_apart :
    let services := Services.ofStore
      [("/m", "gather \"n\"\nx:\n  y 2\nend\n"), ("/n", "x 1\n")]
    let inside := "gather \"n\"\nx:\n  y 2\nend\nprobe x\n"
    ∃ config after config' last value value',
      resolve services (some "/m") inside fresh = .ok config after ∧
      Entries.get? "probe" config.globals = some value ∧
      resolve services none "gather \"m\"\nprobe x\n" fresh = .ok config' last ∧
      Entries.get? "probe" config'.globals = some value' ∧ value ≠ value' := by
  intro services inside
  have hinside : (success? (resolve services (some "/m") inside fresh)).map
      (fun result => (Entries.get? "probe" result.1.globals).map Value.kind) =
        some (some .object) := by
    decide +kernel
  have habove : (success? (resolve services none "gather \"m\"\nprobe x\n" fresh)).map
      (fun result => (Entries.get? "probe" result.1.globals).map Value.kind) =
        some (some .number) := by
    decide +kernel
  obtain ⟨⟨config, after⟩, h, hobject⟩ := Option.map_eq_some_iff.1 hinside
  obtain ⟨⟨config', last⟩, h', hnumber⟩ := Option.map_eq_some_iff.1 habove
  rw [success?_eq_some_iff] at h h'
  obtain ⟨value, hvalue, hkind⟩ := Option.map_eq_some_iff.1 hobject
  obtain ⟨value', hvalue', hkind'⟩ := Option.map_eq_some_iff.1 hnumber
  refine ⟨config, after, config', last, value, value', h, hvalue, h', hvalue', ?_⟩
  rintro rfl
  rw [hkind] at hkind'
  cases hkind'

end Session

end Rune
