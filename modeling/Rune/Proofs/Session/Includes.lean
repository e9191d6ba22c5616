import Rune.Proofs.Evaluation.Performing
import Rune.Proofs.Session.Entry
import Rune.Proofs.Session.Transparency

/-!
# Rune - what a document includes

A document includes what it gathers without an alias of its own: the globals and items
of these modules come before those of the document.  The modules are found by their
aliases, and an alias stands for the module that was gathered last under it.  So a
document includes exactly the modules that its gathers name if no later gather has
taken their alias for another file.

Main results:

- Definition {lit}`Session.Names` says which module a gather names, and
  {lit}`Document.lastUnder` which gather an alias stands for.
- Structure {lit}`Scope.Includes` says that a configuration is that of a document which
  includes given modules.
- Theorem {lit}`Entry.resolve_includes`: what is included, and when these are the modules
  that the gathers name.
-/

namespace Rune

/-! ## Gathers of a document -/

namespace Document

/-- The gathers without an alias of their own, in source order. -/
def included (document : Document) : List Gather := document.gathers.filter (!·.explicitAlias)

/-- The last gather under the alias of a gather, in any spelling. -/
def lastUnder (document : Document) (g : Gather) : Gather :=
  (document.gathers.reverse.find? fun other =>
    Key.canonical other.aliasName = Key.canonical g.aliasName).getD g

/-- The configurations under the aliases of gathers that name modules. -/
def aliasTable (document : Document) (modules : Gather → Config) : Entries Config :=
  Entries.ofList (document.gathers.map fun g => (Key.canonical g.aliasName, modules g))

variable {document : Document} {g : Gather}

theorem mem_gathers_of_mem_included (hg : g ∈ document.included) : g ∈ document.gathers :=
  List.mem_of_mem_filter hg

/-- Among the gathers there is a last one under the alias of each. -/
theorem find?_lastUnder (hg : g ∈ document.gathers) :
    document.gathers.reverse.find? (fun other =>
      Key.canonical other.aliasName = Key.canonical g.aliasName) = some (document.lastUnder g) := by
  unfold lastUnder
  cases h : document.gathers.reverse.find? (fun other =>
      Key.canonical other.aliasName = Key.canonical g.aliasName) with
  | some other => rfl
  | none =>
    rw [List.find?_eq_none] at h
    exact absurd (decide_eq_true rfl) (h g (List.mem_reverse.2 hg))

/-- The last gather under an alias is one of the gathers. -/
theorem lastUnder_mem (hg : g ∈ document.gathers) : document.lastUnder g ∈ document.gathers :=
  List.mem_reverse.1 (List.mem_of_find?_eq_some (find?_lastUnder hg))

/-- An alias stands for the module that was gathered last under it. -/
theorem get?_aliasTable (modules : Gather → Config) (hg : g ∈ document.gathers) :
    Entries.get? (Key.canonical g.aliasName) (document.aliasTable modules) =
      some (modules (document.lastUnder g)) := by
  rw [aliasTable, Entries.get?_ofList, ← List.map_reverse, Entries.get?_map, find?_lastUnder hg]
  rfl

end Document

/-! ## Included modules -/

namespace Scope

/-- A document includes the modules that the aliases of its gathers stand for. -/
theorem includesOf_aliasTable (document : Document) (modules : Gather → Config) :
    includesOf document (document.aliasTable modules) =
      document.included.map fun g => modules (document.lastUnder g) := by
  have hget : ∀ g ∈ document.included,
      Entries.get? (Key.canonical g.aliasName) (document.aliasTable modules) =
        some (modules (document.lastUnder g)) := fun g hg =>
    Document.get?_aliasTable modules (Document.mem_gathers_of_mem_included hg)
  unfold includesOf
  rw [← Document.included, List.filterMap_congr hget, ← List.filterMap_eq_map]
  rfl

/-- What is included and what is the document's own, given one after another. -/
theorem withIncluded_eq (scope : Scope) (space : Namespace) (own : Entries Value) :
    scope.withIncluded space own =
      Entries.ofList (scope.includes.flatMap (·.values space) ++ own) := by
  rw [withIncluded, Entries.foldl_merge (fun config : Config => config.values space),
    Entries.ofList, Entries.merge_append]

/-- A configuration is that of a document which includes modules: the entries of both
namespaces are those of the modules, one after another, and then what the document's
own bindings yield.  A later entry counts, in the place of the first one. -/
structure Includes (scope : Scope) (modules : List Config) (config : Config) : Prop where
  includes_eq : scope.includes = modules
  globals : ∃ own, ByName.Fills scope (fun bound => .slot (.global bound.1)) scope.globals own ∧
    config.globals = Entries.ofList (modules.flatMap (·.globals) ++ own)
  items : ∃ own, ByName.Fills scope (fun bound => .slot (.item bound.1)) scope.items own ∧
    config.items = Entries.ofList (modules.flatMap (·.items) ++ own)
  /-- Metadata is that of the document only. -/
  metadata : ∃ own, ByName.Fills scope (fun bound => .metadata bound.2.1) scope.metadata own ∧
    config.metadata = Entries.ofList own
  /-- A name that the document does not bind is looked up in the modules. -/
  names : ∀ key, scope.included? key = modules.reverse.findSome? fun config =>
    (Entries.get? key config.globals).or (Entries.get? key config.items)

/-- Evaluating a document includes the modules of its scope. -/
theorem includes_of_evaluate {scope : Scope} {resources : Resources} {config : Config}
    {after : Memory} (htruthful : resources.Truthful scope.services.system)
    (h : scope.evaluate (.fresh resources) = .ok config after) :
    scope.Includes scope.includes config := by
  have performed := scope.evaluate_performs _ (Memory.faithful_fresh htruthful)
  rw [h] at performed
  obtain ⟨-, -, described⟩ := performed
  refine ⟨rfl, ?_, ?_, described.metadata, fun _ => rfl⟩
  · obtain ⟨own, hown, heq⟩ := described.globals
    exact ⟨own, hown, heq.trans (scope.withIncluded_eq .globals own)⟩
  · obtain ⟨own, hown, heq⟩ := described.items
    exact ⟨own, hown, heq.trans (scope.withIncluded_eq .items own)⟩

/-- Only one list of modules is included. -/
theorem Includes.iff_eq {scope : Scope} {modules : List Config} {config : Config}
    (h : scope.Includes modules config) (others : List Config) :
    scope.Includes others config ↔ modules = others := by
  constructor
  · intro hothers
    rw [← h.includes_eq, ← hothers.includes_eq]
  · rintro rfl
    exact h

end Scope

namespace Session

variable {services : Services} {source : Source} {directory : String} {g : Gather}

/-! ## Modules of gathers -/

/-- What a gather comes to without a memory is the configuration of its file. -/
theorem exists_settles_of_gather {config : Config}
    (h : Settles (fun depth => Reloading.gather services (Reloading.file services depth) source
      directory g) (.value config)) :
    ∃ path, FilePath.locate services.standpoint directory g.path = .ok path ∧
      Settles (fun depth => Reloading.file services depth path) (.value config) := by
  cases hpath : FilePath.locate services.standpoint directory g.path with
  | error fault =>
    simp only [Reloading.gather_of_fault _ hpath] at h
    cases h.unique (Settles.const _)
  | ok path =>
    cases hread : services.files.read path with
    | error fault =>
      simp only [Reloading.gather_of_unreadable _ hpath hread] at h
      cases h.unique (Settles.const _)
    | ok text =>
      simp only [Reloading.gather_of_read _ hpath hread] at h
      exact ⟨path, rfl, h⟩

/-- The module that a gather names: the configuration that a fresh session gives for its
file. -/
def Names (services : Services) (directory : String) (g : Gather) (config : Config) : Prop :=
  ∃ path last, FilePath.locate services.standpoint directory g.path = .ok path ∧
    resolveFile services path fresh = .ok config last

namespace Names

variable {config config' : Config}

/-- The module of a gather has the path of its file. -/
theorem locate_eq (h : Names services directory g config) :
    ∃ path, FilePath.locate services.standpoint directory g.path = .ok path ∧
      config.sourcePath = some path := by
  obtain ⟨path, last, hpath, hresolve⟩ := h
  obtain ⟨path', hlocate, hsource⟩ := sourcePath_of_resolveFile hresolve
  obtain ⟨base, -, hlocate⟩ := Services.locate_eq_ok_iff.1 hlocate
  rw [FilePath.isCanonical_of_locate hpath] at hlocate
  cases hlocate
  exact ⟨path, hpath, hsource⟩

/-- Gathers name the same module exactly if they gather the same file. -/
theorem eq_iff (h : Names services directory g config) {g' : Gather}
    (h' : Names services directory g' config') :
    config = config' ↔ FilePath.locate services.standpoint directory g.path =
      FilePath.locate services.standpoint directory g'.path := by
  constructor
  · rintro rfl
    obtain ⟨path, hpath, hsource⟩ := h.locate_eq
    obtain ⟨path', hpath', hsource'⟩ := h'.locate_eq
    rw [hsource] at hsource'
    cases hsource'
    rw [hpath, hpath']
  · intro heq
    obtain ⟨path, last, hpath, hresolve⟩ := h
    obtain ⟨path', last', hpath', hresolve'⟩ := h'
    rw [hpath, hpath'] at heq
    cases heq
    rw [hresolve] at hresolve'
    cases hresolve'
    rfl

/-- What a gather comes to without a memory is the module that it names. -/
theorem of_settles {base : String} (hbase : services.base = .ok base)
    (h : Settles (fun depth => Reloading.gather services (Reloading.file services depth) source
      directory g) (.value config)) : Names services directory g config := by
  obtain ⟨path, hpath, hfile⟩ := exists_settles_of_gather h
  obtain ⟨last, hresolve⟩ :=
    resolveFile_of_settles hbase (FilePath.isCanonical_of_locate hpath) hfile
  exact ⟨path, last, hpath, hresolve⟩

end Names

/-- Gathering binds the module that each gather names under its alias. -/
theorem gatherAll_names {active : List String} {deep : Nat → Prop} {resolver : Resolver}
    {base : String} (hbase : services.base = .ok base)
    (hgather : GathersReload services active deep resolver source directory)
    {gathers : List Gather} {given aliases : Entries Config} {session after : Session}
    (hsession : Sound services active session)
    (h : gatherAll services resolver source directory given gathers session = .ok aliases after) :
    Sound services active after ∧ (∀ g ∈ gathers, ∃ config, Names services directory g config) ∧
      ∀ modules : Gather → Config, (∀ g ∈ gathers, Names services directory g (modules g)) →
        aliases =
          Entries.merge given (gathers.map fun g => (Key.canonical g.aliasName, modules g)) := by
  induction gathers generalizing given session with
  | nil =>
    cases h
    exact ⟨hsession, by simp, fun _ _ => rfl⟩
  | cons g gathers ih =>
    obtain ⟨config, gathered, hone, hall⟩ := bind_eq_ok_iff.1 h
    have first := hgather g session hsession
    rw [hone] at first
    cases first with
    | value hgathered hsettles =>
      have hname := Names.of_settles hbase hsettles
      obtain ⟨hafter, hnames, haliases⟩ := ih hgathered hall
      refine ⟨hafter, ?_, fun modules hmodules => ?_⟩
      · exact List.forall_mem_cons.2 ⟨⟨config, hname⟩, hnames⟩
      · obtain ⟨hfirst, hrest⟩ := List.forall_mem_cons.1 hmodules
        obtain rfl : config = modules g := (hname.eq_iff hfirst).2 rfl
        exact haliases modules hrest

/-- A document whose gathers follow those without a memory is evaluated with the modules that
its gathers name. -/
theorem contents_modules {active : List String} {deep : Nat → Prop} {resolver : Resolver}
    {base : String} (hbase : services.base = .ok base)
    (hgather : GathersReload services active deep resolver source directory)
    {document : Document} {session after : Session} {config : Config}
    (hsession : Sound services active session)
    (h : contents services resolver source directory document session = .ok config after) :
    ∃ modules resources memory, (∀ g ∈ document.gathers, Names services directory g (modules g)) ∧
      resources.Truthful services.system ∧
      (Scope.ofDocument source services document (document.aliasTable modules)).evaluate
        (.fresh resources) = .ok config memory := by
  obtain ⟨aliases, gathered, hall, hevaluate⟩ := bind_eq_ok_iff.1 h
  obtain ⟨memory, hevaluate⟩ := evaluate_eq_ok hevaluate
  obtain ⟨hgathered, hnames, haliases⟩ := gatherAll_names hbase hgather hsession hall
  have : Nonempty Config := ⟨config⟩
  choose! modules hmodules using hnames
  obtain rfl : aliases = document.aliasTable modules := haliases modules hmodules
  exact ⟨modules, gathered.resources, memory, hmodules, hgathered.truthful, hevaluate⟩

/-- A document whose gathers follow those without a memory includes what the aliases of
its gathers stand for. -/
theorem contents_includes {active : List String} {deep : Nat → Prop} {resolver : Resolver}
    {base : String} (hbase : services.base = .ok base)
    (hgather : GathersReload services active deep resolver source directory)
    {document : Document} {session after : Session} {config : Config}
    (hsession : Sound services active session)
    (h : contents services resolver source directory document session = .ok config after) :
    ∃ modules, (∀ g ∈ document.gathers, Names services directory g (modules g)) ∧
      (Scope.ofDocument source services document (document.aliasTable modules)).Includes
        (document.included.map fun g => modules (document.lastUnder g)) config := by
  obtain ⟨modules, resources, memory, hmodules, htruthful, hevaluate⟩ :=
    contents_modules hbase hgather hsession h
  refine ⟨modules, hmodules, ?_⟩
  rw [← Scope.includesOf_aliasTable document modules]
  exact Scope.includes_of_evaluate htruthful hevaluate

end Session

namespace Entry

open Session

/-- The first document is parsed and evaluated after its gathers, in a session that is sound. -/
theorem exists_contents {services : Services} {entry : Entry} {config : Config} {after : Session}
    (h : entry.resolve services fresh = .ok config after) :
    ∃ root text document directory session gathered, entry.Starts services root text ∧
      (Source.ofText text root).parse = .ok document ∧
      directoryOf services root = .ok directory ∧ Sound services root.toList session ∧
      contents services (resolverWith services services.files.known.length) (.ofText text root)
        directory document session = .ok config gathered := by
  rcases resolve_cases services entry with
    ⟨root, text, session, hstarts, hactive, hmodules, htruthful, hresolve⟩ |
    ⟨failure, _, hresolve, -⟩
  case inr =>
    rw [hresolve] at h
    cases h
  rw [hresolve] at h
  obtain ⟨_, _, hfirst, hfinish⟩ := bind_eq_ok_iff.1 h
  cases hfinish
  have step := resolve_step services (resolverWith services services.files.known.length) root text
    session
  rw [← Session.resolve, hfirst] at step
  cases step with
  | @resolved document directory _ gathered hparse hdirectory hcontents =>
    have hsession := (Sound.of_modules_eq_nil hactive hmodules htruthful).entered root
    exact ⟨root, text, document, directory, _, gathered, hstarts, hparse, hdirectory, hsession,
      hcontents⟩

/-- Without a memory the first document comes to the same configuration, at some depth. -/
theorem exists_reload {services : Services} {entry : Entry} {config : Config} {after : Session}
    (h : entry.resolve services fresh = .ok config after) :
    ∃ root text depth, entry.Starts services root text ∧
      Reloading.resolveUsing services (Reloading.file services depth) root text =
        .value config := by
  obtain ⟨root, text, document, directory, session, gathered, hstarts, hparse, hdirectory,
    hsession, hcontents⟩ := exists_contents h
  have reloads := contents_reloads_of_parse hparse hdirectory (root_gathers_reload root _ _)
    session hsession
  rw [hcontents] at reloads
  cases reloads with
  | value _ hsettles =>
    obtain ⟨depth, hdepth⟩ := hsettles.exists_eq
    exact ⟨root, text, depth, hstarts, hdepth⟩

/-- Includes of the first document.  A gather without an alias of its own includes the
module that was gathered last under its alias, and aliased gathers include nothing else.
The document includes exactly the modules that these gathers name if and only if the
aliases of all of them still stand for their files. -/
theorem resolve_includes {services : Services} {entry : Entry} {config : Config} {after : Session}
    (h : entry.resolve services fresh = .ok config after) :
    ∃ root text document directory modules, entry.Starts services root text ∧
      (Source.ofText text root).parse = .ok document ∧
      directoryOf services root = .ok directory ∧
      (∀ g ∈ document.gathers, Names services directory g (modules g)) ∧
      let scope := Scope.ofDocument (.ofText text root) services document
        (document.aliasTable modules)
      scope.Includes (document.included.map fun g => modules (document.lastUnder g)) config ∧
      (scope.Includes (document.included.map modules) config ↔
        ∀ g ∈ document.included,
          FilePath.locate services.standpoint directory (document.lastUnder g).path =
            FilePath.locate services.standpoint directory g.path) := by
  obtain ⟨root, text, document, directory, session, gathered, hstarts, hparse, hdirectory,
    hsession, hcontents⟩ := exists_contents h
  obtain ⟨base, hbase⟩ := hstarts.exists_base hdirectory
  obtain ⟨modules, hnames, hincludes⟩ :=
    contents_includes hbase (root_gathers_reload root _ _) hsession hcontents
  refine ⟨root, text, document, directory, modules, hstarts, hparse, hdirectory, hnames,
    hincludes, ?_⟩
  rw [hincludes.iff_eq, List.map_inj_left]
  refine forall₂_congr fun g hg => ?_
  have hmem := Document.mem_gathers_of_mem_included hg
  exact (hnames _ (Document.lastUnder_mem hmem)).eq_iff (hnames g hmem)

/-- A document with a global of its own that gathers two files of different names, one of
them without an alias. -/
theorem resolve_includes_plain :
    let services := Services.ofStore [("/left", "x 1\ny 2\n"), ("/right", "z 3\n")]
    let text := "gather \"left\"\ngather \"right\" as other\ny 4\n"
    ∃ config after document modules,
      (Entry.text none text).resolve services fresh = .ok config after ∧
      (Source.ofText text).parse = .ok document ∧
      (∀ g ∈ document.gathers, Names services "/" g (modules g)) ∧
      (Scope.ofDocument (.ofText text) services document
        (document.aliasTable modules)).Includes (document.included.map modules) config := by
  intro services text
  have hrun : (success? ((Entry.text none text).resolve services fresh)).isSome := by
    decide +kernel
  have hlast : (Source.ofText text).parse.toOption.map
      (fun document => document.included.all fun g => document.lastUnder g = g) = some true := by
    decide +kernel
  obtain ⟨⟨config, after⟩, h⟩ := Option.isSome_iff_exists.1 hrun
  rw [success?_eq_some_iff] at h
  obtain ⟨root, text', document, directory, modules, hstarts, hparse, hdirectory, hnames, -,
    hiff⟩ := resolve_includes h
  obtain ⟨rfl, rfl⟩ := hstarts.unique .text
  cases hdirectory
  rw [hparse] at hlast
  have hall := List.all_eq_true.1 (Option.some.inj hlast)
  refine ⟨config, after, document, modules, h, hparse, hnames, hiff.2 fun g hg => ?_⟩
  rw [of_decide_eq_true (hall g hg)]

/-- A document that gathers two files of one name includes the second one only. -/
theorem resolve_sameStem :
    let services := Services.ofStore [("/a/common.rune", "x 1\n"), ("/b/common.rune", "y 2\n")]
    let entry := Entry.text none "gather \"a/common.rune\"\ngather \"b/common.rune\"\n"
    ∃ config first second after last last', entry.resolve services fresh = .ok config after ∧
      resolveFile services "/a/common.rune" fresh = .ok first last ∧
      resolveFile services "/b/common.rune" fresh = .ok second last' ∧
      ∀ own, config.globals ≠ Entries.ofList (first.globals ++ second.globals ++ own) := by
  intro services entry
  have hkeys : (success? (entry.resolve services fresh)).map (Entries.keys ·.1.globals) =
      some ["y"] := by
    decide +kernel
  have hfirst : (success? (resolveFile services "/a/common.rune" fresh)).map
      (Entries.keys ·.1.globals) = some ["x"] := by
    decide +kernel
  have hsecond : (success? (resolveFile services "/b/common.rune" fresh)).isSome := by
    decide +kernel
  obtain ⟨⟨config, after⟩, h, hkeys⟩ := Option.map_eq_some_iff.1 hkeys
  obtain ⟨⟨first, last⟩, h', hfirst⟩ := Option.map_eq_some_iff.1 hfirst
  obtain ⟨⟨second, last'⟩, h''⟩ := Option.isSome_iff_exists.1 hsecond
  rw [success?_eq_some_iff] at h h' h''
  refine ⟨config, first, second, after, last, last', h, h', h'', fun own heq => ?_⟩
  have hx : "x" ∈ Entries.keys config.globals := by
    have happend : Entries.keys (first.globals ++ second.globals ++ own) =
        Entries.keys first.globals ++ Entries.keys second.globals ++ Entries.keys own := by
      simp [Entries.keys]
    rw [heq, Entries.keys_ofList, happend, hfirst]
    simp
  rw [hkeys] at hx
  simp at hx

end Entry

end Rune
