import Rune.Proofs.Evaluation.Recording
import Rune.Proofs.Session.Includes

/-!
# Rune - locations of bindings

A configuration knows the locations of the bindings that its values come from.  What counts is
the last binding of a key, over the modules that are included and then the document's own
bindings, and in a block over the bindings of the block.  The location of every binding that
counts is recorded.  Others may be recorded besides: those inside a binding that was replaced,
where nothing else was bound.

Main results:

- Definition {lit}`Layout.layered` puts the bindings of a document after those that it includes,
  which they hide, and structure {lit}`Config.Keeps` says that a configuration keeps bindings.
- Theorem {lit}`Scope.Surveys.keeps`: a document that is evaluated keeps its layers.
- Relation {lit}`Session.Lays` says what the bindings of a document come to.
- Theorem {lit}`Entry.resolve_locates`: which locations a configuration has.
-/

namespace Rune

/-! ## Layers of bindings -/

/-- Bindings after included ones, of which those of the same keys are hidden, with all that is
in them. -/
def Layout.overlay (included own : Layout) : Layout :=
  included.filter (!Entries.contains ·.1 own) ++ own

/-- The bindings of a document after those of the modules that it includes.  Metadata is not
included. -/
def Layout.layered (layers : List (Namespace → Layout)) (own : Namespace → Layout) :
    Namespace → Layout
  | .globals => overlay (layers.flatMap (· .globals)) (own .globals)
  | .items => overlay (layers.flatMap (· .items)) (own .items)
  | .metadata => own .metadata

/-- A configuration keeps bindings: the last value of every key, and the last record of every
path. -/
structure Config.Keeps (config : Config) (bindings : Namespace → Layout) : Prop where
  value : ∀ space key, Entries.get? key (config.values space) =
    ((bindings space).last? key).map Laid.value
  location : ∀ space path, Entries.get? ⟨space, path⟩ config.locations =
    (bindings space).record? path
  nodup_values : ∀ space, (Entries.keys (config.values space)).Nodup
  nodup_locations : (Entries.keys config.locations).Nodup

namespace Config

variable {configs : List Config} {layers : List (Namespace → Layout)}

/-- Configurations that keep bindings keep them one after another. -/
theorem value_of_keeps (h : List.Forall₂ Keeps configs layers) (space : Namespace) (key : String) :
    Entries.get? key (configs.flatMap (·.values space)).reverse =
      (Layout.last? key (layers.flatMap (· space))).map Laid.value := by
  induction h with
  | nil => rfl
  | cons hfirst _ ih =>
    rw [List.flatMap_cons, List.reverse_append, Entries.get?_append, ih,
      Entries.get?_reverse (hfirst.nodup_values space), hfirst.value, List.flatMap_cons,
      Layout.last?_append, Option.map_or]

theorem location_of_keeps (h : List.Forall₂ Keeps configs layers) (space : Namespace)
    (path : List String) :
    Entries.get? ⟨space, path⟩ (configs.flatMap (·.locations)).reverse =
      Layout.record? path (layers.flatMap (· space)) := by
  induction h with
  | nil => rfl
  | cons hfirst _ ih =>
    rw [List.flatMap_cons, List.reverse_append, Entries.get?_append, ih,
      Entries.get?_reverse hfirst.nodup_locations, hfirst.location, List.flatMap_cons,
      Layout.record?_append]

end Config

namespace Scope

variable {scope : Scope} {layers : List (Namespace → Layout)}

/-- The location of an included binding, unless it is hidden. -/
theorem get?_includedLocations (h : List.Forall₂ Config.Keeps scope.includes layers)
    (space : Namespace) (path : List String) :
    Entries.get? ⟨space, path⟩ scope.includedLocations =
      if scope.hides ⟨space, path⟩ then none
      else Layout.record? path (layers.flatMap (· space)) := by
  have hfilter := Entries.get?_filter (fun place => !scope.hides place) ⟨space, path⟩
    (scope.includes.flatMap (·.locations)).reverse
  rw [includedLocations, Entries.foldl_merge, ← Entries.ofList, Entries.get?_ofList,
    ← List.filter_flatMap, ← List.filter_reverse, hfilter, Config.location_of_keeps h]
  cases scope.hides ⟨space, path⟩ <;> rfl

/-- What is found in the values of a namespace: a binding of the document comes before those
that are included. -/
theorem get?_withIncluded (h : List.Forall₂ Config.Keeps scope.includes layers) (space : Namespace)
    (own : Layout) (key : String) :
    Entries.get? key (scope.withIncluded space own.values) =
      (Layout.last? key (Layout.overlay (layers.flatMap (· space)) own)).map Laid.value := by
  rw [withIncluded_eq, Entries.get?_ofList, List.reverse_append, Entries.get?_append,
    Layout.get?_values_reverse, Config.value_of_keeps h, Layout.overlay, Layout.last?_append,
    Layout.last?_filter (!Entries.contains · own), Option.map_or]
  cases hown : own.last? key with
  | some laid => rfl
  | none =>
    have hkey : Entries.contains key own = false := by
      rw [← Bool.not_eq_true, Entries.contains_iff_mem_keys, ← Layout.isSome_last?_iff, hown]
      exact Bool.false_ne_true
    rw [hkey]
    rfl

/-- What is recorded in a namespace: of the included bindings those whose keys the document
does not bind. -/
theorem record?_overlay (h : List.Forall₂ Config.Keeps scope.includes layers) {space : Namespace}
    {own : Layout}
    (hhides : ∀ key path, scope.hides ⟨space, key :: path⟩ = Entries.contains key own)
    (path : List String) :
    (own.record? path).or (Entries.get? ⟨space, path⟩ scope.includedLocations) =
      Layout.record? path (Layout.overlay (layers.flatMap (· space)) own) := by
  rw [Layout.overlay, Layout.record?_append, get?_includedLocations h]
  cases path with
  | nil =>
    rw [Layout.record?_nil, Layout.record?_nil, Layout.record?_nil]
    split <;> rfl
  | cons key path =>
    rw [hhides, Layout.record?_filter (!Entries.contains · own)]
    cases Entries.contains key own <;> rfl

/-- A document that is evaluated keeps its own bindings after those that it includes. -/
theorem Surveys.keeps {own : Namespace → Layout} {config : Config} (h : scope.Surveys own config)
    (hown : scope.LaysOwn own) (hlayers : List.Forall₂ Config.Keeps scope.includes layers) :
    config.Keeps (Layout.layered layers own) := by
  obtain ⟨log, hlocations, hlog⟩ := h.locations
  have hlocation (space : Namespace) (path : List String) :
      Entries.get? ⟨space, path⟩ config.locations =
        ((own space).record? path).or (Entries.get? ⟨space, path⟩ scope.includedLocations) := by
    rw [hlocations, Entries.get?_merge, Entries.get?_reverse (Entries.nodup_keys_ofList _),
      Entries.get?_ofList, hlog]
  constructor
  case value =>
    intro space key
    cases space with
    | globals =>
      rw [Config.values, h.globals]
      exact get?_withIncluded hlayers .globals (own .globals) key
    | items =>
      rw [Config.values, h.items]
      exact get?_withIncluded hlayers .items (own .items) key
    | metadata =>
      simp only [Config.values, h.metadata, Entries.get?_ofList, Layout.get?_values_reverse,
        Layout.layered]
  case location =>
    intro space path
    rw [hlocation]
    cases space with
    | globals =>
      refine record?_overlay hlayers (fun key path => ?_) path
      exact (Entries.contains_eq_of_keys_eq (Entries.keys_eq_of_forall₂ hown.globals) key).symm
    | items =>
      refine record?_overlay hlayers (fun key path => ?_) path
      exact (Entries.contains_eq_of_keys_eq (Entries.keys_eq_of_forall₂ hown.items) key).symm
    | metadata =>
      rw [get?_includedLocations hlayers, show scope.hides ⟨.metadata, path⟩ = true by rfl]
      exact Option.or_none
  case nodup_values =>
    intro space
    cases space with
    | globals =>
      rw [Config.values, h.globals, withIncluded_eq]
      exact Entries.nodup_keys_ofList _
    | items =>
      rw [Config.values, h.items, withIncluded_eq]
      exact Entries.nodup_keys_ofList _
    | metadata =>
      rw [Config.values, h.metadata]
      exact Entries.nodup_keys_ofList _
  case nodup_locations =>
    rw [hlocations, includedLocations, Entries.foldl_merge]
    exact Entries.nodup_keys_merge (Entries.nodup_keys_merge List.nodup_nil)

end Scope

/-! ## Documents -/

namespace Session

variable {services : Services} {root : Option String} {text : String} {config : Config}

/-- The bindings that a document comes to: those of the modules that it includes, and then its
own.  A gather without an alias of its own includes the file that was gathered last under its
alias. -/
inductive Lays (services : Services) : Option String → String → (Namespace → Layout) → Prop
  | intro {root : Option String} {text directory : String} {document : Document}
      {modules : Gather → Config} {files texts : Gather → String}
      {layers : Gather → Namespace → Layout} {own : Namespace → Layout} :
      (Source.ofText text root).parse = .ok document →
      directoryOf services root = .ok directory →
      (∀ g ∈ document.gathers, Names services directory g (modules g)) →
      (∀ g ∈ document.gathers,
        FilePath.locate services.standpoint directory g.path = .ok (files g)) →
      (∀ g ∈ document.gathers, services.files.read (files g) = .ok (texts g)) →
      (∀ g ∈ document.gathers, Lays services (some (files g)) (texts g) (layers g)) →
      (Scope.ofDocument (.ofText text root) services document
        (document.aliasTable modules)).LaysOwn own →
      Lays services root text
        (Layout.layered (document.included.map fun g => layers (document.lastUnder g)) own)

/-- A document is evaluated with the modules that its gathers name. -/
theorem exists_evaluate {entry : Entry} {after : Session}
    (h : entry.resolve services fresh = .ok config after) :
    ∃ root text document directory modules resources memory,
      entry.Starts services root text ∧ (Source.ofText text root).parse = .ok document ∧
      directoryOf services root = .ok directory ∧
      (∀ g ∈ document.gathers, Names services directory g (modules g)) ∧
      resources.Truthful services.system ∧
      (Scope.ofDocument (.ofText text root) services document
        (document.aliasTable modules)).evaluate (.fresh resources) = .ok config memory := by
  obtain ⟨root, text, document, directory, session, gathered, hstarts, hparse, hdirectory,
    hsession, hcontents⟩ := Entry.exists_contents h
  obtain ⟨base, hbase⟩ := hstarts.exists_base hdirectory
  obtain ⟨modules, resources, memory, hnames, htruthful, hevaluate⟩ :=
    contents_modules hbase (root_gathers_reload root _ _) hsession hcontents
  exact ⟨root, text, document, directory, modules, resources, memory, hstarts, hparse,
    hdirectory, hnames, htruthful, hevaluate⟩

/-- What a document comes to if its modules keep what they come to. -/
theorem keeps_of_evaluate {document : Document} {directory : String} {modules : Gather → Config}
    {resources : Resources} {memory : Memory}
    (hparse : (Source.ofText text root).parse = .ok document)
    (hdirectory : directoryOf services root = .ok directory)
    (hnames : ∀ g ∈ document.gathers, Names services directory g (modules g))
    (htruthful : resources.Truthful services.system)
    (hevaluate : (Scope.ofDocument (.ofText text root) services document
      (document.aliasTable modules)).evaluate (.fresh resources) = .ok config memory)
    (hfiles : ∀ g ∈ document.gathers, ∃ path content bindings,
      FilePath.locate services.standpoint directory g.path = .ok path ∧
        services.files.read path = .ok content ∧ Lays services (some path) content bindings ∧
        (modules g).Keeps bindings) :
    ∃ bindings, Lays services root text bindings ∧ config.Keeps bindings := by
  choose! files texts layers hlocate hread hlays hkeeps using hfiles
  obtain ⟨own, hown, hsurveys⟩ :=
    Scope.surveys_of_evaluate htruthful (Entries.nodup_keys_ofList _) hevaluate
  have hlayers : List.Forall₂ Config.Keeps
      (Scope.ofDocument (.ofText text root) services document
        (document.aliasTable modules)).includes
      (document.included.map fun g => layers (document.lastUnder g)) := by
    change List.Forall₂ _ (Scope.includesOf document (document.aliasTable modules)) _
    rw [Scope.includesOf_aliasTable, List.forall₂_map_left_iff, List.forall₂_map_right_iff,
      List.forall₂_same]
    exact fun g hg => hkeeps _ (Document.lastUnder_mem (Document.mem_gathers_of_mem_included hg))
  exact ⟨_, .intro hparse hdirectory hnames hlocate hread hlays hown, hsurveys.keeps hown hlayers⟩

/-- Without a memory, every gather of a document comes to a configuration. -/
theorem exists_gather {call : String → Outcome Failure Config} {source : Source}
    {directory : String} {given aliases : Entries Config} {gathers : List Gather}
    (h : Reloading.gatherAll services call source directory given gathers = .value aliases) :
    ∀ g ∈ gathers, ∃ path text config,
      FilePath.locate services.standpoint directory g.path = .ok path ∧
      services.files.read path = .ok text ∧ call path = .value config := by
  induction gathers generalizing given with
  | nil => exact nofun
  | cons g gathers ih =>
    obtain ⟨config, hfirst, hrest⟩ := Outcome.bind_eq_value_iff.1 h
    refine List.forall_mem_cons.2 ⟨?_, ih hrest⟩
    cases hpath : FilePath.locate services.standpoint directory g.path with
    | error fault =>
      rw [Reloading.gather_of_fault _ hpath] at hfirst
      cases hfirst
    | ok path =>
      cases hread : services.files.read path with
      | error fault =>
        rw [Reloading.gather_of_unreadable _ hpath hread] at hfirst
        cases hfirst
      | ok text =>
        rw [Reloading.gather_of_read _ hpath hread] at hfirst
        exact ⟨path, text, config, rfl, hread, hfirst⟩

/-- A file that is resolved keeps what it comes to.  The induction is on how deep its files
gather each other. -/
theorem keeps_of_resolveFile {base : String} (hbase : services.base = .ok base) (depth : Nat) :
    ∀ {path : String} {config result : Config} {last : Session}, FilePath.IsCanonical path →
      resolveFile services path fresh = .ok config last →
      Reloading.file services depth path = .value result →
      ∃ text bindings, services.files.read path = .ok text ∧
        Lays services (some path) text bindings ∧ config.Keeps bindings := by
  induction depth with
  | zero => exact fun _ _ hfile => nomatch hfile
  | succ depth ih =>
    intro path config result last hcanonical hresolve hfile
    have hlocate : services.locate path = .ok path :=
      Services.locate_eq_ok_iff.2 ⟨base, hbase, hcanonical _ _⟩
    have hentry : (Entry.file path).resolve services fresh = .ok config last := hresolve
    obtain ⟨root, text, document, directory, modules, resources, memory, hstarts, hparse,
      hdirectory, hnames, htruthful, hevaluate⟩ := exists_evaluate hentry
    cases hstarts with
    | file hpath hread =>
      rw [hlocate] at hpath
      cases hpath
      rw [Reloading.file_of_read hread, Reloading.resolveUsing] at hfile
      simp only [hparse, hdirectory, Reloading.attempt, Outcome.value_bind] at hfile
      -- The files that it gathers come to something one level below.
      obtain ⟨aliases, hgathers, -⟩ := Outcome.bind_eq_value_iff.1 hfile
      obtain ⟨bindings, hlays, hkeeps⟩ :=
        keeps_of_evaluate hparse hdirectory hnames htruthful hevaluate fun g hg => by
          obtain ⟨file, content, known, hlocated, -, hknown⟩ := exists_gather hgathers g hg
          obtain ⟨file', last', hlocated', hmodule⟩ := hnames g hg
          rw [hlocated] at hlocated'
          cases hlocated'
          obtain ⟨content, bindings, hcontent, hlays, hkeeps⟩ :=
            ih (FilePath.isCanonical_of_locate hlocated) hmodule hknown
          exact ⟨file, content, bindings, hlocated, hcontent, hlays, hkeeps⟩
      exact ⟨text, bindings, hread, hlays, hkeeps⟩

/-- Without a memory a file that is resolved comes to the same at some depth. -/
theorem exists_file_of_resolveFile {path : String} {last : Session}
    (hlocate : services.locate path = .ok path)
    (h : resolveFile services path fresh = .ok config last) :
    ∃ depth, Reloading.file services depth path = .value config := by
  have result := resolveFile_reloads services path _ (Sound.fresh services)
  rw [h] at result
  cases result with
  | value _ hfile =>
    obtain ⟨depth, hdepth⟩ := hfile.exists_eq
    cases hread : services.files.read path with
    | error fault =>
      rw [Reloading.resolveFile_of_unreadable hlocate hread] at hdepth
      cases hdepth
    | ok text => exact ⟨depth, by rwa [Reloading.resolveFile_of_read hlocate hread] at hdepth⟩

/-- The module that a gather names keeps what its file comes to. -/
theorem Names.keeps {directory base : String} {g : Gather} (hbase : services.base = .ok base)
    (h : Names services directory g config) :
    ∃ path content bindings, FilePath.locate services.standpoint directory g.path = .ok path ∧
      services.files.read path = .ok content ∧ Lays services (some path) content bindings ∧
      config.Keeps bindings := by
  obtain ⟨path, last, hpath, hresolve⟩ := h
  have hcanonical := FilePath.isCanonical_of_locate hpath
  obtain ⟨depth, hfile⟩ := exists_file_of_resolveFile
    (Services.locate_eq_ok_iff.2 ⟨base, hbase, hcanonical _ _⟩) hresolve
  obtain ⟨content, bindings, hread, hlays, hkeeps⟩ :=
    keeps_of_resolveFile hbase depth hcanonical hresolve hfile
  exact ⟨path, content, bindings, hpath, hread, hlays, hkeeps⟩

end Session

namespace Entry

open Session

/-- The locations of a configuration.  A binding that counts has its value at its path, and its
location is recorded there.  Every location that is recorded is that of a binding that counts, or
else it stands in a binding that was replaced.  So there are no other locations than those of
the bindings that count if and only if whatever was bound in a replaced binding is bound again in
the one that counts. -/
theorem resolve_locates {services : Services} {entry : Entry} {config : Config} {after : Session}
    (h : entry.resolve services fresh = .ok config after) :
    ∃ root text bindings, entry.Starts services root text ∧ Lays services root text bindings ∧
      (∀ space path laid, (bindings space).Live path laid →
        Lookup.walk path (.object (config.values space)) = .ok (some laid.value) ∧
          Entries.get? ⟨space, path⟩ config.locations = some laid.location) ∧
      (∀ space path location, Entries.get? ⟨space, path⟩ config.locations = some location →
        (∃ laid, (bindings space).Live path laid ∧ laid.location = location) ∨
          (bindings space).Replaced path) ∧
      ((∀ space path location, Entries.get? ⟨space, path⟩ config.locations = some location →
          ∃ laid, (bindings space).Live path laid ∧ laid.location = location) ↔
        ∀ space path, (bindings space).Replaced path →
          ∃ laid, (bindings space).Live path laid) := by
  obtain ⟨root, text, document, directory, modules, resources, memory, hstarts, hparse,
    hdirectory, hnames, htruthful, hevaluate⟩ := exists_evaluate h
  obtain ⟨base, hbase⟩ := hstarts.exists_base hdirectory
  obtain ⟨bindings, hlays, hkeeps⟩ := keeps_of_evaluate hparse hdirectory hnames htruthful hevaluate
    fun g hg => (hnames g hg).keeps hbase
  have hlive (space : Namespace) (path : List String) (laid : Laid)
      (hlaid : (bindings space).Live path laid) :
      Lookup.walk path (.object (config.values space)) = .ok (some laid.value) ∧
        Entries.get? ⟨space, path⟩ config.locations = some laid.location :=
    ⟨hlaid.walk_eq (hkeeps.value space), (hkeeps.location space path).trans hlaid.record?_eq⟩
  have hcases (space : Namespace) (path : List String) (location : Location)
      (hlocation : Entries.get? ⟨space, path⟩ config.locations = some location) :
      (∃ laid, (bindings space).Live path laid ∧ laid.location = location) ∨
        (bindings space).Replaced path :=
    Layout.live_or_replaced ((hkeeps.location space path).symm.trans hlocation)
  refine ⟨root, text, bindings, hstarts, hlays, hlive, hcases, ⟨fun hall space path hreplaced => ?_,
    fun hall space path location hlocation => ?_⟩⟩
  · obtain ⟨location, hrecord⟩ :=
      Option.isSome_iff_exists.1 (Layout.isSome_record?_iff.2 hreplaced.mem_keys_records)
    obtain ⟨laid, hlaid, -⟩ := hall space path location ((hkeeps.location space path).trans hrecord)
    exact ⟨laid, hlaid⟩
  · rcases hcases space path location hlocation with hlaid | hreplaced
    · exact hlaid
    · obtain ⟨laid, hlaid⟩ := hall space path hreplaced
      have hlaidLocation := (hlive space path laid hlaid).2
      rw [hlocation, Option.some.injEq] at hlaidLocation
      exact ⟨laid, hlaid, hlaidLocation.symm⟩

/-- A document that includes a module, each with a block. -/
theorem resolve_locates_included :
    let services := Services.ofStore [("/m", "k:\n  z 1\nend\n")]
    let entry := Entry.text none "gather \"m\"\nb:\n  x 2\nend\n"
    ∃ config after root text bindings, entry.resolve services fresh = .ok config after ∧
      Entries.keys config.locations =
        [⟨.items, ["k"]⟩, ⟨.items, ["k", "z"]⟩, ⟨.items, ["b"]⟩, ⟨.items, ["b", "x"]⟩] ∧
      entry.Starts services root text ∧ Lays services root text bindings ∧
      ∀ space path location, Entries.get? ⟨space, path⟩ config.locations = some location →
        (∃ laid, (bindings space).Live path laid ∧ laid.location = location) ∨
          (bindings space).Replaced path := by
  intro services entry
  have hrun : (success? (entry.resolve services fresh)).map (Entries.keys ·.1.locations) =
      some [⟨.items, ["k"]⟩, ⟨.items, ["k", "z"]⟩, ⟨.items, ["b"]⟩, ⟨.items, ["b", "x"]⟩] := by
    decide +kernel
  obtain ⟨⟨config, after⟩, h, hkeys⟩ := Option.map_eq_some_iff.1 hrun
  rw [success?_eq_some_iff] at h
  obtain ⟨root, text, bindings, hstarts, hlays, -, hcases, -⟩ := resolve_locates h
  exact ⟨config, after, root, text, bindings, h, hkeys, hstarts, hlays, hcases⟩

/-- A field in place of a block: the field of the block is gone, and its location is still
recorded. -/
theorem resolve_locates_stale :
    let entry := Entry.text none "b:\n  x:\n    y 1\n  end\n  x 2\nend\n"
    ∃ config after location, entry.resolve (.ofStore []) fresh = .ok config after ∧
      Entries.get? ⟨.items, ["b", "x", "y"]⟩ config.locations = some location ∧
      Lookup.walk ["b", "x", "y"] (.object (config.values .items)) = .ok none := by
  intro entry
  have hrun : (success? (entry.resolve (.ofStore []) fresh)).map (fun result =>
      ((Entries.get? ⟨.items, ["b", "x", "y"]⟩ result.1.locations).isSome,
        (Lookup.walk ["b", "x", "y"] (.object (result.1.values .items))).toOption.map
          Option.isSome)) = some (true, some false) := by
    decide +kernel
  obtain ⟨⟨config, after⟩, h, hrun⟩ := Option.map_eq_some_iff.1 hrun
  rw [success?_eq_some_iff] at h
  obtain ⟨hrecorded, hwalk⟩ := Prod.mk.inj hrun
  obtain ⟨location, hlocation⟩ := Option.isSome_iff_exists.1 hrecorded
  refine ⟨config, after, location, h, hlocation, ?_⟩
  dsimp only at hwalk
  cases hfound : Lookup.walk ["b", "x", "y"] (.object (config.values .items)) with
  | error fault =>
    rw [hfound] at hwalk
    cases hwalk
  | ok found =>
    rw [hfound] at hwalk
    cases found with
    | none => rfl
    | some value => cases hwalk

end Entry

end Rune
