import Rune.Proofs.Entries
import Rune.Proofs.Evaluation.Lockstep
import Rune.Proofs.File.Path
import Rune.Proofs.Session.Reloading

/-!
# Rune - keeping configurations changes nothing

A session keeps the configurations of the files that were gathered, and it shares its
resources between all documents.  That saves work and changes nothing: a resolution
follows one without a memory.  Where it finds that a file gathers itself, the
resolution without a memory would not end.

Main results:

- Structure {lit}`Session.Sound` is the invariant: the configurations that are kept are
  those that a resolution without a memory comes to.
- Theorem {lit}`Session.resolve_reloads`: resolving a file follows resolving it without a
  memory.
- Theorem {lit}`Session.resolveFile_transparent`: every configuration that is kept is the
  one that a fresh session gives, and so is the result without a memory.
-/

namespace Rune

namespace Session

variable {services : Services} {active : List String} {deep : Nat → Prop}

/-! ## The invariant -/

/-- A session is sound while files are being resolved if its resources tell the truth
and the configurations that it keeps are what a resolution without a memory comes to. -/
structure Sound (services : Services) (active : List String) (session : Session) : Prop where
  active_eq : session.active = active
  truthful : session.resources.Truthful services.system
  canonical : ∀ path config, Entries.get? path session.modules = some config →
    FilePath.IsCanonical path
  settles : ∀ path config, Entries.get? path session.modules = some config →
    Settles (fun depth => Reloading.file services depth path) (.value config)

namespace Sound

variable {session after : Session}

/-- A session that keeps no configurations is sound. -/
theorem of_modules_eq_nil (hactive : session.active = active) (hmodules : session.modules = [])
    (htruthful : session.resources.Truthful services.system) : Sound services active session := by
  refine ⟨hactive, htruthful, ?_, ?_⟩ <;>
    · intro path config h
      rw [hmodules] at h
      cases h

/-- A session that has not begun is sound. -/
theorem fresh (services : Services) : Sound services [] fresh :=
  of_modules_eq_nil rfl rfl (Resources.truthful_fresh _)

/-- Recording an event keeps a session sound. -/
theorem noted (h : Sound services active session) (event : Event) :
    Sound services active (session.noted event) :=
  ⟨h.active_eq, h.truthful.of_facts_eq rfl, h.canonical, h.settles⟩

/-- A session is sound while one more file is being resolved. -/
theorem entered (h : Sound services active session) (path : Option String) :
    Sound services (active ++ path.toList) (session.entered path) :=
  ⟨congrArg (· ++ path.toList) h.active_eq, h.truthful, h.canonical, h.settles⟩

/-- A session is sound after a file was resolved. -/
theorem left (h : Sound services active session) {inner : List String}
    (hafter : Sound services inner after) : Sound services active (session.left after) :=
  ⟨h.active_eq, hafter.truthful, hafter.canonical, hafter.settles⟩

/-- Keeping the configuration of a file. -/
theorem published (h : Sound services active session) {path : String} {config : Config}
    (hcanonical : FilePath.IsCanonical path)
    (hsettles : Settles (fun depth => Reloading.file services depth path) (.value config)) :
    Sound services active (session.published (some path) config) := by
  have cases (other : String) (known : Config)
      (hknown : Entries.get? other (Entries.insert path config session.modules) = some known) :
      other = path ∧ known = config ∨ Entries.get? other session.modules = some known := by
    by_cases hother : other = path
    · subst hother
      rw [Entries.get?_insert_self] at hknown
      exact .inl ⟨rfl, (Option.some.inj hknown).symm⟩
    · rw [Entries.get?_insert_of_ne hother] at hknown
      exact .inr hknown
  refine ⟨h.active_eq, h.truthful.of_facts_eq rfl, ?_, ?_⟩
  · intro other known hknown
    rcases cases other known hknown with ⟨rfl, -⟩ | hknown
    · exact hcanonical
    · exact h.canonical other known hknown
  · intro other known hknown
    rcases cases other known hknown with ⟨rfl, rfl⟩ | hknown
    · exact hsettles
    · exact h.settles other known hknown

end Sound

/-! ## Following a resolution without a memory -/

/-- A resolution follows outcomes from every sound session. -/
abbrev Reloads (services : Services) (active : List String) (deep : Nat → Prop) {α : Type}
    (x : Resolve α) (q : Nat → Outcome Failure α) : Prop :=
  Follows (Sound services active) Failure.IsImportCycle deep x q

/-- All gathers of a document follow gathers without a memory. -/
abbrev GathersReload (services : Services) (active : List String) (deep : Nat → Prop)
    (resolver : Resolver) (source : Source) (directory : String) : Prop :=
  ∀ g, Reloads services active deep (gather services resolver source directory g)
    (fun depth => Reloading.gather services (Reloading.file services depth) source directory g)

/-- A file whose configuration is known can be read. -/
theorem readable_of_settles {path : String} {config : Config}
    (h : Settles (fun depth => Reloading.file services depth path) (.value config)) :
    ∃ text, services.files.read path = .ok text := by
  obtain ⟨depth, hdepth⟩ := h.exists_eq
  obtain ⟨_, text, -, hread, -⟩ := Reloading.exists_of_file hdepth
  exact ⟨text, hread⟩

/-- The files being resolved can be read, and a resolution without a memory is too deep
in them.  Nothing is said of the first document if its text is not that of a file. -/
structure Deep (services : Services) (active : List String) (depth : Nat) : Prop where
  readable : ∀ path ∈ active, ∃ text, services.files.read path = .ok text
  tooDeep : TooDeepUpTo (fun path depth => Reloading.file services depth path) active depth

/-- Before a file is resolved there is nothing to be too deep in. -/
theorem Deep.nil (services : Services) (depth : Nat) : Deep services [] depth :=
  ⟨by simp, by simp [TooDeepUpTo]⟩

/-- A gather follows a gather without a memory, if the files that it leads to do. -/
theorem gather_reloads {resolver : Resolver}
    (hresolver : ∀ path text, path ∉ active → services.files.read path = .ok text →
      FilePath.IsCanonical path →
      Reloads services active (Deep services active) (resolver path text)
        (fun depth => Reloading.file services depth path))
    (source : Source) (directory : String) :
    GathersReload services active (Deep services active) resolver source directory := by
  intro g session hsession
  have step := gather_step services resolver source directory g session
  generalize gather services resolver source directory g session = result at step ⊢
  cases step with
  | nowhere hpath =>
    simp only [Reloading.gather_of_fault _ hpath]
    exact .failure hsession id (Settles.const _)
  | @cycle path hpath hmem =>
    rw [hsession.active_eq] at hmem
    refine .recurs hsession trivial fun depth hdepth => ?_
    obtain ⟨text, hread⟩ := hdepth.readable path hmem
    rw [Reloading.gather_of_read _ hpath hread]
    exact hdepth.tooDeep depth (Nat.le_refl _) path hmem
  | @known path config hpath _ hmodule =>
    have hsettles := hsession.settles path config hmodule
    obtain ⟨text, hread⟩ := readable_of_settles hsettles
    simp only [Reloading.gather_of_read _ hpath hread]
    exact .value (hsession.noted _) hsettles
  | @unreadable path fault hpath _ _ hread =>
    simp only [Reloading.gather_of_unreadable _ hpath hread]
    exact .failure (hsession.noted _) (ReadFault.failure_not_isImportCycle (fun _ => id) fault)
      (Settles.const _)
  | @anew path text hpath hmem _ hread =>
    rw [hsession.active_eq] at hmem
    simp only [Reloading.gather_of_read _ hpath hread]
    exact hresolver path text hmem hread (FilePath.isCanonical_of_locate hpath) _
      ((hsession.noted _).noted _)

/-- All gathers of a document follow. -/
theorem gatherAll_reloads {resolver : Resolver} {source : Source} {directory : String}
    (hgather : GathersReload services active deep resolver source directory)
    (aliases : Entries Config) (gathers : List Gather) :
    Reloads services active deep (gatherAll services resolver source directory aliases gathers)
      (fun depth => Reloading.gatherAll services (Reloading.file services depth) source directory
        aliases gathers) := by
  induction gathers generalizing aliases with
  | nil => exact .pure _
  | cons g gathers ih => exact (hgather g).bind fun config => ih _

/-- Evaluation follows evaluation with fresh resources. -/
theorem evaluate_reloads {scope : Scope} (hscope : scope.services = services) :
    Reloads services active deep (evaluate scope) (fun _ => Reloading.evaluate scope) := by
  subst hscope
  intro session hsession
  have halike : (Memory.fresh session.resources).Alike scope (.fresh .fresh) :=
    ⟨rfl, rfl, rfl, hsession.truthful, Resources.truthful_fresh _⟩
  have step := scope.evaluate_lockstep _ _ halike
  unfold evaluate Reloading.evaluate
  generalize scope.evaluate (.fresh session.resources) = result at step ⊢
  generalize scope.evaluate (.fresh .fresh) = result' at step ⊢
  cases step with
  | ok hafter =>
    exact .value ⟨hsession.active_eq, hafter.truthful, hsession.canonical, hsession.settles⟩
      (Settles.const _)
  | error hafter =>
    exact .failure ⟨hsession.active_eq, hafter.truthful, hsession.canonical, hsession.settles⟩
      (Flaw.failure_not_isImportCycle _ _) (Settles.const _)

/-- Gathering and evaluating follow. -/
theorem contents_reloads {resolver : Resolver} {source : Source} {directory : String}
    (hgather : GathersReload services active deep resolver source directory)
    (document : Document) :
    Reloads services active deep (contents services resolver source directory document)
      (fun depth => Reloading.contents services (Reloading.file services depth) source directory
        document) :=
  (gatherAll_reloads hgather [] document.gathers).bind fun _ => evaluate_reloads rfl

/-- One more file that can be read is being resolved. -/
theorem Deep.snoc {depth n : Nat} (h : Deep services active depth) {path text : String}
    (hread : services.files.read path = .ok text)
    (hdeep : TooDeepUpTo (fun path depth => Reloading.file services depth path)
      (active ++ [path]) n) : Deep services (active ++ [path]) n := by
  refine ⟨fun other hother => ?_, hdeep⟩
  rcases List.mem_append.1 hother with hother | hother
  · exact h.readable other hother
  · obtain rfl := List.mem_singleton.1 hother
    exact ⟨text, hread⟩

/-- Where a document can be parsed and has a directory, its contents follow its
resolution without a memory. -/
theorem contents_reloads_of_parse {resolver : Resolver} {path : Option String}
    {text directory : String} {document : Document}
    (hparse : (Source.ofText text path).parse = .ok document)
    (hdirectory : directoryOf services path = .ok directory)
    (hgather : GathersReload services active deep resolver (.ofText text path) directory) :
    Reloads services active deep
      (contents services resolver (.ofText text path) directory document)
      (fun depth => Reloading.resolveUsing services (Reloading.file services depth) path text) := by
  have hbody : (fun depth =>
      Reloading.resolveUsing services (Reloading.file services depth) path text) =
      fun depth => Reloading.contents services (Reloading.file services depth)
        (.ofText text path) directory document := by
    funext depth
    simp [Reloading.resolveUsing, Reloading.attempt, hparse, hdirectory]
  rw [hbody]
  exact contents_reloads hgather document

/-- Resolving a file follows resolving it without a memory, if the files that are
gathered meanwhile do. -/
theorem resolveUsing_reloads {resolver : Resolver} {path text : String}
    (hread : services.files.read path = .ok text) (hcanonical : FilePath.IsCanonical path)
    (hresolver : ∀ other text', other ∉ active ++ [path] →
      services.files.read other = .ok text' → FilePath.IsCanonical other →
      Reloads services (active ++ [path]) (Deep services (active ++ [path]))
        (resolver other text') (fun depth => Reloading.file services depth other)) :
    Reloads services active (Deep services active)
      (resolveUsing services resolver (some path) text)
      (fun depth => Reloading.file services depth path) := by
  intro session hsession
  have step := resolve_step services resolver (some path) text session
  generalize resolveUsing services resolver (some path) text session = result at step ⊢
  have hsucc := Reloading.file_of_read hread
  have hentered := hsession.entered (some path)
  cases step with
  | @unparsed failure hparse =>
    have hbody : Settles (fun depth => Reloading.resolveUsing services
        (Reloading.file services depth) (some path) text) (.failure failure) := by
      simp only [Reloading.resolveUsing, hparse]
      exact Settles.const _
    exact .failure hsession (Source.isSyntactic_of_parse hparse).not_isImportCycle
      (hbody.call rfl hsucc)
  | @homeless document fault hparse hdirectory => cases hdirectory
  | @stopped document directory failure after hparse hdirectory hrun =>
    have result := contents_reloads_of_parse hparse hdirectory
      (gather_reloads hresolver _ directory) _ hentered
    rw [hrun] at result
    cases result with
    | failure hafter hother hq => exact .failure (hsession.left hafter) hother (hq.call rfl hsucc)
    | recurs hafter hcycle hback =>
      refine .recurs (hsession.left hafter) hcycle fun depth hdeep => ?_
      exact tooDeep_of_comes_back rfl hsucc (fun n hn => hback n (hdeep.snoc hread hn)) depth
        hdeep.tooDeep
  | @resolved document directory config after hparse hdirectory hrun =>
    have result := contents_reloads_of_parse hparse hdirectory
      (gather_reloads hresolver _ directory) _ hentered
    rw [hrun] at result
    cases result with
    | value hafter hq =>
      have hfile := hq.call (q := fun depth => Reloading.file services depth path) rfl hsucc
      exact .value ((hsession.left hafter).published hcanonical hfile) hfile

/-- A file that is gathered by others follows its resolution without a memory. -/
theorem resolver_reloads (root : Option String) {path text : String}
    (hpath : path ∉ root.toList) (hread : services.files.read path = .ok text)
    (hcanonical : FilePath.IsCanonical path) :
    Reloads services root.toList (Deep services root.toList)
      (resolverWith services services.files.known.length path text)
      (fun depth => Reloading.file services depth path) := by
  have all := resolver_induction (P := fun rest path text resolver => FilePath.IsCanonical path →
    Reloads services (root.toList ++ rest) (Deep services (root.toList ++ rest))
      (resolver path text) (fun depth => Reloading.file services depth path)) ?_ hpath hread
    hcanonical
  · simpa using all
  · intro depth rest path text hpath hread ih hcanonical
    refine resolveUsing_reloads hread hcanonical ?_
    intro other text' hother hread' hcanonical'
    rw [List.append_assoc] at hother ⊢
    exact ih other text' hother hread' hcanonical'

/-- The gathers of the first document follow gathers without a memory. -/
theorem root_gathers_reload (root : Option String) (source : Source) (directory : String) :
    GathersReload services root.toList (Deep services root.toList)
      (resolverWith services services.files.known.length) source directory :=
  gather_reloads
    (fun _ _ hnew hread hcanonical => resolver_reloads root hnew hread hcanonical) source directory

/-- Resolving a file follows resolving it without a memory. -/
theorem resolve_reloads {path text : String} (hread : services.files.read path = .ok text)
    (hcanonical : FilePath.IsCanonical path) :
    Reloads services [] (Deep services []) (resolve services (some path) text)
      (fun depth => Reloading.file services depth path) :=
  resolveUsing_reloads hread hcanonical fun _ _ hother hread' hcanonical' =>
    resolver_reloads (some path) hother hread' hcanonical'

/-! ## The first file -/

/-- Resolving a file from any spelling of its path follows as well. -/
theorem resolveFile_reloads (services : Services) (display : String) :
    Reloads services [] (Deep services []) (resolveFile services display)
      (fun depth => Reloading.resolveFile services depth display) := by
  intro session hsession
  cases hpath : services.locate display with
  | error fault =>
    rw [resolveFile_of_fault hpath]
    simp only [Reloading.resolveFile_of_fault hpath]
    exact .failure hsession id (Settles.const _)
  | ok path =>
    obtain ⟨base, -, hlocate⟩ := Services.locate_eq_ok_iff.1 hpath
    have hcanonical := FilePath.isCanonical_of_locate hlocate
    cases hread : services.files.read path with
    | error fault =>
      rw [resolveFile_of_unreadable hpath hread]
      simp only [Reloading.resolveFile_of_unreadable hpath hread]
      exact .failure (hsession.noted _) (ReadFault.failure_not_isImportCycle (fun _ => id) fault)
        (Settles.const _)
    | ok text =>
      rw [resolveFile_of_read hpath hread]
      simp only [Reloading.resolveFile_of_read hpath hread]
      have result := resolve_reloads hread hcanonical _ (hsession.noted (.fileAsked path))
      simp only [bind, EStateM.bind]
      generalize resolve services (some path) text _ = ended at result ⊢
      cases result with
      | @value config after _ hafter hfile =>
        obtain ⟨event, hfinish⟩ := finish_eq config after
        dsimp only
        rw [hfinish]
        exact .value (hafter.noted event) hfile
      | failure hafter hother hfile => exact .failure hafter hother hfile
      | recurs hafter hcycle hback => exact .recurs hafter hcycle hback

/-- What a file comes to without a memory is what a fresh session gives for it. -/
theorem resolveFile_of_settles {path base : String} {config : Config}
    (hbase : services.base = .ok base) (hcanonical : FilePath.IsCanonical path)
    (hsettles : Settles (fun depth => Reloading.file services depth path) (.value config)) :
    ∃ last, resolveFile services path fresh = .ok config last := by
  obtain ⟨text, hread⟩ := readable_of_settles hsettles
  have hpath : services.locate path = .ok path :=
    Services.locate_eq_ok_iff.2 ⟨base, hbase, hcanonical _ _⟩
  refine (resolveFile_reloads services path _ (Sound.fresh services)).eq_ok (Deep.nil services) ?_
  simpa only [Reloading.resolveFile_of_read hpath hread] using hsettles

/-- If a file can be resolved, then every configuration that is kept is the one that a
fresh session gives for its path, and the result is that of a resolution which keeps no
configurations and reads and resolves a file again at every gather. -/
theorem resolveFile_transparent {services : Services} {display : String} {config : Config}
    {after : Session} (h : resolveFile services display fresh = .ok config after) :
    (∀ path kept, Entries.get? path after.modules = some kept →
      ∃ last, resolveFile services path fresh = .ok kept last) ∧
    ∃ depth, ∀ n, depth ≤ n → Reloading.resolveFile services n display = .value config := by
  have result := resolveFile_reloads services display _ (Sound.fresh services)
  rw [h] at result
  cases result with
  | value hafter hfile =>
    refine ⟨fun path kept hkept => ?_, hfile.reached⟩
    have hbase : ∃ base, services.base = .ok base := by
      cases hdisplay : services.locate display with
      | error fault =>
        rw [resolveFile_of_fault hdisplay] at h
        cases h
      | ok located =>
        obtain ⟨base, hbase, -⟩ := Services.locate_eq_ok_iff.1 hdisplay
        exact ⟨base, hbase⟩
    obtain ⟨base, hbase⟩ := hbase
    exact resolveFile_of_settles hbase (hafter.canonical path kept hkept)
      (hafter.settles path kept hkept)

/-- Two files that gather a third one. -/
theorem resolveFile_transparent_shared :
    let services := Services.ofStore [
      ("/main", "gather \"left\"\ngather \"right\"\n"),
      ("/left", "gather \"./base\"\nl x\n"),
      ("/right", "gather \"../base\"\nr x\n"),
      ("/base", "x 1\n")]
    ∃ config after, resolveFile services "main" fresh = .ok config after ∧
      Entries.keys after.modules = ["/base", "/left", "/right", "/main"] ∧
      (∀ path kept, Entries.get? path after.modules = some kept →
        ∃ last, resolveFile services path fresh = .ok kept last) ∧
      ∃ depth, ∀ n, depth ≤ n → Reloading.resolveFile services n "main" = .value config := by
  intro services
  have hrun : (success? (resolveFile services "main" fresh)).map (Entries.keys ·.2.modules) =
      some ["/base", "/left", "/right", "/main"] := by
    decide +kernel
  obtain ⟨⟨config, after⟩, h, hkeys⟩ := Option.map_eq_some_iff.1 hrun
  rw [success?_eq_some_iff] at h
  exact ⟨config, after, h, hkeys, resolveFile_transparent h⟩

end Session

end Rune
