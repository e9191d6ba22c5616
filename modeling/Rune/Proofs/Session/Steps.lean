import Rune.Proofs.Outcome
import Rune.Proofs.Tree.Complaints
import Rune.Session.Entry
import Mathlib.Data.List.Nodup
import Mathlib.Data.List.Perm.Subperm

/-!
# Rune - what gathering and resolving do

A gather does one of five things, and resolving a document one of four.  Files gather
each other less deep than there are files, because the files being resolved are all
different.

Main results:

- Types {lit}`Session.GatherStep` and {lit}`Session.ResolveStep` list what a gather and the
  resolution of a document can do, with the theorems {lit}`Session.gather_step` and
  {lit}`Session.resolve_step` that there is nothing else.
- Theorem {lit}`Session.resolver_induction`: what holds of the resolution of a file when it
  holds of the files that it gathers holds of every file.
-/

namespace Rune

/-! ## Failures -/

/-- The failure of a file that cannot be read, where files that are unavailable fail
in a given way. -/
def ReadFault.failure (unavailable : String → Failure) (fault : ReadFault) : Failure :=
  match fault with
  | .undecodable bytes => .fault (.badEncoding bytes.message)
  | _ => unavailable (fault.reason?.getD "")

/-- A failure reports a file that gathers itself. -/
def Failure.IsImportCycle : Failure → Prop
  | .importCycle _ _ => True
  | _ => False

/-- A document that cannot be parsed is no file that gathers itself. -/
theorem Failure.IsSyntactic.not_isImportCycle {failure : Failure} (h : failure.IsSyntactic) :
    ¬ failure.IsImportCycle := by
  cases failure with
  | importCycle diagnostic chain => exact fun _ => h
  | _ => exact id

/-- A file that cannot be read is no cycle, if one that is unavailable is none. -/
theorem ReadFault.failure_not_isImportCycle {unavailable : String → Failure}
    (h : ∀ reason, ¬ (unavailable reason).IsImportCycle) (fault : ReadFault) :
    ¬ (fault.failure unavailable).IsImportCycle := by
  cases fault with
  | undecodable bytes => exact id
  | _ => exact h _

/-- A flaw of a document is no file that gathers itself. -/
theorem Flaw.failure_not_isImportCycle (source : Source) (flaw : Flaw) :
    ¬ (flaw.failure source).IsImportCycle := by
  cases flaw with
  | cycle chain range => exact id
  | fault cause range =>
    cases cause with
    | badPattern reason pattern =>
      simp only [failure, RegexFault.failure]
      cases reason.fault? <;> exact id
    | _ => exact id

/-- A path is located relative to the directory of documents without a path. -/
theorem Services.locate_eq_ok_iff {services : Services} {path located : String} :
    services.locate path = .ok located ↔
      ∃ base, services.base = .ok base ∧
        FilePath.locate services.standpoint base path = .ok located := by
  unfold locate
  cases services.base <;> simp [bind, Except.bind]

/-- A configuration is that of the document that was evaluated. -/
theorem Scope.source_of_evaluate {scope : Scope} {memory after : Memory} {config : Config}
    (h : scope.evaluate memory = .ok config after) : config.source = scope.source := by
  obtain ⟨globals, _, -, h⟩ := bind_eq_ok_iff.1 h
  obtain ⟨metadata, _, -, h⟩ := bind_eq_ok_iff.1 h
  obtain ⟨items, _, -, h⟩ := bind_eq_ok_iff.1 h
  cases h
  rfl

namespace Session

/-! ## Sessions -/

/-- The session after an event was recorded. -/
def noted (event : Event) (session : Session) : Session :=
  { session with resources := session.resources.note event }

/-- An event is recorded. -/
theorem note_eq (event : Event) (session : Session) :
    note event session = .ok () (session.noted event) :=
  rfl

/-- The session while a document is being resolved. -/
def entered (path : Option String) (session : Session) : Session :=
  { session with active := session.active ++ path.toList }

/-- The session after a document was resolved, in which the same files are being
resolved as before. -/
def left (before after : Session) : Session := { after with active := before.active }

/-- The session in which the configuration of a document is kept under its path. -/
def published (path : Option String) (config : Config) (session : Session) : Session :=
  let modules :=
    match path with
    | some path => Entries.insert path config session.modules
    | none => session.modules
  { session with modules := modules }.noted
    (.resolved path config.globals.length config.items.length config.metadata.length)

/-! ## One gather -/

variable {services : Services} {resolver : Resolver}

/-- What gathering a file can do: its path cannot be located, the file is being
resolved, its configuration is known, it cannot be read, or it is resolved. -/
inductive GatherStep (services : Services) (resolver : Resolver) (source : Source)
    (directory : String) (g : Gather) (session : Session) :
    EStateM.Result Failure Session Config → Prop
  | nowhere {fault : Fault} :
      FilePath.locate services.standpoint directory g.path = .error fault →
      GatherStep services resolver source directory g session (.error (.fault fault) session)
  | cycle {path : String} :
      FilePath.locate services.standpoint directory g.path = .ok path → path ∈ session.active →
      GatherStep services resolver source directory g session
        (.error (cycle session.active path (source.diagnose · g.range)) session)
  | known {path : String} {config : Config} :
      FilePath.locate services.standpoint directory g.path = .ok path → path ∉ session.active →
      Entries.get? path session.modules = some config →
      GatherStep services resolver source directory g session
        (.ok config (session.noted (.reused path g.aliasName)))
  | unreadable {path : String} {fault : ReadFault} :
      FilePath.locate services.standpoint directory g.path = .ok path → path ∉ session.active →
      Entries.get? path session.modules = none → services.files.read path = .error fault →
      GatherStep services resolver source directory g session
        (.error (fault.failure (missing g · (source.diagnose · g.range)))
          (session.noted (.fileAsked path)))
  | anew {path text : String} :
      FilePath.locate services.standpoint directory g.path = .ok path → path ∉ session.active →
      Entries.get? path session.modules = none → services.files.read path = .ok text →
      GatherStep services resolver source directory g session
        (resolver path text
          ((session.noted (.fileAsked path)).noted (.loaded path text.length g.aliasName)))

/-- A gather does nothing else. -/
theorem gather_step (services : Services) (resolver : Resolver) (source : Source)
    (directory : String) (g : Gather) (session : Session) :
    GatherStep services resolver source directory g session
      (gather services resolver source directory g session) := by
  unfold gather load
  cases hpath : FilePath.locate services.standpoint directory g.path with
  | error fault => exact .nowhere hpath
  | ok path =>
    simp only [bind, EStateM.bind, liftM, monadLift, MonadLift.monadLift, pure, EStateM.pure,
      get_eq]
    by_cases hactive : path ∈ session.active
    · simp only [if_pos hactive]
      exact .cycle hpath hactive
    · simp only [if_neg hactive]
      cases hmodule : Entries.get? path session.modules with
      | some config => exact .known hpath hactive hmodule
      | none =>
        cases hread : services.files.read path with
        | ok text => exact .anew hpath hactive hmodule hread
        | error fault => cases fault <;> exact .unreadable hpath hactive hmodule hread

/-! ## One document -/

/-- Gather the files of a document and evaluate it. -/
def contents (services : Services) (resolver : Resolver) (source : Source) (directory : String)
    (document : Document) : Resolve Config := do
  let aliases ← gatherAll services resolver source directory [] document.gathers
  evaluate (.ofDocument source services document aliases)

/-- What resolving a document can do: it cannot be parsed, there is no directory to
gather files from, a gather or the evaluation fails, or there is a configuration. -/
inductive ResolveStep (services : Services) (resolver : Resolver) (path : Option String)
    (text : String) (session : Session) : EStateM.Result Failure Session Config → Prop
  | unparsed {failure : Failure} :
      (Source.ofText text path).parse = .error failure →
      ResolveStep services resolver path text session (.error failure session)
  | homeless {document : Document} {fault : Fault} :
      (Source.ofText text path).parse = .ok document →
      directoryOf services path = .error fault →
      ResolveStep services resolver path text session (.error (.fault fault) session)
  | stopped {document : Document} {directory : String} {failure : Failure} {after : Session} :
      (Source.ofText text path).parse = .ok document →
      directoryOf services path = .ok directory →
      contents services resolver (.ofText text path) directory document (session.entered path) =
        .error failure after →
      ResolveStep services resolver path text session (.error failure (session.left after))
  | resolved {document : Document} {directory : String} {config : Config} {after : Session} :
      (Source.ofText text path).parse = .ok document →
      directoryOf services path = .ok directory →
      contents services resolver (.ofText text path) directory document (session.entered path) =
        .ok config after →
      ResolveStep services resolver path text session
        (.ok config ((session.left after).published path config))

/-- Where a document can be parsed and has a directory, its contents decide. -/
theorem resolveUsing_of_parse {path : Option String} {text directory : String}
    {document : Document} (hparse : (Source.ofText text path).parse = .ok document)
    (hdirectory : directoryOf services path = .ok directory) (session : Session) :
    resolveUsing services resolver path text session =
      match contents services resolver (.ofText text path) directory document
        (session.entered path) with
      | .ok config after => .ok config ((session.left after).published path config)
      | .error failure after => .error failure (session.left after) := by
  unfold resolveUsing contents
  simp only [hparse, hdirectory, bind, EStateM.bind, liftM, monadLift, MonadLift.monadLift, pure,
    EStateM.pure, within, entered]
  generalize gatherAll services resolver _ _ _ _ _ = gathered
  cases gathered with
  | error failure after => rfl
  | ok aliases after =>
    dsimp only
    generalize evaluate _ after = result
    cases result with
    | error failure after => rfl
    | ok config after => cases path <;> rfl

/-- Resolving a document does nothing else. -/
theorem resolve_step (services : Services) (resolver : Resolver) (path : Option String)
    (text : String) (session : Session) :
    ResolveStep services resolver path text session
      (resolveUsing services resolver path text session) := by
  cases hparse : (Source.ofText text path).parse with
  | error failure =>
    simp only [resolveUsing, hparse]
    exact .unparsed hparse
  | ok document =>
    cases hdirectory : directoryOf services path with
    | error fault =>
      simp only [resolveUsing, hparse, hdirectory]
      exact .homeless hparse hdirectory
    | ok directory =>
      rw [resolveUsing_of_parse hparse hdirectory]
      cases hcontents : contents services resolver (.ofText text path) directory document
          (session.entered path) with
      | error failure after => exact .stopped hparse hdirectory hcontents
      | ok config after => exact .resolved hparse hdirectory hcontents

/-! ## The first document -/

/-- A text without a path is resolved. -/
theorem resolveText_none (text : String) :
    resolveText services none text = resolve services none text >>= finish := rfl

/-- A text is resolved under the canonical form of its path. -/
theorem resolveText_some {display path : String} (hpath : services.locate display = .ok path)
    (text : String) :
    resolveText services (some display) text = resolve services (some path) text >>= finish := by
  funext session
  simp only [resolveText, Option.mapM_some, hpath, bind, EStateM.bind, liftM, monadLift,
    MonadLift.monadLift, pure]
  rfl

/-- A text fails if its path cannot be located. -/
theorem resolveText_of_fault {display : String} {fault : Fault}
    (hpath : services.locate display = .error fault) (text : String) (session : Session) :
    resolveText services (some display) text session = .error (.fault fault) session := by
  simp only [resolveText, Option.mapM_some, hpath, bind, EStateM.bind, liftM, monadLift,
    MonadLift.monadLift]
  rfl

/-- A path that cannot be located fails before anything is done. -/
theorem resolveFile_of_fault {display : String} {fault : Fault}
    (hpath : services.locate display = .error fault) (session : Session) :
    resolveFile services display session = .error (.fault fault) session := by
  simp only [resolveFile, hpath, bind, EStateM.bind, liftM, monadLift, MonadLift.monadLift]
  rfl

/-- A file that cannot be read fails before it is resolved. -/
theorem resolveFile_of_unreadable {display path : String} {fault : ReadFault}
    (hpath : services.locate display = .ok path)
    (hread : services.files.read path = .error fault) (session : Session) :
    resolveFile services display session =
      .error (fault.failure (unreadable display path)) (session.noted (.fileAsked path)) := by
  simp only [resolveFile, load, hpath, hread, bind, EStateM.bind, liftM, monadLift,
    MonadLift.monadLift, pure, EStateM.pure]
  cases fault <;> rfl

/-- Any other file is resolved. -/
theorem resolveFile_of_read {display path text : String}
    (hpath : services.locate display = .ok path) (hread : services.files.read path = .ok text)
    (session : Session) :
    resolveFile services display session =
      (resolve services (some path) text >>= finish) (session.noted (.fileAsked path)) := by
  simp only [resolveFile, load, hpath, hread, bind, EStateM.bind, liftM, monadLift,
    MonadLift.monadLift, pure, EStateM.pure]
  rfl

/-- Reporting the end of a resolution records an event. -/
theorem finish_eq (config : Config) (session : Session) :
    ∃ event, finish config session = .ok config (session.noted event) := ⟨_, rfl⟩

/-! ## Resolutions that succeed -/

section

variable {session after : Session} {config : Config}

/-- The result of a resolution that succeeds, and the session after it. -/
def success? {α : Type} : EStateM.Result Failure Session α → Option (α × Session)
  | .ok a after => some (a, after)
  | .error _ _ => none

theorem success?_eq_some_iff {α : Type} {result : EStateM.Result Failure Session α} {a : α}
    {after : Session} : success? result = some (a, after) ↔ result = .ok a after := by
  cases result <;> simp [success?]

/-- Evaluation succeeds if that of the document does. -/
theorem evaluate_eq_ok {scope : Scope} (h : evaluate scope session = .ok config after) :
    ∃ memory, scope.evaluate (.fresh session.resources) = .ok config memory := by
  unfold evaluate at h
  generalize scope.evaluate (.fresh session.resources) = result at h ⊢
  cases result with
  | error flaw _ => cases h
  | ok _ memory =>
    cases h
    exact ⟨memory, rfl⟩

/-- A configuration has the path of its document. -/
theorem sourcePath_of_resolveUsing {path : Option String} {text : String}
    (h : resolveUsing services resolver path text session = .ok config after) :
    config.sourcePath = path := by
  have step := resolve_step services resolver path text session
  rw [h] at step
  cases step with
  | resolved hparse hdirectory hcontents =>
    obtain ⟨aliases, _, -, hevaluate⟩ := bind_eq_ok_iff.1 hcontents
    obtain ⟨memory, hevaluate⟩ := evaluate_eq_ok hevaluate
    exact congrArg Source.path (Scope.source_of_evaluate hevaluate)

/-- The configuration of a file has the canonical path of that file. -/
theorem sourcePath_of_resolveFile {display : String}
    (h : resolveFile services display session = .ok config after) :
    ∃ path, services.locate display = .ok path ∧ config.sourcePath = some path := by
  cases hpath : services.locate display with
  | error fault =>
    rw [resolveFile_of_fault hpath] at h
    cases h
  | ok path =>
    cases hread : services.files.read path with
    | error fault =>
      rw [resolveFile_of_unreadable hpath hread] at h
      cases h
    | ok text =>
      rw [resolveFile_of_read hpath hread] at h
      obtain ⟨_, _, hresolve, hfinish⟩ := bind_eq_ok_iff.1 h
      cases hfinish
      exact ⟨path, rfl, sourcePath_of_resolveUsing hresolve⟩

end

/-! ## All files -/

/-- Files that are being resolved after the first document: they are all different and
can be read. -/
structure Distinct (services : Services) (rest : List String) : Prop where
  nodup : rest.Nodup
  readable : ∀ path ∈ rest, ∃ text, services.files.read path = .ok text

namespace Distinct

variable {rest : List String}

theorem nil : Distinct services [] := ⟨List.nodup_nil, by simp⟩

/-- One more file that can be read. -/
theorem snoc (h : Distinct services rest) {path text : String} (hnew : path ∉ rest)
    (hread : services.files.read path = .ok text) : Distinct services (rest ++ [path]) := by
  constructor
  · rw [← List.concat_eq_append]
    exact List.Nodup.concat hnew h.nodup
  · intro other hother
    rcases List.mem_append.1 hother with hother | hother
    · exact h.readable other hother
    · obtain rfl := List.mem_singleton.1 hother
      exact ⟨text, hread⟩

/-- There are no more of them than there are files. -/
theorem length_le (h : Distinct services rest) : rest.length ≤ services.files.known.length := by
  have hsubset : rest ⊆ services.files.known := by
    intro path hpath
    obtain ⟨text, hread⟩ := h.readable path hpath
    exact services.files.mem_known hread
  exact (h.nodup.subperm hsubset).length_le

end Distinct

/-- What holds of the resolution of a file when it holds of the files that are gathered
meanwhile holds of every file.  The files being resolved are that of the first
document, if it has a path, and those in the list; the depth is never used up. -/
theorem resolver_induction {root : Option String}
    {P : List String → String → String → Resolver → Prop}
    (step : ∀ depth rest path text, path ∉ root.toList ++ rest →
      services.files.read path = .ok text →
      (∀ other text', other ∉ root.toList ++ (rest ++ [path]) →
        services.files.read other = .ok text' →
        P (rest ++ [path]) other text' (resolverWith services depth)) →
      P rest path text (resolverWith services (depth + 1)))
    {path text : String} (hpath : path ∉ root.toList)
    (hread : services.files.read path = .ok text) :
    P [] path text (resolverWith services services.files.known.length) := by
  suffices all : ∀ depth rest path text, Distinct services rest →
      services.files.known.length ≤ depth + rest.length → path ∉ root.toList ++ rest →
      services.files.read path = .ok text → P rest path text (resolverWith services depth) from
    all _ [] path text .nil (by simp) (by simpa using hpath) hread
  intro depth
  induction depth with
  | zero =>
    intro rest path text hrest hdepth hpath hread
    have hnew : path ∉ rest := fun hmem => hpath (List.mem_append_right _ hmem)
    have hlength := (hrest.snoc hnew hread).length_le
    simp only [List.length_append, List.length_singleton] at hlength
    omega
  | succ depth ih =>
    intro rest path text hrest hdepth hpath hread
    have hnew : path ∉ rest := fun hmem => hpath (List.mem_append_right _ hmem)
    refine step depth rest path text hpath hread fun other text' hother hread' =>
      ih _ other text' (hrest.snoc hnew hread) ?_ hother hread'
    simp only [List.length_append, List.length_singleton]
    omega

end Session

end Rune
