import Rune.Proofs.Session.Entry
import Rune.Proofs.Session.Traversal

/-!
# Rune - every resolution ends

Files may gather each other in any way, also in cycles, and files may be missing or broken.
A resolution ends nevertheless: a file is entered only if it can be read and is not being
resolved already, so that files cannot nest deeper than there are files.

Main results:

- Structure {lit}`Traversal.Orderly` is the invariant of the steps, with the theorems
  {lit}`Traversal.Orderly.step` that every step keeps it and {lit}`Traversal.Orderly.depth_le`
  that it bounds how deep documents nest.
- Type {lit}`Launch` is what a resolution can be asked for.
- Theorem {lit}`Launch.resolve_terminates`: every resolution ends.
-/

namespace Rune

/-- The paths of files that can be read. -/
def Files.loadable (files : Files) : Finset String :=
  files.known.toFinset.filter fun path => (files.read path).isOk

theorem Files.mem_loadable {files : Files} {path : String} :
    path ∈ files.loadable ↔ ∃ text, files.read path = .ok text := by
  rw [loadable, Finset.mem_filter, List.mem_toFinset]
  constructor
  · rintro ⟨-, hread⟩
    cases htext : files.read path with
    | ok text => exact ⟨text, rfl⟩
    | error fault => simp [htext, Except.isOk, Except.toBool] at hread
  · rintro ⟨text, htext⟩
    exact ⟨files.mem_known htext, by simp [htext, Except.isOk, Except.toBool]⟩

namespace Traversal

open Session

variable {services : Services} {root : Option String}

/-! ## What every step keeps -/

/-- Documents that are being resolved, the innermost one first, and the files among them,
the innermost one last.  After the first document come files that can be read, none of
which is being resolved already. -/
inductive Nested (services : Services) (root : Option String) :
    List Visit → List String → Prop
  | nil : Nested services root [] []
  | first {visit : Visit} : visit.path = root → Nested services root [visit] root.toList
  | next {visit outer : Visit} {visits : List Visit} {active : List String} {path : String} :
      Nested services root (outer :: visits) active → visit.path = some path → path ∉ active →
      (∃ text, services.files.read path = .ok text) →
      Nested services root (visit :: outer :: visits) (active ++ [path])

namespace Nested

variable {visit : Visit} {visits : List Visit} {active : List String}

/-- Only the paths of the documents matter. -/
theorem of_path_eq (h : Nested services root (visit :: visits) active) {visit' : Visit}
    (hpath : visit'.path = visit.path) : Nested services root (visit' :: visits) active := by
  cases h with
  | first hroot => exact .first (hpath.trans hroot)
  | next houter hfile hnew hread => exact .next houter (hpath.trans hfile) hnew hread

/-- Leaving the innermost document. -/
theorem pop (h : Nested services root (visit :: visits) active) :
    Nested services root visits (if visit.path.isSome then active.dropLast else active) := by
  cases h with
  | first hroot =>
    rw [hroot]
    cases root <;> exact .nil
  | next houter hfile _ _ =>
    rw [hfile, Option.isSome_some, if_pos rfl, List.dropLast_concat]
    exact houter

/-- The files after the first document are different and can be read. -/
theorem exists_distinct (h : Nested services root (visit :: visits) active) :
    ∃ rest, active = root.toList ++ rest ∧ active.Nodup ∧ Distinct services rest ∧
      visits.length = rest.length := by
  generalize hall : visit :: visits = all at h
  induction h generalizing visit visits with
  | nil => cases hall
  | first _ =>
    cases hall
    exact ⟨[], by simp, by cases root <;> simp, .nil, rfl⟩
  | @next visit outer visits active path houter _ hnew hread ih =>
    cases hall
    obtain ⟨rest, rfl, hnodup, hdistinct, hlength⟩ := ih rfl
    obtain ⟨text, htext⟩ := hread
    refine ⟨rest ++ [path], by simp, ?_, ?_, by simp [hlength]⟩
    · rw [← List.concat_eq_append]
      exact List.Nodup.concat hnew hnodup
    · exact hdistinct.snoc (fun hmem => hnew (List.mem_append_right _ hmem)) htext

end Nested

/-- Different files that can be read are at most as many as there are. -/
theorem card_le {rest : List String} (h : Distinct services rest) :
    rest.length ≤ services.files.loadable.card := by
  rw [← List.toFinset_card_of_nodup h.nodup]
  refine Finset.card_le_card fun path hpath => Files.mem_loadable.2 ?_
  exact h.readable path (List.mem_toFinset.1 hpath)

/-- The invariant of a resolution that began with a document: the documents are nested, and
a document is entered only if it is the first one or if it is one more file. -/
structure Orderly (services : Services) (root : Option String) (t : Traversal) : Prop where
  nested : Nested services root t.visits t.session.active
  enters : ∀ path text, t.turn = .enter path text → (t.visits = [] ∧ path = root) ∨
    ∃ visit visits file, t.visits = visit :: visits ∧ path = some file ∧
      file ∉ t.session.active ∧ ∃ text, services.files.read file = .ok text

namespace Orderly

variable {t next : Traversal}

/-- A state in which no document is entered. -/
theorem of_nested (h : Nested services root t.visits t.session.active)
    (hturn : ∀ path text, t.turn ≠ .enter path text) : Orderly services root t :=
  ⟨h, fun path text heq => absurd heq (hturn path text)⟩

/-- The state before the first document. -/
theorem start (text : String) {session : Session} (hactive : session.active = []) :
    Orderly services root ⟨.enter root text, [], session⟩ := by
  refine ⟨?_, ?_⟩
  · rw [hactive]
    exact .nil
  · intro path text henter
    cases henter
    exact .inl ⟨rfl, rfl⟩

/-- Entering a document puts it on the list. -/
theorem enter {path : Option String} {text : String} {visits : List Visit} {session : Session}
    (h : Orderly services root ⟨.enter path text, visits, session⟩) :
    Orderly services root (Traversal.enter services path text visits session) := by
  unfold Traversal.enter
  dsimp only
  split
  · exact of_nested h.nested (by simp)
  · split
    · exact of_nested h.nested (by simp)
    · refine of_nested ?_ (by simp)
      have hnested := h.nested
      rcases h.enters path text rfl with
        ⟨hvisits, rfl⟩ | ⟨outer, rest, file, hvisits, rfl, hnew, hread⟩
      · dsimp only at hvisits hnested
        subst hvisits
        generalize hactive : session.active = active at hnested
        cases hnested
        simp only [entered, hactive, List.nil_append]
        exact .first rfl
      · dsimp only at hvisits hnested
        subst hvisits
        exact .next hnested rfl hnew hread

/-- Gathering a file enters it only if it is one more that can be read. -/
theorem gatherNext {g : Gather} {visit : Visit} {visits : List Visit} {session : Session}
    (h : Nested services root (visit :: visits) session.active) :
    Orderly services root (Traversal.gatherNext services g visit visits session) := by
  unfold Traversal.gatherNext
  dsimp only
  split
  · exact of_nested h (by simp)
  · split
    · exact of_nested h (by simp)
    · rename_i file _ hnew
      split
      · exact of_nested h (by simp)
      · split
        · exact of_nested h (by simp)
        · rename_i text hread
          refine ⟨h, ?_⟩
          intro path text henter
          cases henter
          exact .inr ⟨visit, visits, file, rfl, rfl, hnew, text, hread⟩

/-- Evaluating a document leaves it or fails. -/
theorem evaluateNext {visit : Visit} {visits : List Visit} {session : Session}
    (h : Nested services root (visit :: visits) session.active) :
    Orderly services root (Traversal.evaluateNext services visit visits session) := by
  have hkept := Steady.evaluate (.ofDocument visit.source services visit.document visit.aliases)
    session
  unfold Traversal.evaluateNext
  split
  · rename_i hrun
    rw [hrun] at hkept
    refine of_nested ?_ (by simp)
    have hpop := h.pop
    rw [← hkept] at hpop
    exact hpop
  · rename_i hrun
    rw [hrun] at hkept
    refine of_nested ?_ (by simp)
    rw [← hkept] at h
    exact h

/-- Every step keeps the invariant. -/
theorem step (h : Orderly services root t) (hstep : Traversal.step services t = some next) :
    Orderly services root next := by
  obtain ⟨turn, visits, session⟩ := t
  cases turn with
  | enter path text =>
    cases hstep
    exact h.enter
  | work =>
    cases visits with
    | nil => cases hstep
    | cons visit visits =>
      simp only [Traversal.step] at hstep
      split at hstep <;> cases hstep
      · exact evaluateNext h.nested
      · exact gatherNext h.nested
  | give config =>
    cases visits with
    | nil => cases hstep
    | cons visit visits =>
      cases hstep
      exact of_nested (h.nested.of_path_eq (visit.bind_path config)) (by simp)
  | fail failure =>
    cases visits with
    | nil => cases hstep
    | cons visit visits =>
      cases hstep
      exact of_nested h.nested.pop (by simp)

/-- Any number of steps keeps the invariant. -/
theorem leads (h : Orderly services root t) (hleads : Leads services t next) :
    Orderly services root next := by
  induction hleads with
  | refl => exact h
  | tail _ hstep ih => exact ih.step hstep

/-- No file is being resolved twice. -/
theorem nodup (h : Orderly services root t) : t.session.active.Nodup := by
  have hnested := h.nested
  cases hvisits : t.visits with
  | nil =>
    rw [hvisits] at hnested
    generalize t.session.active = active at hnested
    cases hnested
    exact List.nodup_nil
  | cons visit visits =>
    rw [hvisits] at hnested
    obtain ⟨rest, -, hnodup, -, -⟩ := hnested.exists_distinct
    exact hnodup

/-- Every file that is being resolved is that of the first document, or it can be read. -/
theorem readable (h : Orderly services root t) :
    ∀ path ∈ t.session.active, root = some path ∨ path ∈ services.files.loadable := by
  have hnested := h.nested
  intro path hpath
  cases hvisits : t.visits with
  | nil =>
    rw [hvisits] at hnested
    generalize t.session.active = active at hnested hpath
    cases hnested
    simp at hpath
  | cons visit visits =>
    rw [hvisits] at hnested
    obtain ⟨rest, hactive, -, hdistinct, -⟩ := hnested.exists_distinct
    rw [hactive] at hpath
    rcases List.mem_append.1 hpath with hpath | hpath
    · exact .inl (Option.mem_toList.1 hpath)
    · exact .inr (Files.mem_loadable.2 (hdistinct.readable path hpath))

/-- Documents do not nest deeper than there are files, apart from the first one. -/
theorem depth_le (h : Orderly services root t) : t.depth ≤ services.files.loadable.card + 1 := by
  obtain ⟨turn, visits, session⟩ := t
  have hnested := h.nested
  cases visits with
  | nil => cases turn <;> simp [depth]
  | cons visit visits =>
    obtain ⟨rest, hactive, -, hdistinct, hlength⟩ := hnested.exists_distinct
    have hrest := card_le hdistinct
    cases turn with
    | work | give | fail =>
      simp only [depth, List.length_cons]
      omega
    | enter path text =>
      rcases h.enters path text rfl with ⟨hnil, -⟩ | ⟨_, _, file, -, -, hnew, text', hread⟩
      · cases hnil
      · dsimp only at hactive hnew
        rw [hactive] at hnew
        have hmore := card_le
          (hdistinct.snoc (fun hmem => hnew (List.mem_append_right _ hmem)) hread)
        simp only [List.length_append, List.length_singleton] at hmore
        simp only [depth, List.length_cons]
        omega

end Orderly

end Traversal

/-! ## What a resolution is asked for -/

/-- A failure tells no line. -/
def Failure.IsNowhere (failure : Failure) : Prop :=
  ∀ d, failure.diagnostic? = some d → d.line = 0

/-- A file that cannot be read fails at no line, if one that is unavailable does. -/
theorem ReadFault.failure_isNowhere {unavailable : String → Failure}
    (h : ∀ reason, (unavailable reason).IsNowhere) (fault : ReadFault) :
    (fault.failure unavailable).IsNowhere := by
  cases fault with
  | undecodable bytes => exact nofun
  | _ => exact h _

/-- What a resolution is asked for: an entry, or a file or another one if the first one is
unavailable. -/
inductive Launch where
  | entry (entry : Entry)
  | fileOr (primary fallback : String)

namespace Launch

open Session

/-- Resolve what is asked for. -/
def resolve (services : Services) : Launch → Resolve Config
  | .entry e => e.resolve services
  | .fileOr primary fallback => resolveFileOr services primary fallback

/-- The first document of what is asked for. -/
inductive Starts (services : Services) : Launch → Option String → String → Prop
  | entry {entry : Entry} {root : Option String} {text : String} :
      entry.Starts services root text → Starts services (.entry entry) root text
  | primary {primary fallback path text : String} : services.locate primary = .ok path →
      services.files.read path = .ok text →
      Starts services (.fileOr primary fallback) (some path) text
  | fallback {primary fallback path path' text : String} {fault : ReadFault} :
      services.locate primary = .ok path → services.files.read path = .error fault →
      fault.reason?.isSome → services.locate fallback = .ok path' →
      services.files.read path' = .ok text →
      Starts services (.fileOr primary fallback) (some path') text

variable {services : Services}

/-- A path that cannot be located fails before anything is done. -/
theorem resolveFileOr_of_fault {primary : String} {fault : Fault}
    (hpath : services.locate primary = .error fault) (fallback : String) (session : Session) :
    resolveFileOr services primary fallback session = .error (.fault fault) session := by
  simp only [resolveFileOr, hpath, bind, EStateM.bind, liftM, monadLift, MonadLift.monadLift]
  rfl

/-- A file that can be read is resolved. -/
theorem resolveFileOr_of_read {primary path text : String}
    (hpath : services.locate primary = .ok path) (hread : services.files.read path = .ok text)
    (fallback : String) (session : Session) :
    resolveFileOr services primary fallback session =
      (Session.resolve services (some path) text >>= finish) (session.noted (.fileAsked path)) := by
  simp only [resolveFileOr, load, hpath, hread, bind, EStateM.bind, liftM, monadLift,
    MonadLift.monadLift, pure, EStateM.pure]
  rfl

/-- A file whose bytes are no text fails. -/
theorem resolveFileOr_of_undecodable {primary path : String} {bytes : Utf8.DecodeFault}
    (hpath : services.locate primary = .ok path)
    (hread : services.files.read path = .error (.undecodable bytes)) (fallback : String)
    (session : Session) :
    resolveFileOr services primary fallback session =
      .error (.fault (.badEncoding bytes.message)) (session.noted (.fileAsked path)) := by
  simp only [resolveFileOr, load, hpath, hread, bind, EStateM.bind, liftM, monadLift,
    MonadLift.monadLift, pure, EStateM.pure]
  rfl

/-- If the first file is unavailable, the other one is resolved. -/
theorem resolveFileOr_of_unavailable {primary path : String} {fault : ReadFault}
    (hpath : services.locate primary = .ok path)
    (hread : services.files.read path = .error fault) (hfault : fault.reason?.isSome)
    (fallback : String) (session : Session) :
    let noted := (session.noted (.fileAsked path)).noted (.unavailable path fallback)
    resolveFileOr services primary fallback session =
      match services.locate fallback with
      | .error other => .error (.fault other) noted
      | .ok path' =>
        match services.files.read path' with
        | .ok text =>
          (Session.resolve services (some path') text >>= finish) (noted.noted (.fileAsked path'))
        | .error other =>
          .error (other.failure (neither primary fallback path path'))
            (noted.noted (.fileAsked path')) := by
  intro noted
  cases fault with
  | undecodable bytes => cases hfault
  | _ =>
    simp only [resolveFileOr, load, hpath, hread, bind, EStateM.bind, liftM, monadLift,
      MonadLift.monadLift, pure, EStateM.pure, note_eq]
    cases services.locate fallback with
    | error other => rfl
    | ok path' =>
      cases hread' : services.files.read path' with
      | ok text => simp only [EStateM.pure, hread']; rfl
      | error other => cases other <;> simp only [EStateM.pure, hread'] <;> rfl

/-- A first document is resolved while no file is being resolved, and the resources tell the
truth. -/
theorem begins_of_starts {launch : Launch} {root : Option String} {text : String}
    (h : launch.Starts services root text) : ∃ session : Session, session.active = [] ∧
      session.resources.Truthful services.system ∧
      launch.resolve services fresh = (Session.resolve services root text >>= finish) session := by
  have htruthful := Resources.truthful_fresh services.system
  have hnoted (event : Event) : (fresh.noted event).resources.Truthful services.system :=
    htruthful.of_facts_eq rfl
  cases h with
  | entry h =>
    cases h with
    | text => exact ⟨fresh, rfl, htruthful, congrFun (resolveText_none text) _⟩
    | textAt hpath => exact ⟨fresh, rfl, htruthful, congrFun (resolveText_some hpath text) _⟩
    | file hpath hread => exact ⟨_, rfl, hnoted _, resolveFile_of_read hpath hread fresh⟩
  | primary hpath hread => exact ⟨_, rfl, hnoted _, resolveFileOr_of_read hpath hread _ fresh⟩
  | @fallback _ fallback _ _ _ _ hpath hread hfault hpath' hread' =>
    have hresolve := resolveFileOr_of_unavailable hpath hread hfault fallback fresh
    simp only [hpath', hread'] at hresolve
    exact ⟨_, rfl, htruthful.of_facts_eq rfl, hresolve⟩

theorem resolve_of_starts {launch : Launch} {root : Option String} {text : String}
    (h : launch.Starts services root text) : ∃ session : Session, session.active = [] ∧
      launch.resolve services fresh = (Session.resolve services root text >>= finish) session :=
  have ⟨session, hactive, _, hresolve⟩ := begins_of_starts h
  ⟨session, hactive, hresolve⟩

/-- Without a first document a resolution fails, and it fails at no line. -/
theorem fails_of_not_starts {launch : Launch}
    (h : ∀ root text, ¬ launch.Starts services root text) :
    ∃ failure after, launch.resolve services fresh = .error failure after ∧ after.active = [] ∧
      failure.IsNowhere := by
  have hunreadable (display path reason : String) : (unreadable display path reason).IsNowhere := by
    rintro d ⟨⟩
    rfl
  have hneither (primary fallback path path' reason : String) :
      (neither primary fallback path path' reason).IsNowhere := by
    rintro d ⟨⟩
    rfl
  cases launch with
  | entry e =>
    cases e with
    | text path content =>
      cases path with
      | none => exact absurd (.entry .text) (h none content)
      | some display =>
        cases hpath : services.locate display with
        | error fault => exact ⟨_, _, resolveText_of_fault hpath content fresh, rfl, nofun⟩
        | ok path => exact absurd (.entry (.textAt hpath)) (h (some path) content)
    | file display =>
      cases hpath : services.locate display with
      | error fault => exact ⟨_, _, resolveFile_of_fault hpath fresh, rfl, nofun⟩
      | ok path =>
        cases hread : services.files.read path with
        | error fault =>
          exact ⟨_, _, resolveFile_of_unreadable hpath hread fresh, rfl,
            fault.failure_isNowhere (hunreadable display path)⟩
        | ok content => exact absurd (.entry (.file hpath hread)) (h (some path) content)
  | fileOr primary fallback =>
    cases hpath : services.locate primary with
    | error fault => exact ⟨_, _, resolveFileOr_of_fault hpath fallback fresh, rfl, nofun⟩
    | ok path =>
      cases hread : services.files.read path with
      | ok content => exact absurd (.primary hpath hread) (h (some path) content)
      | error fault =>
        by_cases hfault : fault.reason?.isSome
        · have hresolve := resolveFileOr_of_unavailable hpath hread hfault fallback fresh
          cases hpath' : services.locate fallback with
          | error other =>
            simp only [hpath'] at hresolve
            exact ⟨_, _, hresolve, rfl, nofun⟩
          | ok path' =>
            cases hread' : services.files.read path' with
            | error other =>
              simp only [hpath', hread'] at hresolve
              exact ⟨_, _, hresolve, rfl, other.failure_isNowhere (hneither _ _ _ _)⟩
            | ok content =>
              exact absurd (.fallback hpath hread hfault hpath' hread') (h (some path') content)
        · cases fault with
          | undecodable bytes =>
            exact ⟨_, _, resolveFileOr_of_undecodable hpath hread fallback fresh, rfl, nofun⟩
          | _ => exact absurd rfl hfault

theorem resolve_of_not_starts {launch : Launch}
    (h : ∀ root text, ¬ launch.Starts services root text) :
    ∃ failure after, launch.resolve services fresh = .error failure after ∧ after.active = [] :=
  have ⟨failure, after, hresolve, hactive, _⟩ := fails_of_not_starts h
  ⟨failure, after, hresolve, hactive⟩

/-- Every resolution ends with a configuration or a failure, whatever files gather each
other, are missing or are broken.  Without a first document it fails; otherwise it does a
number of steps from that document on.  At every moment on the way the files being resolved
are different, and apart from that of the first document they can be read; so documents
are never nested deeper than there are such files and one more. -/
theorem resolve_terminates (services : Services) (launch : Launch) :
    (∃ root text session, launch.Starts services root text ∧ session.active = [] ∧
      launch.resolve services fresh = (Session.resolve services root text >>= finish) session ∧
      let first : Traversal := ⟨.enter root text, [], session⟩
      let last := Traversal.answered [] (Session.resolve services root text session)
      Traversal.step services last = none ∧ Traversal.Leads services first last ∧
      ∀ t, Traversal.Leads services first t →
        Traversal.Leads services t last ∧ t.session.active.Nodup ∧
        (∀ path ∈ t.session.active, root = some path ∨ path ∈ services.files.loadable) ∧
        t.depth ≤ services.files.loadable.card + 1) ∨
    (∀ root text, ¬ launch.Starts services root text) ∧
      ∃ failure after, launch.resolve services fresh = .error failure after ∧ after.active = [] := by
  by_cases hstarts : ∃ root text, launch.Starts services root text
  case neg =>
    have hnone : ∀ root text, ¬ launch.Starts services root text := fun root text h =>
      hstarts ⟨root, text, h⟩
    exact .inr ⟨hnone, resolve_of_not_starts hnone⟩
  obtain ⟨root, text, hstarts⟩ := hstarts
  obtain ⟨session, hactive, hresolve⟩ := resolve_of_starts hstarts
  refine .inl ⟨root, text, session, hstarts, hactive, hresolve, ?_⟩
  have hlast : Traversal.Leads services ⟨.enter root text, [], session⟩
      (.answered [] (Session.resolve services root text session)) :=
    Traversal.resolve_leads root text session hactive
  have hend : Traversal.step services
      (.answered [] (Session.resolve services root text session)) = none :=
    Traversal.step_answered _
  refine ⟨hend, hlast, fun t ht => ?_⟩
  have hstart : Traversal.Orderly services root ⟨.enter root text, [], session⟩ :=
    Traversal.Orderly.start text hactive
  have horderly := hstart.leads ht
  exact ⟨hlast.on hend ht, horderly.nodup, horderly.readable, horderly.depth_le⟩

end Launch

end Rune
