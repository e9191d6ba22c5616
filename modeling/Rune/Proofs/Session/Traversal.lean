import Rune.Proofs.Session.Steps
import Mathlib.Data.Finset.Card
import Mathlib.Logic.Relation

/-!
# Rune - a resolution step by step

A resolution can be told as a sequence of small steps on a list of documents, the
innermost one first: a document is entered, its next file is gathered, it is evaluated,
and its configuration or a failure is handed to the document around it.  Nothing bounds
the number of steps or the length of the list.

Main results:

- Structure {lit}`Traversal` is the state between two steps, {lit}`Traversal.step` does one
  step, and {lit}`Traversal.Leads` says what is come to by some number of them.
- Theorem {lit}`Traversal.resolve_leads`: the steps come to what the resolution gives.
- Theorem {lit}`Traversal.Leads.on`: whatever is come to on the way leads on to the end.
-/

namespace Rune

/-! ## States and steps -/

/-- A document that is being resolved: the configurations that it has gathered so far, and
the gathers that are left, the one at hand first. -/
structure Visit where
  path : Option String
  source : Source
  directory : String
  document : Document
  aliases : Entries Config
  rest : List Gather

/-- What is done next. -/
inductive Turn where
  /-- Resolve a document. -/
  | enter (path : Option String) (text : String)
  /-- Go on with the innermost document. -/
  | work
  /-- Hand a configuration to the document around. -/
  | give (config : Config)
  /-- Give the innermost document up. -/
  | fail (failure : Failure)

/-- A resolution between two steps, with the innermost document first. -/
structure Traversal where
  turn : Turn
  visits : List Visit
  session : Session

/-- The visit after its gather at hand came to a configuration. -/
def Visit.bind (visit : Visit) (config : Config) : Visit :=
  match visit.rest with
  | [] => visit
  | g :: gathers =>
    { visit with
      aliases := Entries.insert (Key.canonical g.aliasName) config visit.aliases
      rest := gathers }

@[simp] theorem Visit.bind_path (visit : Visit) (config : Config) :
    (visit.bind config).path = visit.path := by
  unfold bind
  split <;> rfl

/-- The session after the innermost document is no longer being resolved. -/
def Session.popped (path : Option String) (session : Session) : Session :=
  { session with active := if path.isSome then session.active.dropLast else session.active }

namespace Traversal

open Session

variable (services : Services)

/-- Begin to resolve a document. -/
def enter (path : Option String) (text : String) (visits : List Visit) (session : Session) :
    Traversal :=
  let source := Source.ofText text path
  match source.parse with
  | .error failure => ⟨.fail failure, visits, session⟩
  | .ok document =>
    match directoryOf services path with
    | .error fault => ⟨.fail (.fault fault), visits, session⟩
    | .ok directory =>
      ⟨.work, ⟨path, source, directory, document, [], document.gathers⟩ :: visits,
        session.entered path⟩

/-- Gather a file for the innermost document. -/
def gatherNext (g : Gather) (visit : Visit) (visits : List Visit) (session : Session) :
    Traversal :=
  let diagnose (complaint : Complaint) := visit.source.diagnose complaint g.range
  match FilePath.locate services.standpoint visit.directory g.path with
  | .error fault => ⟨.fail (.fault fault), visit :: visits, session⟩
  | .ok path =>
    if path ∈ session.active then
      ⟨.fail (cycle session.active path diagnose), visit :: visits, session⟩
    else
      match Entries.get? path session.modules with
      | some config => ⟨.give config, visit :: visits, session.noted (.reused path g.aliasName)⟩
      | none =>
        let asked := session.noted (.fileAsked path)
        match services.files.read path with
        | .error fault =>
          ⟨.fail (fault.failure (missing g · diagnose)), visit :: visits, asked⟩
        | .ok text =>
          ⟨.enter (some path) text, visit :: visits,
            asked.noted (.loaded path text.length g.aliasName)⟩

/-- Evaluate the innermost document. -/
def evaluateNext (visit : Visit) (visits : List Visit) (session : Session) : Traversal :=
  match evaluate (.ofDocument visit.source services visit.document visit.aliases) session with
  | .ok config after =>
    ⟨.give config, visits, (after.popped visit.path).published visit.path config⟩
  | .error failure after => ⟨.fail failure, visit :: visits, after⟩

/-- One step; there is none after the first document has been left. -/
def step : Traversal → Option Traversal
  | ⟨.enter path text, visits, session⟩ => some (enter services path text visits session)
  | ⟨_, [], _⟩ => none
  | ⟨.work, visit :: visits, session⟩ =>
    match visit.rest with
    | [] => some (evaluateNext services visit visits session)
    | g :: _ => some (gatherNext services g visit visits session)
  | ⟨.give config, visit :: visits, session⟩ => some ⟨.work, visit.bind config :: visits, session⟩
  | ⟨.fail failure, visit :: visits, session⟩ =>
    some ⟨.fail failure, visits, session.popped visit.path⟩

/-- Some number of steps leads from one state to another. -/
abbrev Leads : Traversal → Traversal → Prop :=
  Relation.ReflTransGen fun t next => step services t = some next

/-- The state in which the result of a document is handed to the documents around. -/
def answered (visits : List Visit) : EStateM.Result Failure Session Config → Traversal
  | .ok config after => ⟨.give config, visits, after⟩
  | .error failure after => ⟨.fail failure, visits, after⟩

/-- How many documents are being resolved, one within another. -/
def depth (t : Traversal) : Nat :=
  match t.turn with
  | .enter _ _ => t.visits.length + 1
  | _ => t.visits.length

variable {services}

/-- A resolution that is over does not go on. -/
theorem step_answered (result : EStateM.Result Failure Session Config) :
    step services (answered [] result) = none := by
  cases result <;> rfl

/-- What a resolution comes to on its way leads on to its end. -/
theorem Leads.on {first t last : Traversal} (hlast : Leads services first last)
    (hend : step services last = none) (ht : Leads services first t) : Leads services t last := by
  have hunique : Relator.RightUnique fun t next : Traversal => step services t = some next :=
    fun t next next' h h' => Option.some.inj (h.symm.trans h')
  rcases Relation.ReflTransGen.total_of_right_unique hunique ht hlast with h | h
  · exact h
  · -- Nothing lies behind the end.
    cases Relation.ReflTransGen.cases_head h with
    | inl heq => exact heq ▸ .refl
    | inr hstep =>
      obtain ⟨next, hnext, -⟩ := hstep
      rw [hend] at hnext
      cases hnext

/-! ## Files being resolved -/

/-- The session that a computation leaves behind. -/
def sessionOf {α : Type} : EStateM.Result Failure Session α → Session
  | .ok _ after => after
  | .error _ after => after

/-- A computation leaves as many files being resolved as before. -/
def Steady {α : Type} (x : Resolve α) : Prop :=
  ∀ session, (sessionOf (x session)).active = session.active

namespace Steady

variable {α β : Type} {resolver : Resolver}

theorem pure (a : α) : Steady (pure a) := fun _ => rfl

theorem bind {x : Resolve α} {f : α → Resolve β} (hx : Steady x) (hf : ∀ a, Steady (f a)) :
    Steady (x >>= f) := by
  intro session
  have first := hx session
  simp only [Bind.bind, EStateM.bind]
  cases hrun : x session with
  | error failure after =>
    rw [hrun] at first
    exact first
  | ok a after =>
    rw [hrun] at first
    exact (hf a after).trans first

theorem evaluate (scope : Scope) : Steady (Session.evaluate scope) := by
  intro session
  unfold Session.evaluate
  cases scope.evaluate (.fresh session.resources) <;> rfl

theorem gather (hresolver : ∀ path text, Steady (resolver path text)) (source : Source)
    (directory : String) (g : Gather) :
    Steady (Session.gather services resolver source directory g) := by
  intro session
  have step := gather_step services resolver source directory g session
  generalize Session.gather services resolver source directory g session = result at step ⊢
  cases step with
  | nowhere | cycle | known | unreadable => rfl
  | anew => exact hresolver _ _ _

theorem gatherAll (hresolver : ∀ path text, Steady (resolver path text)) (source : Source)
    (directory : String) (aliases : Entries Config) (gathers : List Gather) :
    Steady (Session.gatherAll services resolver source directory aliases gathers) := by
  induction gathers generalizing aliases with
  | nil => exact pure _
  | cons g gathers ih => exact (gather hresolver source directory g).bind fun _ => ih _

theorem resolveUsing (path : Option String) (text : String) :
    Steady (Session.resolveUsing services resolver path text) := by
  intro session
  have step := resolve_step services resolver path text session
  generalize Session.resolveUsing services resolver path text session = result at step ⊢
  cases step with
  | unparsed | homeless | stopped | resolved => rfl

theorem resolverWith (depth : Nat) (path text : String) :
    Steady (Session.resolverWith services depth path text) := by
  cases depth with
  | zero => exact fun _ => rfl
  | succ depth => exact resolveUsing (some path) text

end Steady

/-- Leaving a document that was entered brings the files being resolved back. -/
theorem popped_of_active {path : Option String} {before after : Session}
    (h : after.active = (before.entered path).active) :
    after.popped path = before.left after := by
  cases path with
  | none => simp [popped, left, entered, h]
  | some path => simp [popped, left, entered, h]

/-! ## The steps come to the result -/

/-- A document that fails is left. -/
theorem fail_leads {visit : Visit} (visits : List Visit) (failure : Failure)
    {before after : Session} (hactive : after.active = (before.entered visit.path).active) :
    Leads services ⟨.fail failure, visit :: visits, after⟩
      ⟨.fail failure, visits, before.left after⟩ := by
  rw [← popped_of_active hactive]
  exact .single rfl

/-- Evaluating a document that has gathered all its files and was entered before leads to its
result. -/
theorem evaluate_leads {visit : Visit} (hrest : visit.rest = []) (visits : List Visit)
    {before session : Session} (hactive : session.active = (before.entered visit.path).active) :
    Leads services ⟨.work, visit :: visits, session⟩
      (answered visits
        (match evaluate (.ofDocument visit.source services visit.document visit.aliases) session with
        | .ok config after => .ok config ((before.left after).published visit.path config)
        | .error failure after => .error failure (before.left after))) := by
  have hstep : step services ⟨.work, visit :: visits, session⟩ =
      some (evaluateNext services visit visits session) := by
    simp [step, hrest]
  have hkept := Steady.evaluate (.ofDocument visit.source services visit.document visit.aliases)
    session
  unfold evaluateNext at hstep
  generalize evaluate (.ofDocument visit.source services visit.document visit.aliases) session =
    result at hkept hstep ⊢
  cases result with
  | ok config after =>
    have hpop : after.popped visit.path = before.left after :=
      popped_of_active (hkept.trans hactive)
    dsimp only at hstep ⊢
    rw [hpop] at hstep
    exact .single hstep
  | error failure after => exact .head hstep (fail_leads visits failure (hkept.trans hactive))

section

variable {resolver : Resolver} (hsteady : ∀ path text, Steady (resolver path text))
include hsteady

/-- Gathering the rest of a document, if entering the files leads to what they are resolved
to. -/
theorem gatherAll_leads {active : List String}
    (hresolver : ∀ path text visits session, session.active = active → path ∉ active →
      services.files.read path = .ok text →
      Leads services ⟨.enter (some path) text, visits, session⟩
        (answered visits (resolver path text session)))
    (visit : Visit) (visits : List Visit) (session : Session) (hactive : session.active = active) :
    match gatherAll services resolver visit.source visit.directory visit.aliases visit.rest
      session with
    | .ok aliases after => Leads services ⟨.work, visit :: visits, session⟩
        ⟨.work, { visit with aliases := aliases, rest := [] } :: visits, after⟩
    | .error failure after => ∃ aliases rest, Leads services ⟨.work, visit :: visits, session⟩
        ⟨.fail failure, { visit with aliases := aliases, rest := rest } :: visits, after⟩ := by
  obtain ⟨path, source, directory, document, aliases, rest⟩ := visit
  induction rest generalizing aliases session with
  | nil => exact .refl
  | cons g rest ih =>
    -- The gather at hand leads to its result, in whatever way it comes about.
    have first : Leads services
        ⟨.work, ⟨path, source, directory, document, aliases, g :: rest⟩ :: visits, session⟩
        (answered (⟨path, source, directory, document, aliases, g :: rest⟩ :: visits)
          (gather services resolver source directory g session)) := by
      have hstep : step services
          ⟨.work, ⟨path, source, directory, document, aliases, g :: rest⟩ :: visits, session⟩ =
          some (gatherNext services g ⟨path, source, directory, document, aliases, g :: rest⟩
            visits session) := rfl
      have gathered := gather_step services resolver source directory g session
      generalize gather services resolver source directory g session = result at gathered ⊢
      cases gathered with
      | nowhere hpath => exact .single (by simp [hstep, gatherNext, hpath, answered])
      | cycle hpath hmem => exact .single (by simp [hstep, gatherNext, hpath, hmem, answered])
      | known hpath hnew hmodule =>
        exact .single (by simp [hstep, gatherNext, hpath, hnew, hmodule, answered])
      | unreadable hpath hnew hmodule hread =>
        exact .single (by simp [hstep, gatherNext, hpath, hnew, hmodule, hread, answered])
      | anew hpath hnew hmodule hread =>
        refine .head (by simp [hstep, gatherNext, hpath, hnew, hmodule, hread]; rfl) ?_
        exact hresolver _ _ _ _ hactive (hactive ▸ hnew) hread
    have hkept : (sessionOf (gather services resolver source directory g session)).active =
        session.active := Steady.gather hsteady source directory g session
    simp only [gatherAll, bind, EStateM.bind]
    cases hrun : gather services resolver source directory g session with
    | error failure after =>
      rw [hrun] at first
      exact ⟨aliases, g :: rest, first⟩
    | ok config after =>
      rw [hrun] at first hkept
      have rest' := ih after (hkept.trans hactive)
        (Entries.insert (Key.canonical g.aliasName) config aliases)
      have next := first.tail (c := ⟨.work, ⟨path, source, directory, document,
        Entries.insert (Key.canonical g.aliasName) config aliases, rest⟩ :: visits, after⟩) rfl
      dsimp only at rest' ⊢
      generalize gatherAll services resolver source directory _ rest after = result at rest' ⊢
      cases result with
      | ok aliases' last => exact next.trans rest'
      | error failure last =>
        obtain ⟨aliases', rest'', hleads⟩ := rest'
        exact ⟨aliases', rest'', next.trans hleads⟩

/-- Entering a document leads to its result, if entering its files does. -/
theorem resolveUsing_leads {path : Option String} {active : List String}
    (hresolver : ∀ other text visits session, session.active = active ++ path.toList →
      other ∉ active ++ path.toList → services.files.read other = .ok text →
      Leads services ⟨.enter (some other) text, visits, session⟩
        (answered visits (resolver other text session)))
    (text : String) (visits : List Visit) (session : Session) (hactive : session.active = active) :
    Leads services ⟨.enter path text, visits, session⟩
      (answered visits (resolveUsing services resolver path text session)) := by
  cases hparse : (Source.ofText text path).parse with
  | error failure =>
    simp only [resolveUsing, hparse]
    exact .single (by simp only [step, enter, hparse]; rfl)
  | ok document =>
    cases hdirectory : directoryOf services path with
    | error fault =>
      simp only [resolveUsing, hparse, hdirectory]
      exact .single (by simp only [step, enter, hparse, hdirectory]; rfl)
    | ok directory =>
      have hstep : step services ⟨.enter path text, visits, session⟩ =
          some ⟨.work, ⟨path, .ofText text path, directory, document, [], document.gathers⟩ ::
            visits, session.entered path⟩ := by
        simp [step, enter, hparse, hdirectory]
      have hentered : (session.entered path).active = active ++ path.toList := by
        rw [← hactive]
        rfl
      have hgathers := gatherAll_leads hsteady hresolver
        ⟨path, .ofText text path, directory, document, [], document.gathers⟩ visits
        (session.entered path) hentered
      have hkept : (sessionOf (gatherAll services resolver (.ofText text path) directory []
          document.gathers (session.entered path))).active = (session.entered path).active :=
        Steady.gatherAll hsteady _ directory [] document.gathers (session.entered path)
      rw [resolveUsing_of_parse hparse hdirectory]
      simp only [contents, bind, EStateM.bind]
      dsimp only at hgathers
      generalize gatherAll services resolver (.ofText text path) directory [] document.gathers
        (session.entered path) = result at hgathers hkept ⊢
      cases result with
      | error failure after =>
        obtain ⟨aliases, rest, hleads⟩ := hgathers
        exact .head hstep (hleads.trans (fail_leads visits failure hkept))
      | ok aliases after => exact .head hstep (hgathers.trans (evaluate_leads rfl visits hkept))

end

/-- Entering a file leads to what it is resolved to, while the first document is being
resolved. -/
theorem resolver_leads {root : Option String} {path text : String} (hnew : path ∉ root.toList)
    (hread : services.files.read path = .ok text) (visits : List Visit) (session : Session)
    (hactive : session.active = root.toList) :
    Leads services ⟨.enter (some path) text, visits, session⟩
      (answered visits (resolverWith services services.files.known.length path text session)) := by
  refine resolver_induction (P := fun rest path text resolver => ∀ visits session,
    session.active = root.toList ++ rest →
      Leads services ⟨.enter (some path) text, visits, session⟩
        (answered visits (resolver path text session))) ?_ hnew hread visits session
      (by simpa using hactive)
  intro depth rest path text _ _ ih visits session hactive
  refine resolveUsing_leads (Steady.resolverWith depth) ?_ text visits session hactive
  intro other text' visits' session' hactive' hother hread'
  rw [Option.toList_some, List.append_assoc] at hactive' hother
  exact ih other text' hother hread' visits' session' hactive'

/-- Entering the first document leads to what it is resolved to. -/
theorem resolve_leads (root : Option String) (text : String) (session : Session)
    (hactive : session.active = []) :
    Leads services ⟨.enter root text, [], session⟩
      (answered [] (resolve services root text session)) := by
  refine resolveUsing_leads (Steady.resolverWith _) ?_ text [] session hactive
  intro other text' visits session' hactive' hother hread
  rw [List.nil_append] at hactive' hother
  exact resolver_leads hother hread visits session' hactive'

end Traversal

end Rune
