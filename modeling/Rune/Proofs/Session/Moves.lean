import Rune.Proofs.Evaluation.Watching
import Rune.Proofs.Session.Termination

/-!
# Rune - what a step does to a session

A step of a resolution enters a document, gathers a file, evaluates a document, or hands its
result to the document around.  Little of this touches the session: a file that is asked for
is recorded, an evaluation consults the resources, and a document that was evaluated is put
into the table of modules when it is left.

Main results:

- Type {lit}`Traversal.Moves` lists what a step can do, with the theorem
  {lit}`Traversal.moves_of_step` that there is nothing else.
- Theorem {lit}`Session.evaluate_consults`: what an evaluation does to a session.
- Theorem {lit}`Traversal.Leads.proceeded`: what any number of steps does to the resources.
-/

namespace Rune

/-- What the names of a document mean after it has gathered its files. -/
def Visit.scope (services : Services) (visit : Visit) : Scope :=
  .ofDocument visit.source services visit.document visit.aliases

/-- Evaluating a document consults the resources and leaves the rest of the session as it is.  The
patterns of its raw strings are in their places afterwards. -/
theorem Session.evaluate_consults (scope : Scope) (session : Session) :
    ∃ resources, Traversal.sessionOf (evaluate scope session) =
        { session with resources := resources } ∧
      Resources.Consulted scope.services.system session.resources resources ∧
      ∀ issue ∈ scope.issues session.resources, issue.Stands resources.patterns := by
  have hstands := scope.evaluate_stands session.resources
  unfold evaluate
  generalize scope.evaluate (.fresh session.resources) = result at hstands ⊢
  cases result with
  | ok config memory | error flaw memory => exact ⟨memory.resources, rfl, hstands⟩

namespace Traversal

open Session

/-- The raw strings that are evaluated with the innermost document, if it has gathered its
files. -/
def issues (services : Services) : Traversal → List Issue
  | ⟨.work, visit :: _, session⟩ =>
    match visit.rest with
    | [] => (visit.scope services).issues session.resources
    | _ :: _ => []
  | _ => []

/-! ## Steps -/

/-- What a step can do.  A document is refused or entered.  A gather fails before a file is asked
for, finds the configuration of the file, or asks for the file, which cannot be read or is
entered.  The innermost document is evaluated and left, or has a flaw.  A configuration is given
to the document around, and a failure leaves the innermost document. -/
inductive Moves (services : Services) : Traversal → Traversal → Prop
  | refused {path : Option String} {text : String} {visits : List Visit} {session : Session}
      {failure : Failure} :
      Moves services ⟨.enter path text, visits, session⟩ ⟨.fail failure, visits, session⟩
  | entered {path : Option String} {text : String} {visits : List Visit} {session : Session}
      {visit : Visit} : visit.path = path →
      Moves services ⟨.enter path text, visits, session⟩
        ⟨.work, visit :: visits, session.entered path⟩
  | strayed {visit : Visit} {visits : List Visit} {session : Session} {failure : Failure} :
      Moves services ⟨.work, visit :: visits, session⟩
        ⟨.fail failure, visit :: visits, session⟩
  | reused {visit : Visit} {visits : List Visit} {session : Session} {path aliasName : String}
      {config : Config} : Entries.get? path session.modules = some config →
      Moves services ⟨.work, visit :: visits, session⟩
        ⟨.give config, visit :: visits, session.noted (.reused path aliasName)⟩
  | unreadable {visit : Visit} {visits : List Visit} {session : Session} {path : String}
      {failure : Failure} : path ∉ session.active → Entries.get? path session.modules = none →
      Moves services ⟨.work, visit :: visits, session⟩
        ⟨.fail failure, visit :: visits, session.noted (.fileAsked path)⟩
  | read {visit : Visit} {visits : List Visit} {session : Session} {path text aliasName : String} :
      path ∉ session.active → Entries.get? path session.modules = none →
      services.files.read path = .ok text →
      Moves services ⟨.work, visit :: visits, session⟩ ⟨.enter (some path) text, visit :: visits,
        (session.noted (.fileAsked path)).noted (.loaded path text.length aliasName)⟩
  | evaluated {visit : Visit} {visits : List Visit} {session : Session} {resources : Resources}
      {config : Config} : visit.rest = [] →
      evaluate (visit.scope services) session = .ok config { session with resources := resources } →
      Resources.Consulted services.system session.resources resources →
      Moves services ⟨.work, visit :: visits, session⟩ ⟨.give config, visits,
        (popped visit.path { session with resources := resources }).published visit.path config⟩
  | flawed {visit : Visit} {visits : List Visit} {session : Session} {resources : Resources}
      {failure : Failure} : Resources.Consulted services.system session.resources resources →
      Moves services ⟨.work, visit :: visits, session⟩
        ⟨.fail failure, visit :: visits, { session with resources := resources }⟩
  | given {visit visit' : Visit} {visits : List Visit} {session : Session} {config : Config} :
      visit'.path = visit.path →
      Moves services ⟨.give config, visit :: visits, session⟩ ⟨.work, visit' :: visits, session⟩
  | left {visit : Visit} {visits : List Visit} {session : Session} {failure : Failure} :
      Moves services ⟨.fail failure, visit :: visits, session⟩
        ⟨.fail failure, visits, session.popped visit.path⟩

variable {services : Services} {t next : Traversal}

theorem enter_moves (path : Option String) (text : String) (visits : List Visit)
    (session : Session) :
    Moves services ⟨.enter path text, visits, session⟩
      (enter services path text visits session) := by
  unfold enter
  dsimp only
  split
  · exact .refused
  · split
    · exact .refused
    · exact .entered rfl

theorem gatherNext_moves (g : Gather) (visit : Visit) (visits : List Visit) (session : Session) :
    Moves services ⟨.work, visit :: visits, session⟩
      (gatherNext services g visit visits session) := by
  unfold gatherNext
  dsimp only
  split
  · exact .strayed
  · split
    · exact .strayed
    · rename_i hnew
      split
      · rename_i hmodule
        exact .reused hmodule
      · rename_i hmodule
        split
        · exact .unreadable hnew hmodule
        · rename_i hread
          exact .read hnew hmodule hread

theorem evaluateNext_moves {visit : Visit} (hrest : visit.rest = []) (visits : List Visit)
    (session : Session) :
    Moves services ⟨.work, visit :: visits, session⟩
      (evaluateNext services visit visits session) := by
  obtain ⟨resources, hafter, hconsulted, -⟩ := evaluate_consults (visit.scope services) session
  unfold evaluateNext
  split
  · rename_i config after hevaluate
    rw [Visit.scope, hevaluate] at hafter
    obtain rfl : after = { session with resources := resources } := hafter
    exact .evaluated hrest hevaluate hconsulted
  · rename_i failure after hevaluate
    rw [Visit.scope, hevaluate] at hafter
    obtain rfl : after = { session with resources := resources } := hafter
    exact .flawed hconsulted

/-- A step does nothing else. -/
theorem moves_of_step (hstep : step services t = some next) : Moves services t next := by
  obtain ⟨turn, visits, session⟩ := t
  cases turn with
  | enter path text =>
    cases hstep
    exact enter_moves path text visits session
  | work =>
    cases visits with
    | nil => cases hstep
    | cons visit visits =>
      simp only [step] at hstep
      split at hstep <;> cases hstep
      · rename_i hrest
        exact evaluateNext_moves hrest visits session
      · exact gatherNext_moves _ visit visits session
  | give config =>
    cases visits with
    | nil => cases hstep
    | cons visit visits =>
      cases hstep
      exact .given (visit.bind_path config)
  | fail failure =>
    cases visits with
    | nil => cases hstep
    | cons visit visits =>
      cases hstep
      exact .left

/-- The state after a number of steps, if there are so many. -/
def after (services : Services) : Nat → Traversal → Option Traversal
  | 0, t => some t
  | n + 1, t => (step services t).bind (after services n)

/-- A number of steps leads to the state after them. -/
theorem leads_of_after {n : Nat} (h : after services n t = some next) : Leads services t next := by
  induction n generalizing t with
  | zero =>
    cases h
    exact .refl
  | succ n ih =>
    obtain ⟨mid, hstep, hmid⟩ := Option.bind_eq_some_iff.mp h
    exact .head hstep (ih hmid)

/-- The innermost document is the last one of those being resolved. -/
theorem Nested.active_eq {root : Option String} {visit : Visit} {visits : List Visit}
    {active : List String} (h : Nested services root (visit :: visits) active) :
    active = (if visit.path.isSome then active.dropLast else active) ++ visit.path.toList := by
  cases h with
  | first hroot => cases root <;> simp [hroot]
  | next _ hfile _ _ => simp [hfile]

end Traversal

/-! ## Sessions and resources -/

/-- The documents that are known after one more was put into the table. -/
theorem Session.mem_keys_published {path : Option String} {config : Config} {session : Session}
    {other : String} : other ∈ Entries.keys (session.published path config).modules ↔
      other ∈ path.toList ∨ other ∈ Entries.keys session.modules := by
  cases path with
  | none => simp [published, noted]
  | some path => simp [published, noted, Entries.mem_keys_insert]

namespace Traversal

open Session

variable {services : Services} {t next : Traversal}

/-- A raw string that is evaluated is evaluated in the next step, after which its pattern is in its
place. -/
theorem exists_step_stands {issue : Issue} (h : issue ∈ t.issues services) :
    ∃ next, step services t = some next ∧ issue.Stands next.session.resources.patterns := by
  unfold issues at h
  split at h
  · rename_i visit visits session
    split at h
    · rename_i hrest
      obtain ⟨resources, hafter, -, hstands⟩ := evaluate_consults (visit.scope services) session
      cases hevaluate : evaluate (visit.scope services) session with
      | ok config after | error failure after =>
        rw [hevaluate] at hafter
        obtain rfl : after = { session with resources := resources } := hafter
        rw [Visit.scope] at hevaluate
        exact ⟨_, by simp only [step, hrest, evaluateNext, hevaluate]; rfl, hstands issue h⟩
    · cases h
  · cases h

/-- A step consults the resources, or records an event beside. -/
theorem Moves.proceeded (h : Moves services t next) :
    Resources.Proceeded services.system t.session.resources next.session.resources := by
  cases h with
  | refused | entered | strayed | given | left => exact .refl
  | reused | unreadable => exact .single (.notes _ rfl rfl)
  | read => exact .tail (.single (.notes _ rfl rfl)) (.notes _ rfl rfl)
  | evaluated _ _ hconsulted => exact .tail hconsulted.proceeded (.notes _ rfl rfl)
  | flawed hconsulted => exact hconsulted.proceeded

/-- So does any number of steps. -/
theorem Leads.proceeded (h : Leads services t next) :
    Resources.Proceeded services.system t.session.resources next.session.resources := by
  induction h with
  | refl => exact .refl
  | tail _ hstep ih => exact ih.trans (moves_of_step hstep).proceeded

end Traversal

end Rune
