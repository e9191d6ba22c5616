import Rune.Proofs.Session.Moves

/-!
# Rune - a session survives failures

A session can serve one request after another, and the files, the environment and the facts may
change in between.  A file that is being resolved is not known yet, and it becomes known when it
is left with a configuration.  So whatever a request comes to, it overwrites nothing that is
known but the configuration under its own path, and that only at its very end; a request that
fails leaves behind the files that were completed on its way, and nothing else.

Main results:

- Structure {lit}`Traversal.Unfinished` is the invariant of the steps, with the theorem
  {lit}`Traversal.Unfinished.step` that every step keeps it.
- Theorems {lit}`Traversal.Unfinished.get?_modules` and
  {lit}`Traversal.Unfinished.get?_modules_of_leads`: what one step and any number of steps do to
  the table of modules.
- Structure {lit}`Session.Survives` says what a request leaves behind, and theorem
  {lit}`Session.served_survives` that every request does in every session.
-/

namespace Rune

namespace Traversal

open Session

variable {services : Services} {root : Option String} {t next : Traversal}

/-! ## Files that are being resolved -/

/-- The innermost document has gathered its files, and it is evaluated to a configuration, which
is put into the table of modules under the path of the document. -/
def Completes (services : Services) (t : Traversal) (path : String) (config : Config) : Prop :=
  ∃ visit visits session after, t = ⟨.work, visit :: visits, session⟩ ∧ visit.rest = [] ∧
    visit.path = some path ∧ evaluate (visit.scope services) session = .ok config after

/-- The first document has been left with a configuration. -/
def Succeeds (t : Traversal) : Prop := t.visits = [] ∧ ∃ config, t.turn = .give config

theorem Succeeds.step_eq_none (h : t.Succeeds) : step services t = none := by
  obtain ⟨turn, visits, session⟩ := t
  obtain ⟨hvisits, config, hturn⟩ := h
  subst hvisits hturn
  rfl

/-- A document with the path of the first document is the first document. -/
theorem Nested.visits_eq_nil {visit : Visit} {visits : List Visit} {active : List String}
    (h : Nested services root (visit :: visits) active) {path : String}
    (hpath : visit.path = some path) (hroot : root = some path) : visits = [] := by
  cases h with
  | first => rfl
  | next houter hfile hnew _ =>
    obtain ⟨rest, rfl, -, -, -⟩ := houter.exists_distinct
    rw [hpath] at hfile
    cases hfile
    simp [hroot] at hnew

/-- Documents are nested, and a file that is being resolved or is entered next is not known, apart
from that of the first document. -/
structure Unfinished (services : Services) (root : Option String) (t : Traversal) : Prop where
  orderly : Orderly services root t
  active : ∀ path ∈ t.session.active, root ≠ some path →
    Entries.get? path t.session.modules = none
  entered : ∀ path text, t.turn = .enter (some path) text → t.visits ≠ [] →
    Entries.get? path t.session.modules = none

namespace Unfinished

/-- The state before the first document. -/
theorem start (text : String) {session : Session} (hactive : session.active = []) :
    Unfinished services root ⟨.enter root text, [], session⟩ :=
  ⟨.start text hactive, by simp [hactive], fun _ _ _ hvisits => absurd rfl hvisits⟩

/-- The innermost document is not known, or it is the first one. -/
theorem unknown_or_first {turn : Turn} {visit : Visit} {visits : List Visit} {session : Session}
    (h : Unfinished services root ⟨turn, visit :: visits, session⟩) {path : String}
    (hpath : visit.path = some path) :
    root ≠ some path ∧ Entries.get? path session.modules = none ∨
      root = some path ∧ visits = [] := by
  have hnested := h.orderly.nested
  by_cases hroot : root = some path
  · exact .inr ⟨hroot, hnested.visits_eq_nil hpath hroot⟩
  · refine .inl ⟨hroot, h.active path ?_ hroot⟩
    rw [hnested.active_eq, hpath]
    simp

/-- A step changes what is known under a path only if it completes the document with that path.
That document is not known yet, or it is the first one, and the resolution is over. -/
theorem get?_modules (h : Unfinished services root t) (hmoves : Moves services t next)
    (path : String) :
    Entries.get? path next.session.modules = Entries.get? path t.session.modules ∨
      ∃ config, t.Completes services path config ∧
        Entries.get? path next.session.modules = some config ∧
        (root ≠ some path ∧ Entries.get? path t.session.modules = none ∨
          root = some path ∧ next.Succeeds) := by
  cases hmoves with
  | refused | entered | strayed | reused | unreadable | read | flawed | given | left =>
    exact .inl rfl
  | @evaluated visit visits session resources config hrest hevaluate _ =>
    cases hown : visit.path with
    | none => exact .inl rfl
    | some own =>
      simp only [published, noted, popped]
      by_cases hpath : path = own
      · subst hpath
        refine .inr ⟨config, ⟨visit, visits, session, _, rfl, hrest, hown, hevaluate⟩,
          Entries.get?_insert_self _ _ _, ?_⟩
        exact (h.unknown_or_first hown).imp_right
          (And.imp_right fun hvisits => ⟨hvisits, config, rfl⟩)
      · exact .inl (Entries.get?_insert_of_ne hpath _ _)

/-- Every step keeps the invariant. -/
theorem step (h : Unfinished services root t) (hstep : step services t = some next) :
    Unfinished services root next := by
  have horderly := h.orderly.step hstep
  have hmoves := moves_of_step hstep
  cases hmoves with
  | refused | strayed | reused | unreadable | flawed | given =>
    exact ⟨horderly, h.active, by simp⟩
  | read _ hmodule =>
    refine ⟨horderly, h.active, ?_⟩
    rintro path text ⟨⟩ -
    exact hmodule
  | @entered path text visits session visit hpath =>
    refine ⟨horderly, fun other hother hroot => ?_, by simp⟩
    obtain hactive | hmem := List.mem_append.mp hother
    · exact h.active other hactive hroot
    · obtain rfl := Option.mem_toList.mp hmem
      refine h.entered other text rfl fun hvisits => hroot ?_
      obtain ⟨-, hfirst⟩ | ⟨_, _, _, hnext, -⟩ := h.orderly.enters _ text rfl
      · exact hfirst.symm
      · exact absurd (hvisits.symm.trans hnext) (by simp)
  | left =>
    refine ⟨horderly, fun other hother hroot => h.active other ?_ hroot, by simp⟩
    dsimp only [popped] at hother
    split at hother
    · exact List.mem_of_mem_dropLast hother
    · exact hother
  | @evaluated visit visits session resources config hrest hevaluate _ =>
    refine ⟨horderly, fun other hother hroot => ?_, by simp⟩
    -- The document that is left is none of those that are still being resolved.
    have hnested := h.orderly.nested.active_eq
    have hnodup := h.orderly.nodup
    dsimp only at hnested hnodup
    rw [hnested, List.nodup_append] at hnodup
    have hunknown := h.active other (hnested ▸ List.mem_append_left _ hother) hroot
    rw [Entries.get?_eq_none_iff] at hunknown ⊢
    dsimp only
    rw [mem_keys_published]
    rintro (hmem | hmem)
    · exact hnodup.2.2 other hother other hmem rfl
    · exact hunknown hmem

/-- Any number of steps keeps the invariant. -/
theorem leads (h : Unfinished services root t) (hleads : Leads services t next) :
    Unfinished services root next := by
  induction hleads with
  | refl => exact h
  | tail _ hstep ih => exact ih.step hstep

/-- What is known under a path stays as it is, unless there was nothing before, or the path is that
of the first document, and the resolution is over. -/
theorem get?_modules_of_leads (h : Unfinished services root t) (hleads : Leads services t next)
    (path : String) :
    Entries.get? path next.session.modules = Entries.get? path t.session.modules ∨
      (root ≠ some path ∧ Entries.get? path t.session.modules = none) ∨
      root = some path ∧ next.Succeeds := by
  induction hleads with
  | refl => exact .inl rfl
  | @tail mid next hleads hstep ih =>
    obtain hsame | hnone | ⟨-, hsucceeds⟩ := ih
    · obtain hstay | ⟨config, -, -, ⟨hroot, hnone⟩ | hsucceeds⟩ :=
        (h.leads hleads).get?_modules (moves_of_step hstep) path
      · exact .inl (hstay.trans hsame)
      · exact .inr (.inl ⟨hroot, hsame ▸ hnone⟩)
      · exact .inr (.inr hsucceeds)
    · exact .inr (.inl hnone)
    · rw [hsucceeds.step_eq_none] at hstep
      cases hstep

/-- What is known under a path other than that of the first document stays known. -/
theorem get?_of_leads (h : Unfinished services root t)
    (hleads : Leads services t next) {path : String} {config : Config} (hroot : root ≠ some path)
    (hget : Entries.get? path t.session.modules = some config) :
    Entries.get? path next.session.modules = some config := by
  obtain hsame | ⟨-, hnone⟩ | ⟨heq, -⟩ := h.get?_modules_of_leads hleads path
  · exact hsame.trans hget
  · rw [hget] at hnone
    cases hnone
  · exact absurd heq hroot

/-- What is known was known before, or it was completed on the way. -/
theorem exists_completes (h : Unfinished services root t) (hleads : Leads services t next)
    {path : String} {config : Config}
    (hget : Entries.get? path next.session.modules = some config) :
    Entries.get? path t.session.modules = some config ∨
      ∃ mid, Leads services t mid ∧ mid.Completes services path config := by
  induction hleads with
  | refl => exact .inl hget
  | @tail mid next hleads hstep ih =>
    obtain hstay | ⟨config', hcompletes, hget', -⟩ :=
      (h.leads hleads).get?_modules (moves_of_step hstep) path
    · exact ih (hstay ▸ hget)
    · rw [hget', Option.some.injEq] at hget
      exact .inr ⟨mid, hleads, hget ▸ hcompletes⟩

end Unfinished

/-- A document that is completed is known in the next step.  It was not known before, or it is the
first one, and the resolution is over. -/
theorem Completes.exists_step {path : String} {config : Config}
    (h : t.Completes services path config) (ht : Unfinished services root t) :
    ∃ next, step services t = some next ∧
      Entries.get? path next.session.modules = some config ∧
      (root ≠ some path ∧ Entries.get? path t.session.modules = none ∨ next.Succeeds) := by
  obtain ⟨visit, visits, session, after, rfl, hrest, hpath, hevaluate⟩ := h
  rw [Visit.scope] at hevaluate
  refine ⟨_, by simp only [step, hrest, evaluateNext, hevaluate]; rfl, ?_,
    (ht.unknown_or_first hpath).imp_right fun hfirst => ⟨hfirst.2, config, rfl⟩⟩
  simp only [published, noted, hpath]
  exact Entries.get?_insert_self _ _ _

/-! ## Failures -/

/-- Once a resolution has failed, documents are left, and nothing becomes known. -/
theorem modules_of_fail {failure : Failure} (hleads : Leads services t next)
    (hturn : t.turn = .fail failure) : next.session.modules = t.session.modules := by
  suffices hall : next.turn = .fail failure ∧ next.session.modules = t.session.modules from hall.2
  induction hleads with
  | refl => exact ⟨hturn, rfl⟩
  | @tail mid next _ hstep ih =>
    obtain ⟨turn, visits, session⟩ := mid
    obtain ⟨rfl, hmodules⟩ := ih
    cases visits with
    | nil => cases hstep
    | cons visit visits =>
      cases hstep
      exact ⟨rfl, hmodules⟩

section

variable {first last : Traversal} (hfirst : Unfinished services root first)
  (hlast : Leads services first last) (hfails : ¬ last.Succeeds)
include hfirst hlast hfails

/-- What is known under the path of the first document stays as it is. -/
theorem get?_root_last {path : String} (hroot : root = some path) :
    Entries.get? path last.session.modules = Entries.get? path first.session.modules := by
  obtain hsame | ⟨hne, -⟩ | ⟨-, hsucceeds⟩ := hfirst.get?_modules_of_leads hlast path
  · exact hsame
  · exact absurd hroot hne
  · exact absurd hsucceeds hfails

variable (hend : step services last = none)
include hend

/-- A document that is completed on the way to a failure was not known before and is known
afterwards. -/
theorem Completes.get?_last {path : String} {config : Config}
    (h : t.Completes services path config) (ht : Leads services first t) :
    Entries.get? path first.session.modules = none ∧
      Entries.get? path last.session.modules = some config := by
  have hunfinished := hfirst.leads ht
  obtain ⟨next, hstep, hget, hcases⟩ := h.exists_step hunfinished
  have hnext : Leads services next last := hlast.on hend (ht.tail hstep)
  obtain ⟨hroot, hnone⟩ | hsucceeds := hcases
  · constructor
    · obtain hsame | ⟨-, hunknown⟩ | ⟨heq, -⟩ := hfirst.get?_modules_of_leads ht path
      · exact hsame ▸ hnone
      · exact hunknown
      · exact absurd heq hroot
    · exact (hunfinished.step hstep).get?_of_leads hnext hroot hget
  · -- Nothing lies behind the end of a resolution that succeeds.
    obtain heq | ⟨_, hstep', -⟩ := Relation.ReflTransGen.cases_head hnext
    · exact absurd (heq ▸ hsucceeds) hfails
    · rw [hsucceeds.step_eq_none] at hstep'
      cases hstep'

/-- What is known under the path of a file that is being resolved when the resolution fails
stays as it is. -/
theorem get?_active_last {path : String} {failure : Failure} (ht : Leads services first t)
    (hturn : t.turn = .fail failure) (hactive : path ∈ t.session.active) :
    Entries.get? path last.session.modules = Entries.get? path first.session.modules := by
  by_cases hroot : root = some path
  · exact get?_root_last hfirst hlast hfails hroot
  · have hmodules := modules_of_fail (hlast.on hend ht) hturn
    have hnone := (hfirst.leads ht).active path hactive hroot
    rw [hmodules, hnone]
    obtain hsame | ⟨-, hunknown⟩ | ⟨heq, -⟩ := hfirst.get?_modules_of_leads ht path
    · exact (hsame ▸ hnone).symm
    · exact hunknown.symm
    · exact absurd heq hroot

end

end Traversal

namespace Session

/-! ## Requests -/

/-- A request to a session: a text with its path, if it has one, and the services as they are
when the request is made. -/
structure Request where
  services : Services
  path : Option String
  text : String

namespace Request

/-- Resolve what is requested. -/
def serve (request : Request) : Resolve Config :=
  resolve request.services request.path request.text

/-- The state in which the document that is requested is entered. -/
def first (request : Request) (before : Session) : Traversal :=
  ⟨.enter request.path request.text, [], before⟩

end Request

/-- The session after some requests, one after another, whether they succeed or fail. -/
def served (requests : List Request) : Session :=
  requests.foldl (fun before request => Traversal.sessionOf (request.serve before)) fresh

/-- What a request that fails leaves in the table of modules.  It adds exactly the gathered files
that were completed on the way, and changes nothing under its own path or that of a file that was
being resolved when it failed. -/
structure Remains (before : Session) (request : Request) (failure : Failure) (after : Session) :
    Prop where
  added : ∀ path config,
    Entries.get? path before.modules = none ∧ Entries.get? path after.modules = some config ↔
      ∃ t, Traversal.Leads request.services (request.first before) t ∧
        t.Completes request.services path config
  own : ∀ path, request.path = some path →
    Entries.get? path after.modules = Entries.get? path before.modules
  unfinished : ∀ t, Traversal.Leads request.services (request.first before) t →
    t.turn = .fail failure → ∀ path ∈ t.session.active,
      Entries.get? path after.modules = Entries.get? path before.modules

/-- What a request leaves behind.  No file is being resolved.  A configuration that is known is
changed only if the request succeeds and has its path.  Patterns and facts are neither lost nor
changed. -/
structure Survives (before : Session) (request : Request) : Prop where
  active_eq : (Traversal.sessionOf (request.serve before)).active = []
  kept : ∀ path config, Entries.get? path before.modules = some config →
    Entries.get? path (Traversal.sessionOf (request.serve before)).modules = some config ∨
      request.path = some path ∧ ∃ result after, request.serve before = .ok result after
  remains : ∀ failure after, request.serve before = .error failure after →
    Remains before request failure after
  keeps : before.resources.Keeps (Traversal.sessionOf (request.serve before)).resources

section

variable {before : Session} (hactive : before.active = []) (request : Request)
include hactive

theorem Request.unfinished_first :
    Traversal.Unfinished request.services request.path (request.first before) :=
  .start request.text hactive

theorem Request.first_leads : Traversal.Leads request.services (request.first before)
    (.answered [] (request.serve before)) :=
  Traversal.resolve_leads request.path request.text before hactive

/-- A request that fails adds what was completed on its way. -/
theorem remains_of_error {failure : Failure} {after : Session}
    (h : request.serve before = .error failure after) : Remains before request failure after := by
  have hfirst := request.unfinished_first hactive
  have hlast := request.first_leads hactive
  rw [h] at hlast
  have hend : Traversal.step request.services
      (.answered [] (.error failure after)) = none := Traversal.step_answered _
  have hfails : ¬ (Traversal.answered [] (.error failure after)).Succeeds := by
    rintro ⟨-, config, hturn⟩
    cases hturn
  refine ⟨fun path config => ⟨fun ⟨hnone, hget⟩ => ?_, fun ⟨t, ht, hcompletes⟩ => ?_⟩,
    fun path hroot => Traversal.get?_root_last hfirst hlast hfails hroot,
    fun t ht hturn path hpath =>
      Traversal.get?_active_last hfirst hlast hfails hend ht hturn hpath⟩
  · obtain hknown | hcompletes := hfirst.exists_completes hlast hget
    · exact absurd (hnone.symm.trans hknown) (by simp)
    · exact hcompletes
  · exact Traversal.Completes.get?_last hfirst hlast hfails hend hcompletes ht

/-- Every request leaves behind what it should, if no file is being resolved before. -/
theorem survives_of_active : Survives before request := by
  have hlast := request.first_leads hactive
  have hsession : (Traversal.answered [] (request.serve before)).session =
      Traversal.sessionOf (request.serve before) := by
    cases request.serve before <;> rfl
  have hkeeps := hlast.proceeded.keeps
  rw [hsession] at hkeeps
  refine ⟨(Traversal.Steady.resolveUsing _ _ before).trans hactive, fun path config hget => ?_,
    fun failure after => remains_of_error hactive request, hkeeps⟩
  obtain hsame | ⟨-, hnone⟩ | ⟨hroot, -, config', hturn⟩ :=
    (request.unfinished_first hactive).get?_modules_of_leads hlast path
  · exact .inl (hsession ▸ hsame.trans hget)
  · exact absurd (hnone.symm.trans hget) (by simp)
  · refine .inr ⟨hroot, ?_⟩
    cases hresult : request.serve before with
    | ok result after => exact ⟨result, after, rfl⟩
    | error failure after =>
      rw [hresult] at hturn
      cases hturn

end

theorem served_concat (requests : List Request) (request : Request) :
    served (requests ++ [request]) = Traversal.sessionOf (request.serve (served requests)) := by
  simp [served]

/-- No file is being resolved between two requests. -/
theorem active_served (requests : List Request) : (served requests).active = [] := by
  induction requests using List.reverseRecOn with
  | nil => rfl
  | append_singleton requests request ih =>
    rw [served_concat]
    exact (survives_of_active ih request).active_eq

/-- Patterns and facts are kept over any number of requests. -/
theorem keeps_served (earlier later : List Request) :
    (served earlier).resources.Keeps (served (earlier ++ later)).resources := by
  induction later using List.reverseRecOn with
  | nil => simpa using .refl _
  | append_singleton later request ih =>
    rw [← List.append_assoc, served_concat]
    exact ih.trans (survives_of_active (active_served _) request).keeps

/-- A session survives every request, whether it succeeds or fails, and whatever was requested
before with whatever services: no file is left behind as being resolved, a configuration that is
known is changed only by a request that succeeds under its path, and a request that fails adds
what was completed on its way and nothing else.  A pattern or a fact that is known, be it a fact
that is unavailable, stays what it is over all requests that follow. -/
theorem served_survives (earlier later : List Request) (request : Request) :
    let before := (served earlier).resources
    let after := (served (earlier ++ request :: later)).resources
    served (earlier ++ [request]) = Traversal.sessionOf (request.serve (served earlier)) ∧
      Survives (served earlier) request ∧
      (∀ source pattern, before.patterns.find? source = some pattern →
        after.patterns.find? source = some pattern) ∧
      ∀ key answer, Entries.get? key before.facts = some answer →
        Entries.get? key after.facts = some answer := by
  have hkeeps := keeps_served earlier (request :: later)
  exact ⟨served_concat earlier request, survives_of_active (active_served earlier) request,
    fun _ _ => hkeeps.find?, fun _ _ => hkeeps.get?⟩

/-- A request that fails at its second file leaves the first one behind. -/
example :
    let services := Services.ofStore [("/m", "x 1\n"), ("/n", "gather \"a\"\n")]
    let after := served [⟨services, some "/a", "gather \"m\"\ngather \"n\"\n"⟩]
    Entries.keys after.modules = ["/m"] ∧ after.active = [] := by
  decide +kernel

end Session

end Rune
