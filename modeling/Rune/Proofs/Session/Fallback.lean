import Rune.Proofs.Session.Likewise
import Rune.Proofs.Session.Termination

/-!
# Rune - a file or another one

A configuration is resolved from a file or, if that file is lacking, from another one.  Only
the file itself counts: whatever goes wrong inside a file that can be read goes wrong as if
there were no other one.  The other file is resolved in a session that asked for the first
one, and comes to the same as in a session of its own.

Main results:

- Definition {lit}`Services.Lacks` says that a file is lacking, and why.
- Theorem {lit}`Session.outcome_resolve_eq`: what a document comes to does not depend on what
  a session did before.
- Theorem {lit}`Session.resolveFileOr_agrees`: a file or another one comes to what the chosen
  one comes to alone, and if both are lacking a failure names both.
-/

namespace Rune

/-- A file is lacking: it can be located at a path, and it is unavailable there for a reason.
A file whose bytes are no text is not lacking. -/
def Services.Lacks (services : Services) (display path reason : String) : Prop :=
  services.locate display = .ok path ∧
    ∃ fault, services.files.read path = .error fault ∧ fault.reason? = some reason

namespace ReadFault

variable {fault : ReadFault}

/-- A file that is unavailable for a reason fails with that reason. -/
theorem failure_of_reason {reason : String} (h : fault.reason? = some reason)
    (unavailable : String → Failure) : fault.failure unavailable = unavailable reason := by
  cases fault with
  | undecodable bytes => cases h
  | _ =>
    cases h
    rfl

/-- What a file fails with whose bytes are no text does not depend on how unavailable files
fail. -/
theorem failure_of_no_reason (h : fault.reason? = none) (unavailable other : String → Failure) :
    fault.failure unavailable = fault.failure other := by
  cases fault with
  | undecodable bytes => rfl
  | _ => cases h

end ReadFault

namespace Session

variable {services : Services}

/-! ## What a step comes to -/

/-- What a step comes to: a value or a failure, without the session after it. -/
def outcome {α : Type} : EStateM.Result Failure Session α → Except Failure α
  | .ok a _ => .ok a
  | .error failure _ => .error failure

/-- Steps that match come to the same. -/
theorem outcome_eq_of_matching {α : Type} {states : Session → Session → Prop}
    {result result' : EStateM.Result Failure Session α}
    (h : Matching states (· = ·) (· = ·) result result') : outcome result = outcome result' := by
  cases h with
  | ok hvalue _ => rw [hvalue, outcome, outcome]
  | error herror _ => rw [herror, outcome, outcome]

/-- Reporting the end of a resolution does not change what it comes to. -/
theorem outcome_bind_finish (x : Resolve Config) (session : Session) :
    outcome ((x >>= finish) session) = outcome (x session) := by
  simp only [bind, EStateM.bind]
  cases x session <;> rfl

/-- What a document comes to does not depend on what a session did before. -/
theorem outcome_resolve_eq {session session' : Session} (h : Like services session session')
    (path : Option String) (text : String) :
    outcome ((resolve services path text >>= finish) session) =
      outcome ((resolve services path text >>= finish) session') := by
  rw [outcome_bind_finish, outcome_bind_finish]
  exact outcome_eq_of_matching
    (resolve_likewise (fun _ => rfl) services path text session session' h)

/-- A session that recorded an event is like one that did not. -/
theorem Like.noted {session session' : Session} (h : Like services session session')
    (event : Event) : Like services (session.noted event) session' :=
  ⟨h.modules_eq, h.active_eq, h.truthful.of_facts_eq rfl, h.truthful'⟩

theorem Like.symm {session session' : Session} (h : Like services session session') :
    Like services session' session :=
  ⟨h.modules_eq.symm, h.active_eq.symm, h.truthful', h.truthful⟩

/-- A session that has not begun is like itself. -/
theorem like_fresh (services : Services) : Like services fresh fresh :=
  have htruthful := Resources.truthful_fresh services.system
  ⟨rfl, rfl, htruthful, htruthful⟩

/-! ## The first file -/

/-- If the first file is not lacking, the resolution is that of the first file. -/
theorem resolveFileOr_of_not_lacks {primary : String}
    (h : ∀ path reason, ¬ services.Lacks primary path reason) (fallback : String)
    (session : Session) :
    resolveFileOr services primary fallback session = resolveFile services primary session := by
  cases hpath : services.locate primary with
  | error fault => rw [Launch.resolveFileOr_of_fault hpath, resolveFile_of_fault hpath]
  | ok path =>
    cases hread : services.files.read path with
    | ok text => rw [Launch.resolveFileOr_of_read hpath hread, resolveFile_of_read hpath hread]
    | error fault =>
      cases hreason : fault.reason? with
      | some reason => exact absurd ⟨hpath, fault, hread, hreason⟩ (h path reason)
      | none =>
        cases fault with
        | undecodable bytes =>
          exact (Launch.resolveFileOr_of_undecodable hpath hread fallback session).trans
            (resolveFile_of_unreadable hpath hread session).symm
        | _ => cases hreason

/-! ## The other file -/

/-- If the first file is lacking and the other one is not, the resolution comes to what that
of the other one comes to in a session of its own. -/
theorem outcome_resolveFileOr_of_lacks {primary path reason : String}
    (hlacks : services.Lacks primary path reason) {fallback : String}
    (h : ∀ path' reason', ¬ services.Lacks fallback path' reason') :
    outcome (resolveFileOr services primary fallback fresh) =
      outcome (resolveFile services fallback fresh) := by
  obtain ⟨hpath, fault, hread, hreason⟩ := hlacks
  have hresolve := Launch.resolveFileOr_of_unavailable hpath hread
    (hreason ▸ rfl : fault.reason?.isSome) fallback fresh
  cases hpath' : services.locate fallback with
  | error other =>
    simp only [hpath'] at hresolve
    rw [hresolve, resolveFile_of_fault hpath', outcome, outcome]
  | ok path' =>
    cases hread' : services.files.read path' with
    | ok text =>
      simp only [hpath', hread'] at hresolve
      rw [hresolve, resolveFile_of_read hpath' hread']
      have hlike := ((like_fresh services).noted (.fileAsked path)).noted
        (.unavailable path fallback)
      exact outcome_resolve_eq
        ((hlike.noted (.fileAsked path')).symm.noted (.fileAsked path')).symm (some path') text
    | error other =>
      simp only [hpath', hread'] at hresolve
      rw [hresolve, resolveFile_of_unreadable hpath' hread', outcome, outcome]
      cases hreason' : other.reason? with
      | some reason' => exact absurd ⟨hpath', other, hread', hreason'⟩ (h path' reason')
      | none => rw [other.failure_of_no_reason hreason']

/-- If both files are lacking, the resolution fails and names both. -/
theorem outcome_resolveFileOr_of_lacks_both {primary path reason fallback path' reason' : String}
    (hlacks : services.Lacks primary path reason)
    (hlacks' : services.Lacks fallback path' reason') :
    outcome (resolveFileOr services primary fallback fresh) =
      .error (neither primary fallback path path' reason') := by
  obtain ⟨hpath, fault, hread, hreason⟩ := hlacks
  obtain ⟨hpath', other, hread', hreason'⟩ := hlacks'
  have hresolve := Launch.resolveFileOr_of_unavailable hpath hread
    (hreason ▸ rfl : fault.reason?.isSome) fallback fresh
  simp only [hpath', hread'] at hresolve
  rw [hresolve, other.failure_of_reason hreason', outcome]

/-- A file or another one, whatever the files gather.  Unless the first file is lacking, the
resolution is that of the first file, failures inside it included; a path that cannot be
located is refused.  If the first file is lacking and the other one is not, it comes to what
the resolution of the other one comes to.  If both are lacking, it fails at no line, with the
code of a file that is not found, and the failure names both. -/
theorem resolveFileOr_agrees (services : Services) (primary fallback : String) :
    ((∀ path reason, ¬ services.Lacks primary path reason) →
      resolveFileOr services primary fallback fresh = resolveFile services primary fresh) ∧
    ∀ path why, services.Lacks primary path why →
      ((∀ spare reason, ¬ services.Lacks fallback spare reason) →
        outcome (resolveFileOr services primary fallback fresh) =
          outcome (resolveFile services fallback fresh)) ∧
      ∀ spare reason, services.Lacks fallback spare reason → ∃ d,
        let both := s!"primary path '{primary}' or fallback path '{fallback}'"
        outcome (resolveFileOr services primary fallback fresh) = .error (.importNotFound d) ∧
        d.code = "IMPORT_NOT_FOUND" ∧ d.line = 0 ∧
        d.message = s!"Failed to load config from {both}: {reason}" ∧
        d.sourcePath = some s!"{path} (fallback: {spare})" := by
  refine ⟨fun h => resolveFileOr_of_not_lacks h fallback fresh, fun path why hlacks =>
    ⟨outcome_resolveFileOr_of_lacks hlacks, fun spare reason hlacks' => ?_⟩⟩
  exact ⟨_, outcome_resolveFileOr_of_lacks_both hlacks hlacks', rfl, rfl, rfl, rfl⟩

/-- A file that gathers a lacking one fails, alone and before another one.  Such a file fails
in the same way as the other one of the file it lacks; and two lacking files are both named. -/
theorem resolveFileOr_agrees_gathering :
    let services := Services.ofStore [("/main", "gather \"user\"\nx 1"), ("/plain", "x 1")]
    (∀ path reason, ¬ services.Lacks "main" path reason) ∧
      resolveFileOr services "main" "plain" fresh = resolveFile services "main" fresh ∧
    services.Lacks "user" "/user" "No such file: '/user'" ∧
      outcome (resolveFileOr services "user" "main" fresh) =
        outcome (resolveFile services "main" fresh) ∧
      (outcome (resolveFile services "main" fresh)).toOption = none ∧
    services.Lacks "other" "/other" "No such file: '/other'" ∧ ∃ d,
      outcome (resolveFileOr services "user" "other" fresh) = .error (.importNotFound d) ∧
      d.code = "IMPORT_NOT_FOUND" ∧ d.line = 0 ∧
      d.message = "Failed to load config from primary path 'user' or fallback path 'other': " ++
        "No such file: '/other'" ∧
      d.sourcePath = some "/user (fallback: /other)" := by
  intro services
  have hmain : ∀ path reason, ¬ services.Lacks "main" path reason := by
    rintro path reason ⟨hpath, fault, hread, -⟩
    have hlocate : services.locate "main" = .ok "/main" := by decide +kernel
    rw [hlocate] at hpath
    cases hpath
    cases hread
  have hlacks (display path : String) (hpath : services.locate display = .ok path)
      (hread : services.files.read path = .error (.unknown path)) :
      services.Lacks display path s!"No such file: {Quoted.quote path}" :=
    ⟨hpath, .unknown path, hread, rfl⟩
  have huser := hlacks "user" "/user" (by decide +kernel) (by decide +kernel)
  have hother := hlacks "other" "/other" (by decide +kernel) (by decide +kernel)
  have hagrees := (resolveFileOr_agrees services "user" "other").2 _ _ huser
  obtain ⟨d, hd⟩ := hagrees.2 _ _ hother
  exact ⟨hmain, (resolveFileOr_agrees services "main" "plain").1 hmain, huser,
    ((resolveFileOr_agrees services "user" "main").2 _ _ huser).1 hmain, by decide +kernel, hother,
    d, hd⟩

/-- A path with NUL is refused before the other file is looked at, although that file can be
resolved and nothing can be read under the path. -/
theorem resolveFileOr_nul :
    let services := Services.ofStore [("/plain", "x 1")]
    (∀ path text, ¬ (services.locate "a\x00b" = .ok path ∧
      services.files.read path = .ok text)) ∧
    (∃ config, outcome (resolveFile services "plain" fresh) = .ok config) ∧
    outcome (resolveFileOr services "a\x00b" "plain" fresh) = .error (.fault .nullInPath) ∧
    outcome (resolveFileOr services "a\x00b" "plain" fresh) ≠
      outcome (resolveFile services "plain" fresh) := by
  intro services
  have hlocate : services.locate "a\x00b" = .error .nullInPath := by decide +kernel
  have hrefused : outcome (resolveFileOr services "a\x00b" "plain" fresh) =
      .error (.fault .nullInPath) := by
    rw [Launch.resolveFileOr_of_fault hlocate, outcome]
  have hplain : (outcome (resolveFile services "plain" fresh)).toOption.isSome := by
    decide +kernel
  cases hresolve : outcome (resolveFile services "plain" fresh) with
  | error failure =>
    rw [hresolve] at hplain
    cases hplain
  | ok config =>
    refine ⟨fun path text h => ?_, ⟨config, rfl⟩, hrefused, hrefused ▸ nofun⟩
    rw [hlocate] at h
    cases h.1

end Session

end Rune
