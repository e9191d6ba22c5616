import Rune.Proofs.Entries
import Rune.Proofs.Evaluation.Performing
import Rune.Session.Basic

/-!
# Rune - evaluation is call by name

Remembering values and looking out for cycles changes nothing: evaluating a document
gives what plain evaluation of its tasks gives, and where plain evaluation recurs
without bound it reports a reference cycle.

Main results:

- Structure {lit}`ByName.Explains` says that the result of evaluating a document is that
  of plain evaluation.
- Theorem {lit}`Session.evaluate_callByName`: plain evaluation explains every result.
-/

namespace Rune

/-! ## Failures -/

/-- A failure is about a reference cycle. -/
def Failure.IsReferenceCycle (failure : Failure) : Prop :=
  failure.diagnostic?.map (·.code) = some DiagnosticSpec.referenceCycle.code

/-- What a fault of evaluation is a complaint about. -/
theorem EvaluationFault.spec_mem (fault : EvaluationFault) :
    fault.complaint.spec ∈ [DiagnosticSpec.unresolvedReference, .unknownAlias,
      .unknownSystemKey, .typeMismatch, .badPattern] := by
  cases fault <;> simp [complaint, Complaint.worded, Complaint.standing]

/-- The failure of a fault is about what the fault is a complaint about, unless it
carries no diagnostic. -/
theorem Flaw.failure_code (source : Source) (fault : EvaluationFault) (range : TextRange) :
    ((Flaw.fault fault range).failure source).diagnostic? = none ∨
      ((Flaw.fault fault range).failure source).diagnostic?.map (·.code) =
        some fault.complaint.spec.code := by
  cases fault with
  | badPattern reason pattern =>
    simp only [failure, RegexFault.failure]
    cases reason.fault? with
    | some other => exact .inl rfl
    | none => exact .inr rfl
  | _ => exact .inr rfl

/-- The failure of a flaw is about a reference cycle exactly if the flaw is one. -/
theorem Flaw.failure_isReferenceCycle_iff {source : Source} {flaw : Flaw} :
    (flaw.failure source).IsReferenceCycle ↔ flaw.IsCycle := by
  cases flaw with
  | cycle chain range => exact iff_of_true rfl trivial
  | fault fault range =>
    refine iff_of_false (fun h => ?_) id
    rw [Failure.IsReferenceCycle] at h
    rcases failure_code source fault range with hnone | hcode
    · rw [hnone] at h
      cases h
    · rw [hcode] at h
      have others : ∀ spec ∈ [DiagnosticSpec.unresolvedReference, .unknownAlias,
          .unknownSystemKey, .typeMismatch, .badPattern],
          spec.code ≠ DiagnosticSpec.referenceCycle.code := by decide
      exact others _ fault.spec_mem (Option.some.inj h)

/-! ## Entries of a configuration -/

namespace ByName

variable {scope : Scope} {config : Config}

namespace Fills

variable {β : Type} {task : String × β → Task} {bindings : List (String × β)}
  {entries : Entries Value}

/-- Whatever is included, a key that is bound has the value that its binding yields. -/
theorem get?_merge_iff (h : Fills scope task bindings entries)
    (hnodup : (Entries.keys bindings).Nodup) {key : String} {bound : β}
    (hbound : Entries.get? key bindings = some bound) (included : Entries Value) (value : Value) :
    Entries.get? key (Entries.merge included entries) = some value ↔
      Yields scope (task (key, bound)) value := by
  have hkey : Entries.contains key entries := by
    rw [Entries.contains_iff_mem_keys, h.keys_eq]
    exact Entries.mem_keys_of_get? hbound
  obtain ⟨own, hown⟩ := Option.isSome_iff_exists.1 hkey
  rw [Entries.get?_merge, Entries.get?_reverse (by rwa [h.keys_eq]), hown, Option.some_or, ← hown,
    h.get?_iff]
  simp [hbound]

end Fills

namespace Describes

/-- A global of the document has the value that its task yields. -/
theorem get?_globals (h : Describes scope config) (hnodup : (Entries.keys scope.globals).Nodup)
    {name : String} (hname : Entries.contains name scope.globals) (value : Value) :
    Entries.get? name config.globals = some value ↔
      Yields scope (.slot (.global name)) value := by
  obtain ⟨own, hown, heq⟩ := h.globals
  obtain ⟨bound, hbound⟩ := Option.isSome_iff_exists.1 hname
  rw [heq]
  exact hown.get?_merge_iff hnodup hbound _ value

/-- An item of the document has the value that its task yields. -/
theorem get?_items (h : Describes scope config) (hnodup : (Entries.keys scope.items).Nodup)
    {name : String} (hname : Entries.contains name scope.items) (value : Value) :
    Entries.get? name config.items = some value ↔ Yields scope (.slot (.item name)) value := by
  obtain ⟨own, hown, heq⟩ := h.items
  obtain ⟨bound, hbound⟩ := Option.isSome_iff_exists.1 hname
  rw [heq]
  exact hown.get?_merge_iff hnodup hbound _ value

/-- Metadata has the values that the last bindings of its keys yield, and no others. -/
theorem get?_metadata (h : Describes scope config) (key : String) (value : Value) :
    Entries.get? key config.metadata = some value ↔
      ∃ expr range, Entries.get? key scope.metadata.reverse = some (expr, range) ∧
        Yields scope (.metadata expr) value := by
  obtain ⟨own, hown, heq⟩ := h.metadata
  rw [heq, Entries.get?_ofList, hown.reverse.get?_iff]
  simp

end Describes

/-! ## Documents -/

/-- The result of evaluating a document is that of plain evaluation. -/
structure Explains (scope : Scope) (result : EStateM.Result Failure Session Config) : Prop where
  /-- There is a configuration exactly if every task yields a value. -/
  ok_iff : (∃ config after, result = .ok config after) ↔
    ∀ task ∈ scope.tasks, ∃ value, Yields scope task value
  /-- The values of the document's own bindings are those that its tasks yield. -/
  globals : ∀ config after, result = .ok config after → ∀ name,
    Entries.contains name scope.globals → ∀ value,
      Entries.get? name config.globals = some value ↔ Yields scope (.slot (.global name)) value
  metadata : ∀ config after, result = .ok config after → ∀ key value,
    Entries.get? key config.metadata = some value ↔
      ∃ expr range, Entries.get? key scope.metadata.reverse = some (expr, range) ∧
        Yields scope (.metadata expr) value
  items : ∀ config after, result = .ok config after → ∀ name,
    Entries.contains name scope.items → ∀ value,
      Entries.get? name config.items = some value ↔ Yields scope (.slot (.item name)) value
  /-- There is the failure of a fault exactly if the first task without a value fails
  because of it. -/
  fault_iff : ∀ failure, (∃ after, result = .error failure after) ∧ ¬ failure.IsReferenceCycle ↔
    ∃ flaw, First scope scope.tasks (Fails scope · flaw) ∧ failure = flaw.failure scope.source
  /-- A reference cycle is reported exactly if the first task without a value recurs
  without bound. -/
  cycle_iff : (∃ failure after, result = .error failure after ∧ failure.IsReferenceCycle) ↔
    First scope scope.tasks (Recurs scope)

namespace Explains

/-- Plain evaluation explains the configuration of a document all of whose tasks yield
values. -/
theorem ok {scope : Scope} (hglobals : (Entries.keys scope.globals).Nodup)
    (hitems : (Entries.keys scope.items).Nodup) {config : Config}
    (hconfig : Describes scope config)
    (hall : ∀ task ∈ scope.tasks, ∃ value, Yields scope task value) (after : Session) :
    Explains scope (.ok config after) := by
  have noFirst (p : Task → Prop) (noValue : ∀ task value, p task → ¬ Yields scope task value) :
      ¬ First scope scope.tasks p := by
    rintro ⟨before, task, rest, htasks, -, htask⟩
    obtain ⟨value, hvalue⟩ := hall task (by simp [htasks])
    exact noValue task value htask hvalue
  constructor
  case ok_iff => exact iff_of_true ⟨_, _, rfl⟩ hall
  case globals =>
    rintro _ _ ⟨⟩ name hname value
    exact hconfig.get?_globals hglobals hname value
  case metadata =>
    rintro _ _ ⟨⟩ key value
    exact hconfig.get?_metadata key value
  case items =>
    rintro _ _ ⟨⟩ name hname value
    exact hconfig.get?_items hitems hname value
  case fault_iff =>
    refine fun failure => iff_of_false ?_ ?_
    · rintro ⟨⟨_, h⟩, -⟩
      cases h
    · rintro ⟨flaw, h, -⟩
      exact noFirst _ (fun task value h => h.not_yields value) h
  case cycle_iff =>
    refine iff_of_false ?_ (noFirst _ fun task value h => h.not_yields value)
    rintro ⟨_, _, h, -⟩
    cases h

/-- Plain evaluation explains why the evaluation of a document stops. -/
theorem error {scope : Scope} {flaw : Flaw} (hfirst : First scope scope.tasks (Stops scope flaw))
    (after : Session) : Explains scope (.error (flaw.failure scope.source) after) := by
  have noValue (task : Task) (value : Value) (h : Stops scope flaw task) :
      ¬ Yields scope task value := h.not_yields value
  constructor
  case ok_iff =>
    refine iff_of_false ?_ fun hall => ?_
    · rintro ⟨_, _, h⟩
      cases h
    · obtain ⟨before, task, rest, htasks, -, htask⟩ := hfirst
      obtain ⟨value, hvalue⟩ := hall task (by simp [htasks])
      exact noValue task value htask hvalue
  case globals =>
    intro _ _ h
    cases h
  case metadata =>
    intro _ _ h
    cases h
  case items =>
    intro _ _ h
    cases h
  case fault_iff =>
    intro failure
    constructor
    · rintro ⟨⟨_, h⟩, hother⟩
      cases h
      rw [Flaw.failure_isReferenceCycle_iff] at hother
      refine ⟨flaw, hfirst.mono fun task htask => ?_, rfl⟩
      exact htask.resolve_left (fun h => hother h.1) |>.2
    · rintro ⟨other, hother, rfl⟩
      obtain ⟨task, -, hfails, hstops⟩ :=
        hother.meet hfirst (fun task value h => h.not_yields value) noValue
      rcases hstops with ⟨-, hrecurs⟩ | ⟨hnot, hfails'⟩
      · exact absurd hfails (hrecurs.not_fails other)
      · obtain rfl := hfails.unique hfails'
        exact ⟨⟨_, rfl⟩, by rwa [Flaw.failure_isReferenceCycle_iff]⟩
  case cycle_iff =>
    constructor
    · rintro ⟨_, _, h, hcycle⟩
      cases h
      rw [Flaw.failure_isReferenceCycle_iff] at hcycle
      refine hfirst.mono fun task htask => ?_
      exact htask.resolve_right (fun h => h.1 hcycle) |>.2
    · intro hother
      obtain ⟨task, -, hrecurs, hstops⟩ :=
        hother.meet hfirst (fun task value h => h.not_yields value) noValue
      rcases hstops with ⟨hcycle, -⟩ | ⟨-, hfails⟩
      · exact ⟨_, _, rfl, Flaw.failure_isReferenceCycle_iff.2 hcycle⟩
      · exact absurd hfails (hrecurs.not_fails flaw)

end Explains

end ByName

namespace Session

open ByName

/-- Evaluating a document gives what plain evaluation gives, whatever true facts are
remembered. -/
theorem evaluate_callByName (source : Source) (services : Services) (document : Document)
    (aliases : Entries Config) (session : Session)
    (htruthful : session.resources.Truthful services.system) :
    Explains (.ofDocument source services document aliases)
      (evaluate (.ofDocument source services document aliases) session) := by
  have result := Scope.evaluate_performs (.ofDocument source services document aliases) _
    (Memory.faithful_fresh htruthful)
  unfold evaluate
  generalize Scope.evaluate _ (.fresh session.resources) = ended at result ⊢
  cases ended with
  | ok config after =>
    exact .ok (Entries.nodup_keys_ofList _) (Entries.nodup_keys_ofList _) result.2.2 result.2.1 _
  | error flaw after => exact .error result _

/-- Two globals that refer to each other recur without bound. -/
theorem evaluate_callByName_knot :
    let refer (name : String) : ValueExpr := .operand (.name name (.empty 0))
    let scope := Scope.ofDocument (.ofText "") (.ofStore [])
      [.global "first" (refer "second") (.empty 0), .global "second" (refer "first") (.empty 0)] []
    fresh.resources.Truthful scope.services.system ∧
      First scope scope.tasks (Recurs scope) := by
  intro refer scope
  have htruthful := Resources.truthful_fresh scope.services.system
  have explained := evaluate_callByName (.ofText "") (.ofStore [])
    [.global "first" (refer "second") (.empty 0), .global "second" (refer "first") (.empty 0)] []
    fresh htruthful
  exact ⟨htruthful, explained.cycle_iff.1 ⟨_, _, rfl, rfl⟩⟩

end Session

end Rune
