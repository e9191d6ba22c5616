import Rune.Evaluation.Basic

/-!
# Rune - references that lead nowhere

A name or a dotted reference can fail by itself: the name stands for nothing, or a key on the
way is missing.  These faults are told apart from those that come from evaluating a binding.

Main results:

- Definition {lit}`EvaluationFault.IsLookup` lists the faults of references themselves.
- Theorem {lit}`Flaw.exists_diagnose`: the diagnostic of a flaw is about its range.
- Theorem {lit}`Flaw.failure_of_isLookup`: the failure of such a fault is a diagnostic at the
  range of the reference.
-/

namespace Rune

/-- The range of a flaw. -/
def Flaw.range : Flaw → TextRange
  | .fault _ range | .cycle _ range => range

/-- The diagnostic of a flaw is about its range. -/
theorem Flaw.exists_diagnose {flaw : Flaw} {source : Source} {d : Diagnostic}
    (h : (flaw.failure source).diagnostic? = some d) :
    ∃ complaint, d = source.diagnose complaint flaw.range := by
  cases flaw with
  | cycle chain range => exact ⟨_, (Option.some.inj h).symm⟩
  | fault cause range =>
    cases cause with
    | badPattern reason pattern =>
      simp only [failure, RegexFault.failure] at h
      cases hfault : reason.fault? with
      | some fault => simp [hfault, Failure.diagnostic?] at h
      | none =>
        rw [hfault] at h
        exact ⟨_, (Option.some.inj h).symm⟩
    | _ => exact ⟨_, (Option.some.inj h).symm⟩

/-- The fault of a reference that leads nowhere. -/
def EvaluationFault.IsLookup : EvaluationFault → Prop
  | .unresolved _ | .unknownHead _ _ | .undefinedMember _ _ _ | .missingKey _ _ _ => True
  | _ => False

/-- The failure of a reference that leads nowhere is told at its range. -/
theorem Flaw.failure_of_isLookup {fault : EvaluationFault} (h : fault.IsLookup) (source : Source)
    (range : TextRange) : (Flaw.fault fault range).failure source =
      .unresolved (source.diagnose fault.complaint range) := by
  cases fault with
  | unresolved | unknownHead | undefinedMember | missingKey => rfl
  | unknownSystemKey | unavailable | incomparable | badPattern => exact h.elim

namespace Evaluation

/-- Going down a value stops at a key that is missing. -/
theorem descend_eq_error {segments walked keys : List String} {value : Value}
    {fault : EvaluationFault} (h : descend segments walked keys value = .error fault) :
    ∃ reached key, fault = .missingKey segments reached key := by
  induction keys generalizing walked value with
  | nil => cases h
  | cons key keys ih =>
    unfold descend at h
    split at h
    · exact ih h
    · cases h
      exact ⟨_, _, rfl⟩

end Evaluation

end Rune
