import Rune.Proofs.Evaluation.CallByName
import Rune.Proofs.Evaluation.Mirroring
import Rune.Proofs.Evaluation.Requests

/-!
# Rune - reference cycles are contained

Whatever cycles references form, the evaluation of a document ends, its stacks are kept in
order, and what it reports as a cycle is one.

Main results:

- Definition {lit}`Stacked.Ends` says how an evaluation with stacks ends.
- Theorem {lit}`Session.evaluate_containsCycles`: reference cycles are contained.
-/

namespace Rune

/-- Evaluating a document with stacks ends with a configuration or a flaw, as its
evaluation without stacks does. -/
def Stacked.Ends (scope : Scope) (fuel : Nat) (memory : Memory) (final : Machine) : Prop :=
  (∃ config, evaluate scope fuel (.start memory) = .ok config final ∧
    scope.evaluate memory = .ok config final.memory) ∨
  ∃ flaw, evaluate scope fuel (.start memory) = .error (.flaw flaw) final ∧
    scope.evaluate memory = .error flaw final.memory

/-- If there is more fuel than bindings, an evaluation with stacks ends with stacks that
were always kept in order. -/
theorem Stacked.exists_ends (scope : Scope) {fuel : Nat} (hfuel : scope.size < fuel)
    (memory : Memory) :
    ∃ final, Ends scope fuel memory final ∧ final.frame = ⟨[], []⟩ ∧ final.Sound scope := by
  have mirrored := evaluate_steady hfuel (.start memory) (.start scope memory) rfl
  change Mirrored scope _ _ _ (scope.evaluate memory) at mirrored
  unfold Ends
  generalize evaluate scope fuel (.start memory) = result at mirrored ⊢
  generalize scope.evaluate memory = result' at mirrored ⊢
  cases mirrored with
  | @ok config config' final hsound hdone =>
    obtain ⟨rfl, hframe⟩ := hdone
    exact ⟨final, .inl ⟨config, rfl, rfl⟩, hframe, hsound⟩
  | @error flaw final hsound hframe => exact ⟨final, .inr ⟨flaw, rfl, rfl⟩, hframe, hsound⟩

namespace Session

/-- Reference cycles are contained.  The evaluation of a document ends even if references
may nest no deeper than by one more than there are bindings.  At every moment the bindings
being evaluated are different bindings of the document, and every evaluation of a binding
leaves the stacks as they were.  A reference cycle that is reported consists of different
bindings, each of which asks for the next one, and the first one again. -/
theorem evaluate_containsCycles (scope : Scope) (session : Session)
    (htruthful : session.resources.Truthful scope.services.system) {fuel : Nat}
    (hfuel : scope.size < fuel) :
    (∃ final, Stacked.Ends scope fuel (.fresh session.resources) final ∧
      final.frame = ⟨[], []⟩ ∧
      (∀ moment ∈ final.moments, moment.Nodup ∧ ∀ slot ∈ moment, scope.Binds slot) ∧
      ∀ before after, (before, after) ∈ final.exits → after = before) ∧
    ∀ failure after, evaluate scope session = .error failure after → failure.IsReferenceCycle →
      ∃ chain range,
        failure = .unresolved (scope.source.diagnose (cycleComplaint chain) range) ∧
        Circular scope chain := by
  constructor
  · obtain ⟨final, hends, hframe, hsound⟩ :=
      Stacked.exists_ends scope hfuel (.fresh session.resources)
    refine ⟨final, hends, hframe, fun moment hmoment => ?_, hsound.exits⟩
    have hadmits := hsound.moments moment hmoment
    exact ⟨hadmits.nodup, hadmits.binds⟩
  · intro failure after h hcycle
    have sincere := scope.evaluate_reports _ (Memory.faithful_fresh htruthful)
    unfold evaluate at h
    generalize scope.evaluate (.fresh session.resources) = result at h sincere
    cases sincere with
    | ok _ => cases h
    | fault =>
      cases h
      exact absurd (Flaw.failure_isReferenceCycle_iff.1 hcycle) id
    | cycle hcircular =>
      cases h
      exact ⟨_, _, rfl, hcircular⟩

/-- A global depends on itself through a condition and a field of a block. -/
theorem evaluate_containsCycles_condition :
    let range := TextRange.empty 0
    let refer (name : String) : Operand := .name name range
    let scope := Scope.ofDocument (.ofText "") (.ofStore [])
      [.global "a" (.conditional (.presence (refer "b") range) (.operand (refer "a")) none range)
        range, .block "b" [.field "x" (.operand (refer "a")) range] range] []
    ∃ failure after chain range', evaluate scope fresh = .error failure after ∧
      failure = .unresolved (scope.source.diagnose (cycleComplaint chain) range') ∧
      Circular scope chain := by
  intro range refer scope
  have htruthful := Resources.truthful_fresh scope.services.system
  obtain ⟨-, hreports⟩ := evaluate_containsCycles scope fresh htruthful (Nat.lt_succ_self _)
  obtain ⟨chain, range', hfailure, hcircular⟩ := hreports _ _ rfl rfl
  exact ⟨_, _, chain, range', rfl, hfailure, hcircular⟩

end Session

end Rune
