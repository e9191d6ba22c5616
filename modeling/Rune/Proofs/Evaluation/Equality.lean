import Rune.Proofs.Evaluation.CallByName
import Rune.Proofs.Evaluation.Resuming

/-!
# Rune - the sides of an equality

An equality compares its sides as text if one of them comes from the host, and by kind
otherwise.  Neither comparison depends on the order of the values.  The sides are evaluated one
after the other, and that does not depend on the order either, although the bindings that they
refer to are evaluated in another order then.

Main results:

- Theorems {lit}`Value.comparison_comm` and {lit}`Value.sameText_comm`: values are compared alike
  in either order.
- Theorem {lit}`Evaluation.holds_exchange`: an equality and the same one with its sides exchanged
  come to the same answer, whatever was evaluated before and is being evaluated.
-/

namespace Rune

namespace Value

/-- Values are compared by kind alike in either order. -/
theorem comparison_comm (a b : Value) : a.comparison b = b.comparison a := by
  cases a <;> cases b <;> simp only [comparison, Number.eq_comm, eq_comm]

/-- Values are compared as text alike in either order. -/
theorem sameText_comm (a b : Value) : a.sameText b = b.sameText a := by
  simp only [sameText, Bool.or_comm, Bool.and_comm, eq_comm]

end Value

/-- A failure is about a comparison of values that cannot be compared. -/
def Failure.IsMismatch (failure : Failure) : Prop :=
  failure.diagnostic?.map (·.code) = some DiagnosticSpec.typeMismatch.code

/-- The flaw of a condition that compares values of two kinds. -/
def Flaw.mismatch (left right : ValueKind) (range : TextRange) : Flaw :=
  .fault (.incomparable left right) range

/-- Its failure has the code of a mismatch. -/
theorem Flaw.failure_mismatch (source : Source) (left right : ValueKind) (range : TextRange) :
    ((mismatch left right range).failure source).IsMismatch := rfl

namespace Evaluation

variable (scope : Scope)

/-- The effects of an evaluation while bindings are being evaluated: the fuel that is left then. -/
def effectsDuring (pending : List Slot) : Effects Eval :=
  effects scope (forceWith scope (scope.size + 1 - pending.length) pending)

/-- An equality of two values that were found. -/
def verdict (left right : Operand) (range : TextRange) (a b : Value) : Eval Bool :=
  if left.isHost || right.isHost then return a.sameText b
  else match a.comparison b with
    | some result => return result
    | none => throw (.mismatch a.kind b.kind range)

variable {scope} {pending : List Slot} {left right : Operand} {range : TextRange}
  {siblings : Siblings}

/-- An equality finds its values, the left one first, and compares them. -/
theorem holds_equality (force : Slot → TextRange → Eval Value) :
    holds scope (effects scope force) siblings (.equality left right range) =
      inOrder (operandValue scope (effects scope force) siblings left)
          (operandValue scope (effects scope force) siblings right) >>=
        fun pair => verdict left right range pair.1 pair.2 := by
  simp only [holds, inOrder, bind_assoc, pure_bind]
  rfl

/-- With its sides exchanged it finds the same values in the reverse order. -/
theorem holds_equality_exchanged (force : Slot → TextRange → Eval Value) :
    holds scope (effects scope force) siblings (.equality right left range) =
      inReverse (operandValue scope (effects scope force) siblings left)
          (operandValue scope (effects scope force) siblings right) >>=
        fun pair => verdict right left range pair.2 pair.1 := by
  simp only [holds, inReverse, bind_assoc, pure_bind]
  rfl

/-- A verdict is the same boolean for the sides exchanged, or else the values cannot be compared
either way. -/
theorem verdict_exchange (left right : Operand) (range : TextRange) (a b : Value) :
    (∃ answer, ∀ memory memory', verdict left right range a b memory = .ok answer memory ∧
      verdict right left range b a memory' = .ok answer memory') ∨
    ∀ memory memory',
      verdict left right range a b memory = .error (.mismatch a.kind b.kind range) memory ∧
      verdict right left range b a memory' = .error (.mismatch b.kind a.kind range) memory' := by
  unfold verdict
  rw [Bool.or_comm right.isHost, Value.sameText_comm b, Value.comparison_comm b]
  split
  · exact .inl ⟨_, fun _ _ => ⟨rfl, rfl⟩⟩
  · cases a.comparison b with
    | some answer => exact .inl ⟨answer, fun _ _ => ⟨rfl, rfl⟩⟩
    | none => exact .inr fun _ _ => ⟨rfl, rfl⟩

/-- All of evaluation can be taken up from any memory, and while any bindings are being
evaluated. -/
theorem effectsDuring_resume (hadmits : scope.Admits pending) (base : Memory) :
    Parametric scope (fun {_} x y => Resumes scope base pending (fun _ => True) x y)
      (effectsDuring scope pending)
      (fun depth => ByName.effectsFrom scope base
        (ByName.slotValueFrom scope base pending depth)) :=
  effects_resume hadmits (by omega) base

/-- Two evaluations of one state leave memories behind from which everything else comes to the
same answer. -/
theorem value_sameAnswer (hadmits : scope.Admits pending) {base after after' : Memory}
    (h : Memory.Extends scope pending base after) (h' : Memory.Extends scope pending base after')
    (siblings : Siblings) (expr : ValueExpr) :
    SameAnswer (value scope (effectsDuring scope pending) siblings expr after)
      (value scope (effectsDuring scope pending) siblings expr after') :=
  have follows := (effectsDuring_resume hadmits base).value siblings expr
  (follows after h).sameAnswer (follows after' h') fun _ => trivial

/-- An equality and the same one with its sides exchanged, in a state in which bindings are being
evaluated and others were: both hold, neither of them does, or both fail.  If both sides have
values there then both answers are the same boolean or both failures are mismatches, with the
kinds exchanged.  Afterwards everything else comes to the same answer too. -/
theorem holds_exchange (hadmits : scope.Admits pending) (memory : Memory) (siblings : Siblings)
    (left right : Operand) (range : TextRange) :
    let find := operandValue scope (effectsDuring scope pending) siblings
    let judge := fun left right =>
      holds scope (effectsDuring scope pending) siblings (.equality left right range) memory
    SameAnswer (judge left right) (judge right left) ∧
    (∀ a mid b mid', find left memory = .ok a mid → find right memory = .ok b mid' →
      (∃ answer after after',
        judge left right = .ok answer after ∧ judge right left = .ok answer after') ∨
      (∃ after after', judge left right = .error (.mismatch a.kind b.kind range) after ∧
        judge right left = .error (.mismatch b.kind a.kind range) after' ∧
        ∀ source, ((Flaw.mismatch a.kind b.kind range).failure source).IsMismatch ∧
          ((Flaw.mismatch b.kind a.kind range).failure source).IsMismatch)) ∧
    (∀ answer answer' after after', judge left right = .ok answer after →
      judge right left = .ok answer' after' → ∀ siblings expr,
        SameAnswer (value scope (effectsDuring scope pending) siblings expr after)
          (value scope (effectsDuring scope pending) siblings expr after')) := by
  intro find judge
  have resumes := effectsDuring_resume hadmits memory
  have hleft := resumes.operandValue siblings left
  have hright := resumes.operandValue siblings right
  have hrefl := Memory.Extends.refl scope memory pending
  have hsame := hleft.swap hright (fun _ => trivial) hrefl
  have hjudge : judge left right = (inOrder (find left) (find right) >>=
      fun pair => verdict left right range pair.1 pair.2) memory :=
    congrFun (holds_equality _) memory
  have hexchanged : judge right left = (inReverse (find left) (find right) >>=
      fun pair => verdict right left range pair.2 pair.1) memory :=
    congrFun (holds_equality_exchanged _) memory
  refine ⟨?_, fun a mid b mid' ha hb => ?_,
    fun answer answer' after after' h h' siblings expr => ?_⟩
  · rw [hjudge, hexchanged]
    refine hsame.bind fun pair after after' => ?_
    obtain ⟨answer, h⟩ | h := verdict_exchange left right range pair.1 pair.2
    · rw [(h after after').1, (h after after').2]
      exact .answer
    · rw [(h after after').1, (h after after').2]
      exact .error
  · obtain ⟨last, hlast⟩ : ∃ last, find right mid = .ok b last :=
      (hright mid (hleft.of_ok hrefl ha).1).eq_ok (fun _ => trivial) (hright.of_ok hrefl hb).2
    have horder := inOrder_eq_ok_iff.2 ⟨mid, ha, hlast⟩
    obtain ⟨last', hreverse⟩ :
        ∃ last', inReverse (find left) (find right) memory = .ok (a, b) last' := hsame.eq_ok horder
    rw [hjudge, hexchanged]
    simp only [bind, EStateM.bind, horder, hreverse]
    obtain ⟨answer, h⟩ | h := verdict_exchange left right range a b
    · exact .inl ⟨answer, last, last', h last last'⟩
    · exact .inr ⟨last, last', (h last last').1, (h last last').2, fun source =>
        ⟨Flaw.failure_mismatch source _ _ _, Flaw.failure_mismatch source _ _ _⟩⟩
  · have hafter := (resumes.holds _ _).of_ok hrefl h
    have hafter' := (resumes.holds _ _).of_ok hrefl h'
    exact value_sameAnswer hadmits hafter.1 hafter'.1 siblings expr

/-- A number and a string are a mismatch in either order, also while another binding is being
evaluated. -/
theorem holds_exchange_port :
    let scope := Scope.ofDocument (.ofText "") (.ofStore [])
      [.global "port" (.operand (.literal (.number (.int 8080)) (.empty 0))) (.empty 0),
        .global "host" (.operand (.literal (.text "here") (.empty 0))) (.empty 0)] []
    let port := Operand.name "port" (.empty 0)
    let text := Operand.literal (.text "8080") (.empty 0)
    let judge := fun left right => holds scope (effectsDuring scope [.global "host"]) none
      (.equality left right (.empty 0)) (.fresh .fresh)
    scope.Admits [.global "host"] ∧ ∃ after after',
      judge port text = .error (.mismatch .number .string (.empty 0)) after ∧
      judge text port = .error (.mismatch .string .number (.empty 0)) after' := by
  intro scope port text judge
  have hadmits : scope.Admits [.global "host"] := by
    refine ⟨List.nodup_singleton _, fun slot hslot => ?_⟩
    obtain rfl := List.mem_singleton.1 hslot
    rfl
  refine ⟨hadmits, ?_⟩
  obtain ⟨_, _, _, h, -⟩ | h :=
    (holds_exchange hadmits (.fresh .fresh) none port text (.empty 0)).2.1 _ _ _ _ rfl rfl
  · cases h
  · obtain ⟨after, after', hport, htext, -⟩ := h
    exact ⟨after, after', hport, htext⟩

end Evaluation

end Rune
