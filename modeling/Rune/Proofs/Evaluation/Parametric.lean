import Rune.Proofs.Evaluation.Congruent

/-!
# Rune - parametricity of evaluation

In one scope names stand for the same things.  Hence a relation between computations of
two kinds that respects values without computation, sequences and the effects holds
between the evaluations of every expression, every member and every binding.

Main results:

- Structure {lit}`Parametric` lists what a relation has to respect.
- Theorems {lit}`Parametric.value`, {lit}`Parametric.members` and
  {lit}`Parametric.bindingValue`: then it holds between evaluations.
-/

namespace Rune

/-- A document has a binding for a slot. -/
def Scope.Binds (scope : Scope) : Slot → Prop
  | .global name => Entries.contains name scope.globals = true
  | .item name => Entries.contains name scope.items = true

/-- What a key stands for in a document has a binding there. -/
theorem Scope.binds_of_slot? {scope : Scope} {key : String} {slot : Slot}
    (h : scope.slot? key = some slot) : scope.Binds slot := by
  unfold Scope.slot? at h
  split at h
  · rename_i hglobal
    cases h
    exact hglobal
  · split at h
    · rename_i hitem
      cases h
      exact hitem
    · cases h

variable {m n : Type → Type} [Monad m] [Monad n] {ι : Type}

/-- A relation between computations and families of computations that respects all
that an evaluation in a scope is made of.  Of the references to top-level bindings
only those to bindings of the document count, and of the questions to the system only
those that have an answer in the list of facts. -/
structure Parametric (scope : Scope) (R : ∀ {α : Type}, m α → (ι → n α) → Prop)
    (e : Effects m) (e' : ι → Effects n) : Prop where
  pure : ∀ {α : Type} (a : α), R (pure a) (fun _ => pure a)
  bind : ∀ {α β : Type} {x : m α} {y : ι → n α} {f : α → m β} {g : ι → α → n β},
    R x y → (∀ a, R (f a) (fun i => g i a)) → R (x >>= f) (fun i => y i >>= g i)
  fail : ∀ {α : Type} (fault : EvaluationFault) (range : TextRange),
    R (e.fail (α := α) fault range) (fun i => (e' i).fail fault range)
  record : ∀ (space : Namespace) (path : List String) (range : TextRange),
    R (e.record space path range) (fun i => (e' i).record space path range)
  compile : ∀ (source : String) (range : TextRange),
    R (e.compile source range) (fun i => (e' i).compile source range)
  ask : ∀ key : SystemKey, R (e.ask key.name) (fun i => (e' i).ask key.name)
  force : ∀ (slot : Slot) (range : TextRange), scope.Binds slot →
    R (e.force slot range) (fun i => (e' i).force slot range)

namespace Parametric

variable {scope : Scope} {R : ∀ {α : Type}, m α → (ι → n α) → Prop}
  {e : Effects m} {e' : ι → Effects n}

/-- A second scope in which what is mentioned stands for the same things. -/
theorem congruentOn (h : Parametric scope R e e') {mentioned : Mention → Prop} {scope' : Scope}
    (hagrees : scope.AgreesOn mentioned scope') : Congruent scope scope' mentioned R e e' :=
  have respects : Respects scope scope' mentioned R e e' := {
    toAgreesOn := hagrees
    pure := h.pure
    bind := h.bind
    fail := fun fault range _ => h.fail fault range
    ask := h.ask
    force := fun _ slot range _ hslot => h.force slot range (Scope.binds_of_slot? hslot) }
  { toRespects := respects
    path := respects.path_of_fail h.fail
    compile := fun source range _ => h.compile source range }

/-- In one scope everything may be mentioned. -/
theorem congruent (h : Parametric scope R e e') :
    Congruent scope scope (fun _ => True) R e e' :=
  h.congruentOn (.refl _ scope)

theorem operandValue (h : Parametric scope R e e') (siblings : Siblings) (operand : Operand) :
    R (Evaluation.operandValue scope e siblings operand)
      (fun i => Evaluation.operandValue scope (e' i) siblings operand) :=
  h.congruent.operandValue siblings fun _ _ => trivial

theorem probe (h : Parametric scope R e e') (siblings : Siblings) (operand : Operand) :
    R (Evaluation.probe scope e siblings operand)
      (fun i => Evaluation.probe scope (e' i) siblings operand) :=
  h.congruent.probe siblings fun _ _ => trivial

theorem holds (h : Parametric scope R e e') (siblings : Siblings) (condition : Condition) :
    R (Evaluation.holds scope e siblings condition)
      (fun i => Evaluation.holds scope (e' i) siblings condition) :=
  h.congruent.holds siblings fun _ _ => trivial

/-- Related effects give related values of expressions. -/
theorem value (h : Parametric scope R e e') (siblings : Siblings) (expr : ValueExpr) :
    R (Evaluation.value scope e siblings expr)
      (fun i => Evaluation.value scope (e' i) siblings expr) :=
  h.congruent.value siblings expr fun _ _ => trivial

/-- Related effects give related fields of objects. -/
theorem members (h : Parametric scope R e e') (path : List String) (fields : Entries Value)
    (children : List Member) :
    R (Evaluation.members scope e path fields children)
      (fun i => Evaluation.members scope (e' i) path fields children) :=
  h.congruent.members h.record path fields children fun _ _ => trivial

theorem member (h : Parametric scope R e e') (path : List String) (fields : Entries Value)
    (child : Member) :
    R (Evaluation.member scope e path fields child)
      (fun i => Evaluation.member scope (e' i) path fields child) :=
  h.congruent.member h.record path fields child fun _ _ => trivial

/-- Related effects give related values of top-level bindings. -/
theorem bindingValue (h : Parametric scope R e e') (slot : Slot) :
    R (Evaluation.bindingValue scope e slot)
      (fun i => Evaluation.bindingValue scope (e' i) slot) := by
  unfold Evaluation.bindingValue
  cases slot with
  | global name =>
    dsimp only
    cases Entries.get? name scope.globals with
    | some bound => exact h.value none bound.1
    | none => exact h.fail _ _
  | item name =>
    dsimp only
    cases Entries.get? name scope.items with
    | some bound => exact h.bind (h.members _ [] bound.1) fun _ => h.pure _
    | none => exact h.fail _ _

end Parametric

end Rune
