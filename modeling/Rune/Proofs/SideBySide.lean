/-!
# Rune - two runs side by side

Two computations on states go side by side if from related states they come to related
values or fail in related ways, and leave related states behind.  What is related is a
parameter; this module says how such computations are put together.

Main results:

- Definition {lit}`SideBySide` relates two computations on states, and {lit}`Except.Rel` two
  results without states.
- Theorem {lit}`SideBySide.bind`: computations that go side by side can be put one after
  the other.
-/

/-- Two results are related: values with values, errors with errors. -/
inductive Except.Rel {ε ε' α α' : Type} (errors : ε → ε' → Prop) (values : α → α' → Prop) :
    Except ε α → Except ε' α' → Prop
  | ok {a : α} {a' : α'} (h : values a a') : Rel errors values (.ok a) (.ok a')
  | error {e : ε} {e' : ε'} (h : errors e e') : Rel errors values (.error e) (.error e')

namespace Except.Rel

variable {ε ε' α α' β β' : Type} {errors : ε → ε' → Prop} {values : α → α' → Prop}
  {x : Except ε α} {y : Except ε' α'}

/-- Results that are related stay so if their values go over to related ones. -/
theorem map {others : β → β' → Prop} (h : x.Rel errors values y) {f : α → β} {g : α' → β'}
    (hfg : ∀ a a', values a a' → others (f a) (g a')) :
    (x.map f).Rel errors others (y.map g) := by
  cases h with
  | ok hvalue => exact .ok (hfg _ _ hvalue)
  | error herror => exact .error herror

theorem imp {others : α → α' → Prop} (h : x.Rel errors values y)
    (hvalues : ∀ a a', values a a' → others a a') : x.Rel errors others y := by
  cases h with
  | ok hvalue => exact .ok (hvalues _ _ hvalue)
  | error herror => exact .error herror

end Except.Rel

namespace Rune

variable {ε ε' σ σ' α α' β β' : Type}

/-- Two results match: values with values, failures with failures, states with states. -/
inductive Matching (states : σ → σ' → Prop) (errors : ε → ε' → Prop) (values : α → α' → Prop) :
    EStateM.Result ε σ α → EStateM.Result ε' σ' α' → Prop
  | ok {a : α} {a' : α'} {s : σ} {s' : σ'} (hvalue : values a a') (hstate : states s s') :
    Matching states errors values (.ok a s) (.ok a' s')
  | error {e : ε} {e' : ε'} {s : σ} {s' : σ'} (herror : errors e e') (hstate : states s s') :
    Matching states errors values (.error e s) (.error e' s')

/-- From related states two computations come to results that match. -/
def SideBySide (states : σ → σ' → Prop) (errors : ε → ε' → Prop) (values : α → α' → Prop)
    (x : EStateM ε σ α) (y : EStateM ε' σ' α') : Prop :=
  ∀ s s', states s s' → Matching states errors values (x s) (y s')

namespace SideBySide

variable {states : σ → σ' → Prop} {errors : ε → ε' → Prop} {values : α → α' → Prop}
  {others : β → β' → Prop}

theorem pure {a : α} {a' : α'} (h : values a a') :
    SideBySide states errors values (pure a) (pure a') := fun _ _ hstates => .ok h hstates

theorem throw {e : ε} {e' : ε'} (h : errors e e') :
    SideBySide states errors values (throw e) (throw e') := fun _ _ hstates => .error h hstates

theorem get : SideBySide states errors states get get := fun _ _ hstates => .ok hstates hstates

theorem bind {x : EStateM ε σ α} {y : EStateM ε' σ' α'} {f : α → EStateM ε σ β}
    {g : α' → EStateM ε' σ' β'} (hxy : SideBySide states errors values x y)
    (hfg : ∀ a a', values a a' → SideBySide states errors others (f a) (g a')) :
    SideBySide states errors others (x >>= f) (y >>= g) := by
  intro s s' hstates
  have first := hxy s s' hstates
  simp only [Bind.bind, EStateM.bind]
  generalize x s = result at first ⊢
  generalize y s' = result' at first ⊢
  cases first with
  | ok hvalue hafter => exact hfg _ _ hvalue _ _ hafter
  | error herror hafter => exact .error herror hafter

theorem ite {c : Prop} [Decidable c] {x x' : EStateM ε σ α} {y y' : EStateM ε' σ' α'}
    (hthen : SideBySide states errors values x y)
    (helse : SideBySide states errors values x' y') :
    SideBySide states errors values (if c then x else x') (if c then y else y') := by
  split
  · exact hthen
  · exact helse

end SideBySide

end Rune
