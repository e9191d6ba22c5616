import Rune.Proofs.Evaluation.Bare

/-!
# Rune - editing choices

A choice of which it is known how it comes out can be replaced by what it chooses: a
choice between members by the members of a branch, in its place, and a choice between
values by a value.  The branch that is not chosen can be any other one.  How a choice
comes out depends on the fields before it, so that the edits of a tree follow its
evaluation.

Main results:

- Types {lit}`EditsValue` and {lit}`EditsMembers` say how trees may be edited.
- Structure {lit}`Scope.Revises`: a document binds edited trees to the same names, with the
  theorem {lit}`Scope.Revises.yields` that its bindings yield the same values.
-/

namespace Rune

namespace Evaluation

/-- A condition comes out one way among the fields so far, in an evaluation that
remembers nothing false and in which some bindings are being evaluated. -/
def Chooses (scope : Scope) (siblings : Siblings) (condition : Condition) (chosen : Bool) : Prop :=
  ∃ fuel pending memory after, memory.Faithful scope ∧
    holds scope (effects scope (forceWith scope fuel pending)) siblings condition memory =
      .ok chosen after

/-- After the fields so far a member leads to more fields, in such an evaluation. -/
def Adds (scope : Scope) (fields : Entries Value) (child : Member) (more : Entries Value) : Prop :=
  ∃ fuel pending path memory after, memory.Faithful scope ∧
    member scope (effects scope (forceWith scope fuel pending)) path fields child memory =
      .ok more after

end Evaluation

open Evaluation (Chooses Adds)

/-! ## Edits -/

mutual

/-- How an expression among fields may be edited.  Places do not matter. -/
inductive EditsValue (scope : Scope) (siblings : Siblings) : ValueExpr → ValueExpr → Prop
  | same {expr expr' : ValueExpr} : expr'.unplaced = expr.unplaced →
      EditsValue scope siblings expr expr'
  | array {items items' : List ValueExpr} {range range' : TextRange} :
      EditsItems scope siblings items items' →
      EditsValue scope siblings (.array items range) (.array items' range')
  /-- The first value in place of a choice. -/
  | takeThen {condition : Condition} {thenValue expr : ValueExpr} {elseValue : Option ValueExpr}
      {range : TextRange} :
      Chooses scope siblings condition true → EditsValue scope siblings thenValue expr →
      EditsValue scope siblings (.conditional condition thenValue elseValue range) expr
  /-- The second value in place of a choice. -/
  | takeElse {condition : Condition} {thenValue elseValue expr : ValueExpr} {range : TextRange} :
      Chooses scope siblings condition false → EditsValue scope siblings elseValue expr →
      EditsValue scope siblings (.conditional condition thenValue (some elseValue) range) expr
  /-- Null in place of a choice without a second value. -/
  | takeNull {condition : Condition} {thenValue : ValueExpr} {range range' : TextRange} :
      Chooses scope siblings condition false →
      EditsValue scope siblings (.conditional condition thenValue none range)
        (.operand (.literal .null range'))
  /-- Any second value where the first one is chosen. -/
  | keepThen {condition condition' : Condition} {thenValue thenValue' : ValueExpr}
      {elseValue elseValue' : Option ValueExpr} {range range' : TextRange} :
      Chooses scope siblings condition true → condition'.unplaced = condition.unplaced →
      EditsValue scope siblings thenValue thenValue' →
      EditsValue scope siblings (.conditional condition thenValue elseValue range)
        (.conditional condition' thenValue' elseValue' range')
  /-- Any first value where the second one is chosen. -/
  | keepElse {condition condition' : Condition}
      {thenValue thenValue' elseValue elseValue' : ValueExpr} {range range' : TextRange} :
      Chooses scope siblings condition false → condition'.unplaced = condition.unplaced →
      EditsValue scope siblings elseValue elseValue' →
      EditsValue scope siblings (.conditional condition thenValue (some elseValue) range)
        (.conditional condition' thenValue' (some elseValue') range')
  /-- Any first value where null is chosen. -/
  | keepNull {condition condition' : Condition} {thenValue thenValue' : ValueExpr}
      {range range' : TextRange} :
      Chooses scope siblings condition false → condition'.unplaced = condition.unplaced →
      EditsValue scope siblings (.conditional condition thenValue none range)
        (.conditional condition' thenValue' none range')

/-- How the items of an array may be edited. -/
inductive EditsItems (scope : Scope) (siblings : Siblings) :
    List ValueExpr → List ValueExpr → Prop
  | nil : EditsItems scope siblings [] []
  | cons {item item' : ValueExpr} {items items' : List ValueExpr} :
      EditsValue scope siblings item item' → EditsItems scope siblings items items' →
      EditsItems scope siblings (item :: items) (item' :: items')

end

mutual

/-- How members after the fields so far may be edited. -/
inductive EditsMembers (scope : Scope) : Entries Value → List Member → List Member → Prop
  | same {fields : Entries Value} {children children' : List Member} :
      Member.unplacedAll children' = Member.unplacedAll children →
      EditsMembers scope fields children children'
  | cons {fields more : Entries Value} {child : Member}
      {replacement children children' : List Member} :
      EditsMember scope fields child replacement → Adds scope fields child more →
      EditsMembers scope more children children' →
      EditsMembers scope fields (child :: children) (replacement ++ children')

/-- How one member may be edited.  Other members may stand in its place. -/
inductive EditsMember (scope : Scope) : Entries Value → Member → List Member → Prop
  | same {fields : Entries Value} {child child' : Member} : child'.unplaced = child.unplaced →
      EditsMember scope fields child [child']
  | field {fields : Entries Value} {name : String} {expr expr' : ValueExpr}
      {range range' : TextRange} :
      EditsValue scope (some fields) expr expr' →
      EditsMember scope fields (.field name expr range) [.field name expr' range']
  | block {fields : Entries Value} {name : String} {children children' : List Member}
      {range range' : TextRange} :
      EditsMembers scope [] children children' →
      EditsMember scope fields (.block name children range) [.block name children' range']
  /-- The members of the branch that is chosen in place of a choice. -/
  | splice {fields : Entries Value} {condition : Condition} {chosen : Bool}
      {thenChildren elseChildren children : List Member} {range : TextRange} :
      Chooses scope (some fields) condition chosen →
      EditsMembers scope fields (if chosen then thenChildren else elseChildren) children →
      EditsMember scope fields (.conditional condition thenChildren elseChildren range) children
  /-- Any other members in the branch that is not chosen. -/
  | keep {fields : Entries Value} {condition condition' : Condition} {chosen : Bool}
      {thenChildren elseChildren thenChildren' elseChildren' : List Member}
      {range range' : TextRange} :
      Chooses scope (some fields) condition chosen →
      condition'.unplaced = condition.unplaced →
      EditsMembers scope fields (if chosen then thenChildren else elseChildren)
        (if chosen then thenChildren' else elseChildren') →
      EditsMember scope fields (.conditional condition thenChildren elseChildren range)
        [.conditional condition' thenChildren' elseChildren' range']

end

/-- How a statement may be edited.  Its name stays, and so does a gather. -/
inductive EditsStatement (scope : Scope) : Statement → Statement → Prop
  | global {name : String} {expr expr' : ValueExpr} {range range' : TextRange} :
      EditsValue scope none expr expr' →
      EditsStatement scope (.global name expr range) (.global name expr' range')
  | metadata {key : String} {expr expr' : ValueExpr} {range range' : TextRange} :
      EditsValue scope none expr expr' →
      EditsStatement scope (.metadata key expr range) (.metadata key expr' range')
  | block {name : String} {children children' : List Member} {range range' : TextRange} :
      EditsMembers scope [] children children' →
      EditsStatement scope (.block name children range) (.block name children' range')
  | gather {g g' : Gather} : g'.unplaced = g.unplaced →
      EditsStatement scope (.gather g) (.gather g')

/-! ## Edits keep values -/

section

variable {scope : Scope} {siblings : Siblings} {depth : Nat}

/-- A condition that comes out in bare evaluation comes out as it is chosen. -/
theorem Evaluation.Chooses.eq {condition : Condition} {chosen chosen' : Bool}
    (h : Chooses scope siblings condition chosen)
    (h' : holds scope (Bare.effectsAt scope depth) siblings condition = .value chosen') :
    chosen' = chosen := by
  obtain ⟨fuel, pending, memory, after, hmemory, hrun⟩ := h
  have tracks := (effects_parametric fun slot _ => forceWith_tracks scope fuel pending slot).holds
    siblings condition memory hmemory
  rw [hrun] at tracks
  cases tracks with
  | value _ hsettles =>
    obtain ⟨other, hplain⟩ := hsettles.exists_eq
    have hbare := (Bare.effectsAt_parametric scope other).holds siblings condition
    rw [hplain] at hbare
    exact Bare.holds_unique h' hbare.symm

/-- A member that leads to fields in bare evaluation leads to those that it adds. -/
theorem Evaluation.Adds.eq {fields more more' : Entries Value} {child : Member}
    {path : List String} (h : Adds scope fields child more)
    (h' : member scope (Bare.effectsAt scope depth) path fields child = .value more') :
    more' = more := by
  obtain ⟨fuel, pending, path', memory, after, hmemory, hrun⟩ := h
  have tracks := (effects_parametric fun slot _ => forceWith_tracks scope fuel pending slot).member
    path' fields child memory hmemory
  rw [hrun] at tracks
  cases tracks with
  | value _ hsettles =>
    obtain ⟨other, hplain⟩ := hsettles.exists_eq
    have hbare := (Bare.effectsAt_parametric scope other).member path' fields child
    rw [hplain] at hbare
    exact Bare.member_unique h' hbare.symm

end

/-- A second document goes with the first one at a depth: names stand for the same things,
and calls yield at least the same values. -/
structure Carries (scope scope' : Scope) (depth : Nat) (call : Slot → Outcome Unit Value) :
    Prop where
  sees : scope.SeesLike scope'
  calls : ∀ slot value, Bare.slotValue scope depth slot = .value value → call slot = .value value

section

variable {scope scope' : Scope} {depth : Nat} {call : Slot → Outcome Unit Value}

mutual

/-- An edited expression yields the same value. -/
theorem EditsValue.carry (h : Carries scope scope' depth call) {siblings : Siblings} :
    ∀ {expr expr' : ValueExpr}, EditsValue scope siblings expr expr' → ∀ {result : Value},
      Evaluation.value scope (Bare.effectsAt scope depth) siblings expr = .value result →
      Evaluation.value scope' (Bare.effects scope.services call) siblings expr' = .value result
  | _, _, .same halike, _, hvalue => Bare.value_carry h.calls h.sees halike hvalue
  | _, _, .array hitems, _, hvalue => by
    simp only [Evaluation.value] at hvalue ⊢
    obtain ⟨values, hvalues, hresult⟩ := Outcome.bind_eq_value_iff.1 hvalue
    exact Outcome.bind_eq_value_iff.2 ⟨values, hitems.carry h hvalues, hresult⟩
  | _, _, .takeThen hchooses hthen, _, hvalue => by
    simp only [Evaluation.value] at hvalue
    obtain ⟨chosen, hholds, hresult⟩ := Outcome.bind_eq_value_iff.1 hvalue
    obtain rfl := hchooses.eq hholds
    exact hthen.carry h hresult
  | _, _, .takeElse hchooses helse, _, hvalue => by
    simp only [Evaluation.value] at hvalue
    obtain ⟨chosen, hholds, hresult⟩ := Outcome.bind_eq_value_iff.1 hvalue
    obtain rfl := hchooses.eq hholds
    exact helse.carry h hresult
  | _, _, .takeNull hchooses, _, hvalue => by
    simp only [Evaluation.value] at hvalue
    obtain ⟨chosen, hholds, hresult⟩ := Outcome.bind_eq_value_iff.1 hvalue
    obtain rfl := hchooses.eq hholds
    exact hresult
  | _, _, .keepThen hchooses halike hthen, _, hvalue => by
    simp only [Evaluation.value] at hvalue ⊢
    obtain ⟨chosen, hholds, hresult⟩ := Outcome.bind_eq_value_iff.1 hvalue
    obtain rfl := hchooses.eq hholds
    exact Outcome.bind_eq_value_iff.2
      ⟨true, Bare.holds_carry h.calls h.sees halike hholds, hthen.carry h hresult⟩
  | _, _, .keepElse hchooses halike helse, _, hvalue => by
    simp only [Evaluation.value] at hvalue ⊢
    obtain ⟨chosen, hholds, hresult⟩ := Outcome.bind_eq_value_iff.1 hvalue
    obtain rfl := hchooses.eq hholds
    exact Outcome.bind_eq_value_iff.2
      ⟨false, Bare.holds_carry h.calls h.sees halike hholds, helse.carry h hresult⟩
  | _, _, .keepNull hchooses halike, _, hvalue => by
    simp only [Evaluation.value] at hvalue ⊢
    obtain ⟨chosen, hholds, hresult⟩ := Outcome.bind_eq_value_iff.1 hvalue
    obtain rfl := hchooses.eq hholds
    exact Outcome.bind_eq_value_iff.2
      ⟨false, Bare.holds_carry h.calls h.sees halike hholds, hresult⟩

/-- Edited items yield the same values. -/
theorem EditsItems.carry (h : Carries scope scope' depth call) {siblings : Siblings} :
    ∀ {items items' : List ValueExpr}, EditsItems scope siblings items items' →
      ∀ {results : List Value},
      Evaluation.values scope (Bare.effectsAt scope depth) siblings items = .value results →
      Evaluation.values scope' (Bare.effects scope.services call) siblings items' = .value results
  | _, _, .nil, _, hvalues => hvalues
  | _, _, .cons hitem hitems, _, hvalues => by
    simp only [Evaluation.values] at hvalues ⊢
    obtain ⟨first, hfirst, hvalues⟩ := Outcome.bind_eq_value_iff.1 hvalues
    obtain ⟨rest, hrest, hresult⟩ := Outcome.bind_eq_value_iff.1 hvalues
    exact Outcome.bind_eq_value_iff.2 ⟨first, hitem.carry h hfirst,
      Outcome.bind_eq_value_iff.2 ⟨rest, hitems.carry h hrest, hresult⟩⟩

end

/-- Members, and then more members. -/
theorem members_append {m : Type → Type} [Monad m] [LawfulMonad m] (scope : Scope)
    (effects : Effects m) (path : List String) (fields : Entries Value) (a b : List Member) :
    Evaluation.members scope effects path fields (a ++ b) =
      Evaluation.members scope effects path fields a >>= fun more =>
        Evaluation.members scope effects path more b := by
  induction a generalizing fields with
  | nil => simp only [List.nil_append, Evaluation.members, pure_bind]
  | cons child a ih => simp only [List.cons_append, Evaluation.members, ih, bind_assoc]

/-- The members of a branch. -/
theorem members_ite {m : Type → Type} [Monad m] (scope : Scope) (effects : Effects m)
    (path : List String) (fields : Entries Value) (chosen : Bool) (a b : List Member) :
    Evaluation.members scope effects path fields (if chosen then a else b) =
      if chosen then Evaluation.members scope effects path fields a
      else Evaluation.members scope effects path fields b := by
  cases chosen <;> rfl

mutual

/-- Edited members lead to the same fields. -/
theorem EditsMembers.carry (h : Carries scope scope' depth call) :
    ∀ {fields : Entries Value} {children children' : List Member},
      EditsMembers scope fields children children' →
      ∀ {path path' : List String} {result : Entries Value},
      Evaluation.members scope (Bare.effectsAt scope depth) path fields children =
        .value result →
      Evaluation.members scope' (Bare.effects scope.services call) path' fields children' =
        .value result
  | _, _, _, .same halike, _, _, _, hfields => Bare.members_carry h.calls h.sees halike hfields
  | _, _, _, .cons hchild hadds hrest, _, _, _, hfields => by
    simp only [Evaluation.members] at hfields
    obtain ⟨more, hmore, hresult⟩ := Outcome.bind_eq_value_iff.1 hfields
    have heq := hadds.eq hmore
    rw [heq] at hmore hresult
    rw [members_append]
    exact Outcome.bind_eq_value_iff.2 ⟨_, hchild.carry h hmore, hrest.carry h hresult⟩

/-- The members in place of one that is edited lead to the same fields. -/
theorem EditsMember.carry (h : Carries scope scope' depth call) :
    ∀ {fields : Entries Value} {child : Member} {replacement : List Member},
      EditsMember scope fields child replacement →
      ∀ {path path' : List String} {result : Entries Value},
      Evaluation.member scope (Bare.effectsAt scope depth) path fields child = .value result →
      Evaluation.members scope' (Bare.effects scope.services call) path' fields replacement =
        .value result
  | fields, child, _, .same halike, path, _, result, hfields => by
    have hmembers : Evaluation.members scope (Bare.effectsAt scope depth) path fields [child] =
        .value result := by
      simp only [Evaluation.members, bind_pure]
      exact hfields
    refine Bare.members_carry h.calls h.sees ?_ hmembers
    simpa only [Member.unplacedAll] using congrArg (fun child => [child]) halike
  | _, _, _, .field hexpr, _, _, _, hfields => by
    simp only [Evaluation.member] at hfields
    obtain ⟨value, hvalue, hresult⟩ := Outcome.bind_eq_value_iff.1 hfields
    simp only [Evaluation.members, Evaluation.member, bind_pure, hexpr.carry h hvalue]
    exact hresult
  | _, _, _, .block hchildren, _, _, _, hfields => by
    simp only [Evaluation.member] at hfields
    obtain ⟨_, -, hinner⟩ := Outcome.bind_eq_value_iff.1 hfields
    obtain ⟨inner, hinner, hresult⟩ := Outcome.bind_eq_value_iff.1 hinner
    simp only [Evaluation.members, Evaluation.member, bind_pure]
    exact Outcome.bind_eq_value_iff.2 ⟨(), rfl,
      Outcome.bind_eq_value_iff.2 ⟨inner, hchildren.carry h hinner, hresult⟩⟩
  | _, _, _, .splice hchooses hchildren, _, _, _, hfields => by
    simp only [Evaluation.member] at hfields
    obtain ⟨chosen, hholds, hresult⟩ := Outcome.bind_eq_value_iff.1 hfields
    rw [hchooses.eq hholds, ← members_ite] at hresult
    exact hchildren.carry h hresult
  | _, _, _, .keep hchooses halike hchildren, _, _, _, hfields => by
    simp only [Evaluation.member] at hfields
    obtain ⟨chosen, hholds, hresult⟩ := Outcome.bind_eq_value_iff.1 hfields
    have heq := hchooses.eq hholds
    rw [heq] at hholds hresult
    have hholds' := Bare.holds_carry h.calls h.sees halike hholds
    simp only [Evaluation.members, Evaluation.member, bind_pure]
    refine Outcome.bind_eq_value_iff.2 ⟨_, hholds', ?_⟩
    rw [← members_ite] at hresult ⊢
    exact hchildren.carry h hresult

end

end

/-! ## Documents -/

/-- A second document binds edited trees to the same names, and names stand for the same
things in it. -/
structure Scope.Revises (scope scope' : Scope) : Prop where
  sees : scope.SeesLike scope'
  globals : ∀ name bound, Entries.get? name scope.globals = some bound →
    ∃ bound', Entries.get? name scope'.globals = some bound' ∧
      EditsValue scope none bound.1 bound'.1
  items : ∀ name bound, Entries.get? name scope.items = some bound →
    ∃ bound', Entries.get? name scope'.items = some bound' ∧
      EditsMembers scope [] bound.1 bound'.1

namespace Scope.Revises

variable {scope scope' : Scope}

/-- An edited binding yields the same value, if calls do. -/
theorem bindingValue (h : scope.Revises scope') {depth : Nat} {call : Slot → Outcome Unit Value}
    (hcarries : Carries scope scope' depth call) {slot : Slot} {value : Value}
    (hvalue : Evaluation.bindingValue scope (Bare.effectsAt scope depth) slot = .value value) :
    Evaluation.bindingValue scope' (Bare.effects scope.services call) slot = .value value := by
  unfold Evaluation.bindingValue at hvalue ⊢
  cases slot with
  | global name =>
    dsimp only at hvalue ⊢
    cases hbound : Entries.get? name scope.globals with
    | none =>
      rw [hbound] at hvalue
      cases hvalue
    | some bound =>
      obtain ⟨bound', hbound', hedits⟩ := h.globals name bound hbound
      rw [hbound] at hvalue
      rw [hbound']
      exact hedits.carry hcarries hvalue
  | item name =>
    dsimp only at hvalue ⊢
    cases hbound : Entries.get? name scope.items with
    | none =>
      rw [hbound] at hvalue
      cases hvalue
    | some bound =>
      obtain ⟨bound', hbound', hedits⟩ := h.items name bound hbound
      rw [hbound] at hvalue
      rw [hbound']
      obtain ⟨fields, hfields, hresult⟩ := Outcome.bind_eq_value_iff.1 hvalue
      exact Outcome.bind_eq_value_iff.2 ⟨fields, hedits.carry hcarries hfields, hresult⟩

/-- The bindings of the second document go with those of the first one at every depth. -/
theorem carries (h : scope.Revises scope') (depth : Nat) :
    Carries scope scope' depth (Bare.slotValue scope' depth) := by
  refine ⟨h.sees, ?_⟩
  induction depth with
  | zero => exact fun _ _ hvalue => nomatch hvalue
  | succ depth ih =>
    intro slot value hvalue
    rw [Bare.slotValue, h.sees.services]
    exact h.bindingValue ⟨h.sees, ih⟩ hvalue

/-- The bindings of the second document yield the same values. -/
theorem yields (h : scope.Revises scope') {slot : Slot} {value : Value}
    (hvalue : ByName.Yields scope (.slot slot) value) :
    ByName.Yields scope' (.slot slot) value := by
  obtain ⟨depth, hvalue⟩ := Bare.yields_iff.1 hvalue
  exact Bare.yields_iff.2 ⟨depth, (h.carries depth).calls slot value hvalue⟩

/-- An edited expression outside of objects yields the same value. -/
theorem yields_metadata (h : scope.Revises scope') {expr expr' : ValueExpr}
    (hedits : EditsValue scope none expr expr') {value : Value}
    (hvalue : ByName.Yields scope (.metadata expr) value) :
    ByName.Yields scope' (.metadata expr') value := by
  obtain ⟨depth, hvalue⟩ := Bare.yields_iff.1 hvalue
  refine Bare.yields_iff.2 ⟨depth, ?_⟩
  rw [Bare.outcome, Bare.effectsAt, h.sees.services]
  exact hedits.carry (h.carries depth) hvalue

end Scope.Revises

end Rune
