import Rune.Proofs.Evaluation.Editing
import Rune.Session.Origin

/-!
# Rune - places in a document

A binding stands in a place: among the fields that the object around it has so far, each of
which has a place of its own.  Finding places again evaluates the members of objects anew, and
that leads to the fields that they led to.

The number of steps that a path can take from a place is bounded.  An expression consists of
less than itself, the places around it are those of earlier members, and a top-level binding
that it refers to has a value where calls nest less deep.

Main results:

- Inductive {lit}`Origin.Placed`: the bindings of a document and their parts that are evaluated.
- Inductive {lit}`Origin.Stands`: the binding in a place comes to a value, and a path from there
  takes a bounded number of steps.
- Theorem {lit}`Origin.settle_ok`: the members of an object settle to the fields that they lead
  to, and each field has a place.
- Theorem {lit}`Origin.denotes_of_slot`: a reference to a top-level binding leads to what has
  its value.
-/

namespace Rune

open Evaluation (sibling? topEffects)

/-! ## Weights -/

namespace ValueExpr

theorem weight_pos (expr : ValueExpr) : 0 < expr.weight := by
  cases expr <;> simp [weight]

/-- An item weighs at most as much as all items. -/
theorem weight_le_weightAll {expr : ValueExpr} {items : List ValueExpr} (h : expr ∈ items) :
    expr.weight ≤ weightAll items := by
  induction items with
  | nil => cases h
  | cons first items ih =>
    rw [weightAll]
    rcases List.mem_cons.1 h with rfl | h
    · exact Nat.le_add_right _ _
    · exact Nat.le_trans (ih h) (Nat.le_add_left _ _)

end ValueExpr

/-- A document has gathered a configuration, to include it or under an alias. -/
def Scope.HasGathered (scope : Scope) (config : Config) : Prop :=
  config ∈ scope.includes ∨ ∃ name, Entries.get? name scope.aliases = some config

namespace Origin

variable {scope : Scope}

/-- The weight of the bindings of a document that have a value where calls nest at most
{lit}`depth` deep. -/
def settledWeight (scope : Scope) (depth : Nat) : Nat :=
  weightAt (fun bound depth => Bare.slotValue scope depth bound.1) Prod.snd depth scope.weights

theorem settledWeight_le_succ (depth : Nat) :
    settledWeight scope depth ≤ settledWeight scope (depth + 1) :=
  weightAt_mono _ (fun bound => Bare.slotValue_mono (Nat.le_succ depth) bound.1) _

theorem settledWeight_le (scope : Scope) (depth : Nat) :
    settledWeight scope depth ≤ scope.weight :=
  weightAt_le _ _ depth _

/-- The binding in a slot weighs what it contributes to the document. -/
theorem mem_weights {slot : Slot} {binding : Binding}
    (h : slotTarget? scope slot = some (.here (.top binding))) :
    (slot, binding.weight) ∈ scope.weights := by
  cases slot with
  | global name =>
    obtain ⟨bound, hbound, heq⟩ := Option.map_eq_some_iff.1 h
    cases heq
    exact List.mem_append_left _ (List.mem_map.2 ⟨_, Entries.mem_of_get? hbound, rfl⟩)
  | item name =>
    obtain ⟨bound, hbound, heq⟩ := Option.map_eq_some_iff.1 h
    cases heq
    exact List.mem_append_right _ (List.mem_map.2 ⟨_, Entries.mem_of_get? hbound, rfl⟩)

/-- A binding that has a value only one level deeper makes up for its weight. -/
theorem settledWeight_add_le {slot : Slot} {binding : Binding} {depth : Nat} {value : Value}
    (hbinding : slotTarget? scope slot = some (.here (.top binding)))
    (hnew : ∀ other, Bare.slotValue scope depth slot ≠ .value other)
    (hvalue : Bare.slotValue scope (depth + 1) slot = .value value) :
    settledWeight scope depth + binding.weight ≤ settledWeight scope (depth + 1) :=
  weightAt_add_le _ (fun bound => Bare.slotValue_mono (Nat.le_succ depth) bound.1)
    (mem_weights hbinding) hnew hvalue

/-! ## Bindings of a document -/

mutual

/-- Evaluating members after some fields comes by a binding, with the fields before it. -/
inductive Meets (scope : Scope) : Entries Value → List Member → Binding → Entries Value → Prop
  | first {fields before : Entries Value} {child : Member} {children : List Member}
      {binding : Binding} : MeetsMember scope fields child binding before →
      Meets scope fields (child :: children) binding before
  | later {fields more before : Entries Value} {child : Member} {children : List Member}
      {binding : Binding} {path : List String} {depth : Nat} :
      Evaluation.member scope (Bare.effectsAt scope depth) path fields child = .value more →
      Meets scope more children binding before →
      Meets scope fields (child :: children) binding before

/-- Evaluating one member comes by a binding. -/
inductive MeetsMember (scope : Scope) :
    Entries Value → Member → Binding → Entries Value → Prop
  | field {fields : Entries Value} {name : String} {expr : ValueExpr} {range : TextRange} :
      MeetsMember scope fields (.field name expr range) (.value expr) fields
  | block {fields : Entries Value} {name : String} {children : List Member} {range : TextRange} :
      MeetsMember scope fields (.block name children range) (.block children range) fields
  /-- Of a condition the chosen branch counts. -/
  | choice {fields before : Entries Value} {condition : Condition} {chosen : Bool}
      {thenChildren elseChildren : List Member} {range : TextRange} {binding : Binding}
      {depth : Nat} :
      Evaluation.holds scope (Bare.effectsAt scope depth) (some fields) condition =
        .value chosen →
      Meets scope fields (if chosen then thenChildren else elseChildren) binding before →
      MeetsMember scope fields (.conditional condition thenChildren elseChildren range) binding
        before

end

/-- A binding of a document, or a part of it that is evaluated, with the fields around it. -/
inductive Placed (scope : Scope) : Binding → Siblings → Prop
  | top {space : Namespace} {key : String} {binding : Binding} :
      topTarget? scope space key = some (.here (.top binding)) → Placed scope binding none
  | member {children : List Member} {range : TextRange} {fields : Siblings} {binding : Binding}
      {before : Entries Value} : Placed scope (.block children range) fields →
      Meets scope [] children binding before → Placed scope binding (some before)
  | item {items : List ValueExpr} {range : TextRange} {fields : Siblings} {expr : ValueExpr} :
      Placed scope (.value (.array items range)) fields → expr ∈ items →
      Placed scope (.value expr) fields
  | choice {condition : Condition} {thenValue chosenValue : ValueExpr}
      {elseValue : Option ValueExpr} {range : TextRange} {fields : Siblings} {chosen : Bool}
      {depth : Nat} :
      Placed scope (.value (.conditional condition thenValue elseValue range)) fields →
      Evaluation.holds scope (Bare.effectsAt scope depth) fields condition = .value chosen →
      (if chosen then some thenValue else elseValue) = some chosenValue →
      Placed scope (.value chosenValue) fields

/-! ## Places and values -/

mutual

/-- What is bound in a place comes to a value.  A path from there leads through at most
{lit}`steps` more places: through the parts of the binding, through the places around it, and
through the bindings that have a value less deep. -/
inductive Stands (scope : Scope) : Nat → Site → Value → Prop
  | value {expr : ValueExpr} {fields : Siblings} {places : List (String × Site)} {value : Value}
      {depth around steps : Nat} : Placed scope (.value expr) fields →
      Evaluation.value scope (Bare.effectsAt scope depth) fields expr = .value value →
      Backed scope around fields places → settledWeight scope depth ≤ around →
      around + expr.weight ≤ steps → Stands scope steps ⟨.value expr, fields, places⟩ value
  | block {children : List Member} {range : TextRange} {fields : Siblings}
      {places : List (String × Site)} {path : List String} {inner : Entries Value}
      {depth steps : Nat} : Placed scope (.block children range) fields →
      Evaluation.members scope (Bare.effectsAt scope depth) path [] children = .value inner →
      Member.weightAll children + settledWeight scope depth < steps →
      Stands scope steps ⟨.block children range, fields, places⟩ (.object inner)

/-- Every field has a place that comes to its value, and there are no other places. -/
inductive Backed (scope : Scope) : Nat → Siblings → List (String × Site) → Prop
  | intro {steps : Nat} {fields : Siblings} {places : List (String × Site)} :
      (∀ key, (Entries.get? key places).isSome = (sibling? fields key).isSome) →
      (∀ key site value, Entries.get? key places = some site → sibling? fields key = some value →
        Stands scope steps site value) → Backed scope steps fields places

end

/-- More steps are allowed. -/
theorem Stands.mono {steps more : Nat} {site : Site} {value : Value}
    (h : Stands scope steps site value) (hmore : steps ≤ more) : Stands scope more site value := by
  cases h with
  | value hplaced hvalue hbacked haround hsteps =>
    exact .value hplaced hvalue hbacked haround (Nat.le_trans hsteps hmore)
  | block hplaced hinner hsteps => exact .block hplaced hinner (Nat.lt_of_lt_of_le hsteps hmore)

namespace Backed

/-- Without fields there are no places. -/
theorem nil {fields : Siblings} (h : ∀ key, sibling? fields key = none) (steps : Nat) :
    Backed scope steps fields [] :=
  ⟨fun key => by simp [h, Entries.get?], fun _ _ _ h => by simp [Entries.get?] at h⟩

/-- A field that is given a value is given a place. -/
theorem insert {steps more : Nat} {fields : Entries Value} {places : List (String × Site)}
    (h : Backed scope steps (some fields) places) (hmore : steps ≤ more) {site : Site}
    {value : Value} (hsite : Stands scope more site value) (key : String) :
    Backed scope more (some (Entries.insert key value fields))
      (Entries.insert key site places) := by
  obtain ⟨hkeys, hstands⟩ := h
  simp only [sibling?, Option.bind_some] at hkeys hstands
  refine ⟨fun other => ?_, fun other place known hplace hknown => ?_⟩
  · by_cases hother : other = key
    · simp [hother, sibling?]
    · simp [sibling?, Entries.get?_insert_of_ne hother, hkeys]
  · simp only [sibling?, Option.bind_some] at hknown
    by_cases hother : other = key
    · subst hother
      rw [Entries.get?_insert_self] at hplace hknown
      cases hplace
      cases hknown
      exact hsite
    · rw [Entries.get?_insert_of_ne hother] at hplace hknown
      exact (hstands other place known hplace hknown).mono hmore

/-- More steps are allowed. -/
theorem mono {steps more : Nat} {fields : Siblings} {places : List (String × Site)}
    (h : Backed scope steps fields places) (hmore : steps ≤ more) :
    Backed scope more fields places := by
  obtain ⟨hkeys, hstands⟩ := h
  exact ⟨hkeys, fun key site value hsite hvalue => (hstands key site value hsite hvalue).mono hmore⟩

end Backed

/-! ## Evaluating anew -/

section

variable {memory : Memory} {depth : Nat}

/-- Top-level bindings are evaluated to what they plainly come to. -/
theorem effects_parametric (scope : Scope) :
    Parametric scope (fun {_} x y => Tracks scope (fun _ => True) x y) (topEffects scope)
      (ByName.effectsAt scope) :=
  Evaluation.effects_parametric fun _ hslot => Evaluation.forceSlot_tracks hslot

/-- A condition that comes out is decided so. -/
theorem holds_ok {siblings : Siblings} {condition : Condition} {chosen : Bool}
    (hmemory : memory.Faithful scope)
    (h : Evaluation.holds scope (Bare.effectsAt scope depth) siblings condition = .value chosen) :
    ∃ after, Evaluation.holds scope (topEffects scope) siblings condition memory =
        .ok chosen after ∧ after.Faithful scope :=
  ((effects_parametric scope).holds siblings condition memory hmemory).ok_of_eq
    (fun _ => trivial) (Outcome.bare_eq_value_iff.1
      (((Bare.effectsAt_parametric scope depth).holds siblings condition).trans h))

/-- A member that leads to more fields is evaluated to them, wherever its object is. -/
theorem member_ok {path path' : List String} {fields more : Entries Value} {child : Member}
    (hmemory : memory.Faithful scope)
    (h : Evaluation.member scope (Bare.effectsAt scope depth) path' fields child = .value more) :
    ∃ after, Evaluation.member scope (topEffects scope) path fields child memory = .ok more after ∧
      after.Faithful scope :=
  ((effects_parametric scope).member path fields child memory hmemory).ok_of_eq
    (fun _ => trivial) (Outcome.bare_eq_value_iff.1
      (((Bare.effectsAt_parametric scope depth).member path fields child).trans
        (Bare.member_carry (fun _ _ => id) (.refl scope) h)))

end

mutual

/-- The members of an object settle to the fields that they lead to, and each field has a place.
The number of steps from there grows by what the members weigh. -/
theorem settle_ok {memory : Memory} {fields result : Entries Value}
    {places : List (String × Site)} {depth steps : Nat} {path : List String}
    (hmemory : memory.Faithful scope) (hbacked : Backed scope steps (some fields) places)
    (hsteps : settledWeight scope depth ≤ steps) : ∀ {children : List Member},
    (∀ binding before, Meets scope fields children binding before →
      Placed scope binding (some before)) →
    Evaluation.members scope (Bare.effectsAt scope depth) path fields children = .value result →
    ∃ settled after, settle scope fields places children memory = .ok (result, settled) after ∧
      after.Faithful scope ∧
      Backed scope (steps + Member.weightAll children) (some result) settled
  | [], _, h => by
    cases h
    exact ⟨places, memory, rfl, hmemory, hbacked⟩
  | child :: children, hplaced, h => by
    obtain ⟨more, hmore, h⟩ := Outcome.bind_eq_value_iff.1 h
    obtain ⟨first, mid, hfirst, hmid, hplaces⟩ := settleMember_ok hmemory hbacked hsteps
      (fun binding before hmeets => hplaced binding before (.first hmeets)) hmore
    obtain ⟨settled, after, hrest, hafter, hsettled⟩ :=
      settle_ok hmid hplaces (Nat.le_trans hsteps (Nat.le_add_right _ _))
        (fun binding before hmeets => hplaced binding before (.later hmore hmeets)) h
    refine ⟨settled, after, bind_eq_ok_iff.2 ⟨_, mid, hfirst, hrest⟩, hafter, ?_⟩
    rwa [Member.weightAll, ← Nat.add_assoc]

theorem settleMember_ok {memory : Memory} {fields result : Entries Value}
    {places : List (String × Site)} {depth steps : Nat} {path : List String}
    (hmemory : memory.Faithful scope) (hbacked : Backed scope steps (some fields) places)
    (hsteps : settledWeight scope depth ≤ steps) : ∀ {child : Member},
    (∀ binding before, MeetsMember scope fields child binding before →
      Placed scope binding (some before)) →
    Evaluation.member scope (Bare.effectsAt scope depth) path fields child = .value result →
    ∃ settled after, settleMember scope fields places child memory = .ok (result, settled) after ∧
      after.Faithful scope ∧ Backed scope (steps + child.weight) (some result) settled
  | .field name expr range, hplaced, h => by
    obtain ⟨after, hrun, hafter⟩ := member_ok hmemory h
    obtain ⟨value, hvalue, h⟩ := Outcome.bind_eq_value_iff.1 h
    cases h
    refine ⟨_, after, bind_eq_ok_iff.2 ⟨_, after, hrun, rfl⟩, hafter, ?_⟩
    refine hbacked.insert (Nat.le_add_right _ _) ?_ _
    exact .value (hplaced _ _ .field) hvalue hbacked hsteps (Nat.le_refl _)
  | .block name children range, hplaced, h => by
    obtain ⟨after, hrun, hafter⟩ := member_ok hmemory h
    -- The location of the block is recorded before its fields.
    obtain ⟨_, -, h⟩ := Outcome.bind_eq_value_iff.1 h
    obtain ⟨inner, hinner, h⟩ := Outcome.bind_eq_value_iff.1 h
    cases h
    refine ⟨_, after, bind_eq_ok_iff.2 ⟨_, after, hrun, rfl⟩, hafter, ?_⟩
    refine hbacked.insert (Nat.le_add_right _ _) ?_ _
    refine .block (hplaced _ _ .block) hinner ?_
    rw [Member.weight]
    omega
  | .conditional condition thenChildren elseChildren range, hplaced, h => by
    obtain ⟨chosen, hchosen, h⟩ := Outcome.bind_eq_value_iff.1 h
    obtain ⟨mid, hrun, hmid⟩ := holds_ok hmemory hchosen
    have hbranch : ∀ binding before,
        Meets scope fields (if chosen then thenChildren else elseChildren) binding before →
        Placed scope binding (some before) :=
      fun binding before hmeets => hplaced binding before (.choice hchosen hmeets)
    rw [Member.weight]
    cases chosen with
    | true =>
      obtain ⟨settled, after, hrest, hafter, hsettled⟩ := settle_ok hmid hbacked hsteps hbranch h
      exact ⟨settled, after, bind_eq_ok_iff.2 ⟨_, mid, hrun, hrest⟩, hafter,
        hsettled.mono (Nat.add_le_add_left (Nat.le_add_right _ _) _)⟩
    | false =>
      obtain ⟨settled, after, hrest, hafter, hsettled⟩ := settle_ok hmid hbacked hsteps hbranch h
      exact ⟨settled, after, bind_eq_ok_iff.2 ⟨_, mid, hrun, hrest⟩, hafter,
        hsettled.mono (Nat.add_le_add_left (Nat.le_add_left _ _) _)⟩

end

/-! ## Targets -/

/-- What a path goes on from has a value. -/
inductive Denotes (scope : Scope) : Nat → Target → Value → Prop
  | here {steps : Nat} {site : Site} {value : Value} : Stands scope steps site value →
      Denotes scope steps (.here site) value
  | elsewhere {steps : Nat} {config : Config} {space : Namespace} {key : String} {value : Value} :
      scope.HasGathered config → Entries.get? key (config.values space) = some value →
      Denotes scope steps (.elsewhere config space key) value

/-- More steps are allowed. -/
theorem Denotes.mono {steps more : Nat} {target : Target} {value : Value}
    (h : Denotes scope steps target value) (hmore : steps ≤ more) :
    Denotes scope more target value := by
  cases h with
  | here hstands => exact .here (hstands.mono hmore)
  | elsewhere hgathered hvalue => exact .elsewhere hgathered hvalue

/-- A top-level binding stands for the value that it yields. -/
theorem stands_top {slot : Slot} {depth : Nat} {value : Value}
    (h : Bare.slotValue scope (depth + 1) slot = .value value) :
    ∃ binding, slotTarget? scope slot = some (.here (.top binding)) ∧
      Stands scope (settledWeight scope depth + binding.weight) (.top binding) value := by
  cases slot with
  | global name =>
    simp only [Bare.slotValue, Evaluation.bindingValue] at h
    cases hbound : Entries.get? name scope.globals with
    | none =>
      rw [hbound] at h
      cases h
    | some bound =>
      rw [hbound] at h
      have htop : topTarget? scope .globals name = some (.here (.top (.value bound.1))) := by
        simp only [topTarget?, hbound, Option.map_some]
      exact ⟨_, htop, .value (.top htop) h (.nil (fun _ => rfl) _) (Nat.le_refl _) (Nat.le_refl _)⟩
  | item name =>
    simp only [Bare.slotValue, Evaluation.bindingValue] at h
    cases hbound : Entries.get? name scope.items with
    | none =>
      rw [hbound] at h
      cases h
    | some bound =>
      rw [hbound] at h
      obtain ⟨inner, hinner, hvalue⟩ := Outcome.bind_eq_value_iff.1 h
      cases hvalue
      have htop : topTarget? scope .items name = some (.here (.top (.block bound.1 bound.2))) := by
        simp only [topTarget?, hbound, Option.map_some]
      refine ⟨_, htop, .block (.top htop) hinner ?_⟩
      rw [Binding.weight]
      omega

/-- A reference to a top-level binding leads to what has its value, and on from there only to
bindings that have a value at that depth.  The induction is down to the least such depth. -/
theorem denotes_of_slot {slot : Slot} {depth : Nat} {value : Value}
    (h : Bare.slotValue scope depth slot = .value value) :
    ∃ target, slotTarget? scope slot = some target ∧
      Denotes scope (settledWeight scope depth) target value := by
  induction depth with
  | zero => cases h
  | succ depth ih =>
    by_cases hbelow : ∃ other, Bare.slotValue scope depth slot = .value other
    · obtain ⟨other, hother⟩ := hbelow
      have hsame := Bare.slotValue_mono (Nat.le_succ depth) slot other hother
      rw [h] at hsame
      cases hsame
      obtain ⟨target, htarget, hdenotes⟩ := ih hother
      exact ⟨target, htarget, hdenotes.mono (settledWeight_le_succ depth)⟩
    · obtain ⟨binding, hbinding, hstands⟩ := stands_top h
      have hnew := fun other hother => hbelow ⟨other, hother⟩
      exact ⟨_, hbinding, .here (hstands.mono (settledWeight_add_le hbinding hnew h))⟩

end Origin

end Rune
