import Rune.Proofs.Evaluation.Force
import Rune.Proofs.Evaluation.Stacks
import Mathlib.Data.List.Nodup

/-!
# Rune - stacks are kept in order

An evaluation with stacks does what evaluation does that hands on the bindings being
evaluated and the fields around.  It leaves the stacks as they were, whether it succeeds or
fails, and the bindings being evaluated are all different.  Hence its fuel lasts.

Main results:

- Structure {lit}`Machine.Sound` is the invariant: at no moment a binding was on the stack
  twice, and every evaluation of a binding has left the stacks as they were.
- Definition {lit}`Mirrors` relates an evaluation with stacks to one without.
- Theorem {lit}`Stacked.evaluate_steady`: evaluating a document with stacks mirrors its
  evaluation.
-/

namespace Rune

/-- The bindings being evaluated are all different, and the document has them. -/
structure Scope.Admits (scope : Scope) (pending : List Slot) : Prop where
  nodup : pending.Nodup
  binds : ∀ slot ∈ pending, scope.Binds slot

/-- One more binding. -/
theorem Scope.Admits.snoc {scope : Scope} {pending : List Slot} (h : scope.Admits pending)
    {slot : Slot} (hslot : scope.Binds slot) (hnew : slot ∉ pending) :
    scope.Admits (pending ++ [slot]) := by
  constructor
  · rw [← List.concat_eq_append]
    exact List.Nodup.concat hnew h.nodup
  · intro other hother
    rcases List.mem_append.1 hother with hother | hother
    · exact h.binds other hother
    · obtain rfl := List.mem_singleton.1 hother
      exact hslot

/-! ## The invariant -/

/-- At every moment the bindings being evaluated were all different, and every evaluation
of a binding has left the stacks as they were. -/
structure Machine.Sound (scope : Scope) (machine : Machine) : Prop where
  pending : scope.Admits machine.frame.pending
  moments : ∀ moment ∈ machine.moments, scope.Admits moment
  exits : ∀ before after, (before, after) ∈ machine.exits → after = before

namespace Machine.Sound

variable {scope : Scope} {machine : Machine}

/-- Nothing has happened yet. -/
theorem start (scope : Scope) (memory : Memory) : (Machine.start memory).Sound scope := by
  have hnil : scope.Admits [] := ⟨List.nodup_nil, by simp⟩
  refine ⟨hnil, fun moment hmoment => ?_, by simp [Machine.start]⟩
  obtain rfl := List.mem_singleton.1 hmoment
  exact hnil

theorem with_memory (h : machine.Sound scope) (memory : Memory) :
    { machine with memory := memory }.Sound scope :=
  ⟨h.pending, h.moments, h.exits⟩

theorem withScopes (h : machine.Sound scope) (scopes : List (Entries Value)) :
    (machine.withScopes scopes).Sound scope :=
  ⟨h.pending, h.moments, h.exits⟩

theorem withPending (h : machine.Sound scope) {pending : List Slot}
    (hpending : scope.Admits pending) : (machine.withPending pending).Sound scope := by
  refine ⟨hpending, fun moment hmoment => ?_, h.exits⟩
  rcases List.mem_append.1 hmoment with hmoment | hmoment
  · exact h.moments moment hmoment
  · obtain rfl := List.mem_singleton.1 hmoment
    exact hpending

/-- An evaluation of a binding ends with the stacks as they were. -/
theorem exit (h : machine.Sound scope) : (machine.exit machine.frame).Sound scope := by
  refine ⟨h.pending, h.moments, fun before after hexit => ?_⟩
  rcases List.mem_append.1 hexit with hexit | hexit
  · exact h.exits before after hexit
  · cases List.mem_singleton.1 hexit
    rfl

end Machine.Sound

/-! ## Mirroring -/

section

variable {α β γ δ : Type}

/-- Two results are those of an evaluation with stacks and of one without: from the same
memory, for the same reason if they are failures, and with stacks as demanded. -/
inductive Mirrored (scope : Scope) (done : α → β → Frame → Prop) (failed : Frame → Prop) :
    EStateM.Result Halt Machine α → EStateM.Result Flaw Memory β → Prop
  | ok {a : α} {b : β} {machine : Machine} : machine.Sound scope → done a b machine.frame →
      Mirrored scope done failed (.ok a machine) (.ok b machine.memory)
  | error {flaw : Flaw} {machine : Machine} : machine.Sound scope → failed machine.frame →
      Mirrored scope done failed (.error (.flaw flaw) machine) (.error flaw machine.memory)

/-- From given stacks an evaluation with stacks does what one without does, and it leaves
stacks as demanded. -/
def Mirrors (scope : Scope) (frame : Frame) (x : Stacked α) (y : Eval β)
    (done : α → β → Frame → Prop) (failed : Frame → Prop) : Prop :=
  ∀ machine : Machine, machine.Sound scope → machine.frame = frame →
    Mirrored scope done failed (x machine) (y machine.memory)

/-- An evaluation with stacks does what one without does and leaves the stacks as they
were. -/
abbrev Steady (scope : Scope) (frame : Frame) (x : Stacked α) (y : Eval α) : Prop :=
  Mirrors scope frame x y (fun a b after => a = b ∧ after = frame) (· = frame)

/-- An evaluation with stacks builds the fields of the innermost object as one without
does, and leaves the rest of the stacks as it was. -/
abbrev Builds (scope : Scope) (pending : List Slot) (outer : List (Entries Value))
    (fields : Entries Value) (x : Stacked Unit) (y : Eval (Entries Value)) : Prop :=
  Mirrors scope ⟨pending, outer ++ [fields]⟩ x y
    (fun _ built after => after = ⟨pending, outer ++ [built]⟩)
    (fun after => ∃ last, after = ⟨pending, outer ++ [last]⟩)

variable {scope : Scope} {frame : Frame}

/-- One evaluation after another. -/
theorem Mirrors.bind {x : Stacked α} {y : Eval β} {f : α → Stacked γ} {g : β → Eval δ}
    {mid : α → β → Frame → Prop} {done : γ → δ → Frame → Prop} {failed failed' : Frame → Prop}
    (hx : Mirrors scope frame x y mid failed) (hfailed : ∀ after, failed after → failed' after)
    (hf : ∀ a b after, mid a b after → Mirrors scope after (f a) (g b) done failed') :
    Mirrors scope frame (x >>= f) (y >>= g) done failed' := by
  intro machine hsound hframe
  have first := hx machine hsound hframe
  simp only [Bind.bind, EStateM.bind]
  generalize x machine = result at first ⊢
  generalize y machine.memory = result' at first ⊢
  cases first with
  | ok hafter hmid => exact hf _ _ _ hmid _ hafter rfl
  | error hafter hstopped => exact .error hafter (hfailed _ hstopped)

namespace Steady

/-- A value without computation. -/
theorem pure (a : α) : Steady scope frame (pure a) (pure a) :=
  fun _ hsound hframe => .ok hsound ⟨rfl, hframe⟩

/-- One after another. -/
theorem bind {x : Stacked α} {y : Eval α} {f : α → Stacked β} {g : α → Eval β}
    (hx : Steady scope frame x y) (hf : ∀ a, Steady scope frame (f a) (g a)) :
    Steady scope frame (x >>= f) (y >>= g) := by
  refine Mirrors.bind hx (fun _ h => h) ?_
  rintro a b after ⟨rfl, rfl⟩
  exact hf a

/-- What leaves the stacks alone. -/
theorem lift (x : Eval α) : Steady scope frame (Stacked.lift x) x := by
  intro machine hsound hframe
  unfold Stacked.lift
  cases x machine.memory with
  | ok a memory => exact .ok (hsound.with_memory memory) ⟨rfl, hframe⟩
  | error flaw memory => exact .error (hsound.with_memory memory) hframe

/-- What depends on the stacks. -/
theorem get_bind {f : Machine → Stacked α} {y : Eval α}
    (h : ∀ machine : Machine, machine.frame = frame → Steady scope frame (f machine) y) :
    Steady scope frame (get >>= f) y :=
  fun machine hsound hframe => h machine hframe machine hsound hframe

/-- What depends on the memory. -/
theorem get_bind_memory {f : Machine → Stacked α} {g : Memory → Eval α}
    (h : ∀ machine : Machine, Steady scope frame (f machine) (g machine.memory)) :
    Steady scope frame (get >>= f) (get >>= g) :=
  fun machine hsound hframe => h machine machine hsound hframe

end Steady

end

namespace Stacked

variable {scope : Scope} {frame : Frame} {force : Slot → TextRange → Stacked Value}
  {force' : Slot → TextRange → Eval Value}

/-! ## Expressions -/

/-- References that leave the stacks as they were. -/
abbrev ForcesSteady (scope : Scope) (frame : Frame) (force : Slot → TextRange → Stacked Value)
    (force' : Slot → TextRange → Eval Value) : Prop :=
  ∀ slot, scope.Binds slot → ∀ range, Steady scope frame (force slot range) (force' slot range)

/-- If references are steady, then so is all of evaluation. -/
theorem effects_steady (h : ForcesSteady scope frame force force') :
    Parametric scope (fun {_} x (y : Unit → Eval _) => Steady scope frame x (y ()))
      (effects scope force) (fun _ => Evaluation.effects scope force') where
  pure := .pure
  bind := .bind
  fail fault range := .lift (Evaluation.fail fault range)
  record space path range := .lift (Evaluation.record scope space path range)
  compile _ _ := .lift _
  ask key := .lift (Evaluation.ask scope key.name)
  force slot range hslot := h slot hslot range

theorem operandValue_steady (h : ForcesSteady scope frame force force') (operand : Operand) :
    Steady scope frame (operandValue scope force operand) <|
      Evaluation.operandValue scope (Evaluation.effects scope force') frame.siblings operand := by
  refine .get_bind fun machine hframe => ?_
  rw [hframe]
  exact (effects_steady h).operandValue frame.siblings operand

theorem probe_steady (h : ForcesSteady scope frame force force') (operand : Operand) :
    Steady scope frame (probe scope force operand)
      (Evaluation.probe scope (Evaluation.effects scope force') frame.siblings operand) := by
  refine .get_bind fun machine hframe => ?_
  rw [hframe]
  exact (effects_steady h).probe frame.siblings operand

theorem holds_steady (h : ForcesSteady scope frame force force') (condition : Condition) :
    Steady scope frame (holds scope force condition)
      (Evaluation.holds scope (Evaluation.effects scope force') frame.siblings condition) := by
  cases condition with
  | presence operand range =>
    refine (probe_steady h operand).bind fun found => ?_
    cases found <;> exact .pure _
  | equality left right range =>
    refine (operandValue_steady h left).bind fun a => (operandValue_steady h right).bind fun b => ?_
    cases left.isHost || right.isHost with
    | true => exact .pure _
    | false =>
      cases a.comparison b with
      | some result => exact .pure _
      | none => exact Steady.lift (Evaluation.fail _ _)

mutual

/-- The value of an expression among the fields of the innermost object. -/
theorem value_steady (h : ForcesSteady scope frame force force') : ∀ expr : ValueExpr,
    Steady scope frame (value scope force expr)
      (Evaluation.value scope (Evaluation.effects scope force') frame.siblings expr)
  | .operand operand => by
    simp only [value, Evaluation.value]
    exact operandValue_steady h operand
  | .rawString pattern range => by
    simp only [value, Evaluation.value]
    exact .lift _
  | .array items range => by
    simp only [value, Evaluation.value]
    exact (values_steady h items).bind fun _ => .pure _
  | .conditional condition thenValue elseValue range => by
    simp only [value, Evaluation.value]
    refine (holds_steady h condition).bind fun chosen => ?_
    cases chosen with
    | true => exact value_steady h thenValue
    | false => exact valueOrNull_steady h elseValue

theorem values_steady (h : ForcesSteady scope frame force force') : ∀ exprs : List ValueExpr,
    Steady scope frame (values scope force exprs)
      (Evaluation.values scope (Evaluation.effects scope force') frame.siblings exprs)
  | [] => by
    simp only [values, Evaluation.values]
    exact .pure _
  | expr :: exprs => by
    simp only [values, Evaluation.values]
    exact (value_steady h expr).bind fun _ => (values_steady h exprs).bind fun _ => .pure _

theorem valueOrNull_steady (h : ForcesSteady scope frame force force') :
    ∀ expr : Option ValueExpr,
    Steady scope frame (valueOrNull scope force expr)
      (Evaluation.valueOrNull scope (Evaluation.effects scope force') frame.siblings expr)
  | none => by
    simp only [valueOrNull, Evaluation.valueOrNull]
    exact .pure _
  | some expr => by
    simp only [valueOrNull, Evaluation.valueOrNull]
    exact value_steady h expr

end

/-! ## Objects -/

/-- A new object is built on top of the stack, which is then as it was. -/
theorem object_steady {pending : List Slot} {scopes : List (Entries Value)} {x : Stacked Unit}
    {y : Eval (Entries Value)} (h : Builds scope pending scopes [] x y) :
    Steady scope ⟨pending, scopes⟩ (object x) y := by
  intro machine hsound hframe
  have step := h (machine.withScopes (scopes ++ [[]])) (hsound.withScopes _) (by
    rw [Machine.withScopes, hframe])
  unfold object
  rw [hframe]
  change Mirrored scope _ _ _ (y (machine.withScopes (scopes ++ [[]])).memory)
  generalize x (machine.withScopes (scopes ++ [[]])) = result at step ⊢
  generalize y (machine.withScopes (scopes ++ [[]])).memory = result' at step ⊢
  cases step with
  | @ok _ built after hafter hbuilt =>
    have hsame : (after.withScopes after.frame.scopes.dropLast).frame = ⟨pending, scopes⟩ := by
      simp [Machine.withScopes, hbuilt]
    have hfields : after.frame.siblings.getD [] = built := by
      simp [Frame.siblings, hbuilt]
    exact .ok (hafter.withScopes _)
      ⟨hfields, hsame⟩
  | @error flaw after hafter hlast =>
    obtain ⟨last, hlast⟩ := hlast
    have hsame : (after.withScopes after.frame.scopes.dropLast).frame = ⟨pending, scopes⟩ := by
      simp [Machine.withScopes, hlast]
    exact .error (hafter.withScopes _)
      hsame

section

variable {pending : List Slot} {outer : List (Entries Value)} {fields : Entries Value}
  {key : String} {result : Value}

/-- The innermost object is on top of the stack. -/
theorem siblings_concat : (⟨pending, outer ++ [fields]⟩ : Frame).siblings = some fields := by
  simp [Frame.siblings]

/-- Giving a field of the innermost object a value. -/
theorem frame_assign {machine : Machine} (h : machine.frame = ⟨pending, outer ++ [fields]⟩) :
    (machine.assign key result).frame =
      ⟨pending, outer ++ [Entries.insert key result fields]⟩ := by
  simp [Machine.assign, Machine.withScopes, h, siblings_concat]

theorem assign_builds : Builds scope pending outer fields (modify (·.assign key result))
    (pure (Entries.insert key result fields)) :=
  fun _ hsound hframe => .ok (hsound.withScopes _) (frame_assign hframe)

/-- Giving a field of the innermost object a value, and then what leaves the stacks
alone. -/
theorem assign_lift_builds (x : Eval Unit) :
    Builds scope pending outer fields (modify (·.assign key result) >>= fun _ => lift x)
      (x >>= fun _ => pure (Entries.insert key result fields)) := by
  intro machine hsound hframe
  have step : Mirrored scope _ _ (lift x (machine.assign key result)) (x machine.memory) :=
    Steady.lift x _ (hsound.withScopes _) (frame_assign hframe)
  change Mirrored scope _ _ (lift x (machine.assign key result)) _
  simp only [Bind.bind, EStateM.bind]
  generalize lift x (machine.assign key result) = ended at step ⊢
  generalize x machine.memory = ended' at step ⊢
  cases step with
  | ok hafter hsame => exact .ok hafter hsame.2
  | error hafter hsame => exact .error hafter ⟨_, hsame⟩

end

/-- References are steady whatever objects are around. -/
abbrev ForcesAnywhere (scope : Scope) (pending : List Slot)
    (force : Slot → TextRange → Stacked Value) (force' : Slot → TextRange → Eval Value) : Prop :=
  ∀ scopes, ForcesSteady scope ⟨pending, scopes⟩ force force'

section

variable {pending : List Slot}

mutual

/-- The fields of members are built on top of the stack. -/
theorem members_builds (h : ForcesAnywhere scope pending force force') (path : List String)
    (outer : List (Entries Value)) (fields : Entries Value) : ∀ children : List Member,
    Builds scope pending outer fields (members scope force path children)
      (Evaluation.members scope (Evaluation.effects scope force') path fields children)
  | [] => by
    simp only [members, Evaluation.members]
    exact fun _ hsound hframe => .ok hsound hframe
  | child :: children => by
    simp only [members, Evaluation.members]
    refine Mirrors.bind (member_builds h path outer fields child) (fun _ h => h) ?_
    rintro _ more after rfl
    exact members_builds h path outer more children

theorem member_builds (h : ForcesAnywhere scope pending force force') (path : List String)
    (outer : List (Entries Value)) (fields : Entries Value) : ∀ child : Member,
    Builds scope pending outer fields (member scope force path child)
      (Evaluation.member scope (Evaluation.effects scope force') path fields child)
  | .field name expr range => by
    simp only [member, Evaluation.member]
    have hvalue := value_steady (h (outer ++ [fields])) expr
    rw [siblings_concat] at hvalue
    refine Mirrors.bind hvalue (fun _ h => ⟨fields, h⟩) ?_
    rintro result _ after ⟨rfl, rfl⟩
    exact assign_lift_builds (Evaluation.record _ _ _ _)
  | .block name children range => by
    simp only [member, Evaluation.member]
    refine Mirrors.bind (Steady.lift (Evaluation.record _ _ _ _)) (fun _ h => ⟨fields, h⟩) ?_
    rintro _ _ after ⟨-, rfl⟩
    refine Mirrors.bind (object_steady (members_builds h _ (outer ++ [fields]) [] children))
      (fun _ h => ⟨fields, h⟩) ?_
    rintro inner _ after ⟨rfl, rfl⟩
    exact assign_builds
  | .conditional condition thenChildren elseChildren range => by
    simp only [member, Evaluation.member]
    have hholds := holds_steady (h (outer ++ [fields])) condition
    rw [siblings_concat] at hholds
    refine Mirrors.bind hholds (fun _ h => ⟨fields, h⟩) ?_
    rintro chosen _ after ⟨rfl, rfl⟩
    cases chosen with
    | true => exact members_builds h path outer fields thenChildren
    | false => exact members_builds h path outer fields elseChildren

end

/-- The binding in a slot is evaluated while no object is around. -/
theorem bindingValue_steady (h : ForcesAnywhere scope pending force force') (slot : Slot) :
    Steady scope ⟨pending, []⟩ (bindingValue scope force slot)
      (Evaluation.bindingValue scope (Evaluation.effects scope force') slot) := by
  unfold bindingValue Evaluation.bindingValue
  cases slot with
  | global name =>
    dsimp only
    cases Entries.get? name scope.globals with
    | some bound => exact value_steady (h []) bound.1
    | none => exact Steady.lift (Evaluation.fail _ _)
  | item name =>
    dsimp only
    cases Entries.get? name scope.items with
    | some bound =>
      exact (object_steady (members_builds h [name] [] [] bound.1)).bind fun _ => .pure _
    | none => exact Steady.lift (Evaluation.fail _ _)

end

/-! ## References -/

section

variable {pending : List Slot} {scopes : List (Entries Value)} {slot : Slot}

/-- A binding that is on the stack already stops with the cycle. -/
theorem guarded_pending (hpending : slot ∈ pending) (range : TextRange) (compute : Stacked Value) :
    Steady scope ⟨pending, scopes⟩ (guarded slot range compute)
      (throw (.cycle (Evaluation.chain pending slot) range)) := by
  intro machine hsound hframe
  simp only [guarded, hframe, if_pos hpending]
  refine .error ?_ hframe
  rw [← hframe]
  exact hsound.exit

/-- Any other binding is evaluated on top of the stack, which is then as it was. -/
theorem guarded_steady (hslot : scope.Binds slot) (hnew : slot ∉ pending) (range : TextRange)
    {compute : Stacked Value} {y : Eval Value}
    (h : Steady scope ⟨pending ++ [slot], []⟩ compute y) :
    Steady scope ⟨pending, scopes⟩ (guarded slot range compute) y := by
  intro machine hsound hframe
  have hpending : scope.Admits pending := by simpa only [hframe] using hsound.pending
  have step := h ((machine.withScopes []).withPending (pending ++ [slot]))
    ((hsound.withScopes []).withPending (hpending.snoc hslot hnew)) rfl
  -- Taking the binding off again brings back both stacks.
  have leave (after : Machine) (hafter : after.Sound scope)
      (hsame : after.frame = ⟨pending ++ [slot], []⟩) :
      (((after.withPending after.frame.pending.dropLast).withScopes scopes).exit
        ⟨pending, scopes⟩).Sound scope := by
    have hdrop : after.frame.pending.dropLast = pending := by simp [hsame]
    rw [hdrop]
    exact ((hafter.withPending hpending).withScopes scopes).exit
  have restored (after : Machine) (hsame : after.frame = ⟨pending ++ [slot], []⟩) :
      (((after.withPending after.frame.pending.dropLast).withScopes scopes).exit
        ⟨pending, scopes⟩).frame = ⟨pending, scopes⟩ := by
    simp [Machine.exit, Machine.withScopes, Machine.withPending, hsame]
  simp only [guarded, hframe, if_neg hnew]
  change Mirrored scope _ _ _
    (y ((machine.withScopes []).withPending (pending ++ [slot])).memory)
  generalize compute ((machine.withScopes []).withPending (pending ++ [slot])) = result at step ⊢
  generalize y ((machine.withScopes []).withPending (pending ++ [slot])).memory = result'
    at step ⊢
  cases step with
  | @ok _ _ after hafter hsame =>
    exact .ok (leave after hafter hsame.2) ⟨hsame.1, restored after hsame.2⟩
  | @error _ after hafter hsame => exact .error (leave after hafter hsame) (restored after hsame)

/-- References are steady if there is fuel for as many bindings as are not being evaluated
yet, and one more. -/
theorem forceWith_steady (hslot : scope.Binds slot) {fuel : Nat} (hfuel : scope.size < fuel)
    (range : TextRange) :
    Steady scope ⟨[], scopes⟩ (forceWith scope fuel slot range)
      (Evaluation.forceSlot scope slot range) := by
  refine Evaluation.forceSlot_induction (P := fun pending slot force' =>
    ∀ fuel scopes range, scope.size < fuel + pending.length →
      Steady scope ⟨pending, scopes⟩ (forceWith scope fuel slot range) (force' range)) ?_ hslot
    fuel scopes range (by simpa using hfuel)
  intro other pending slot hslot ih fuel scopes range hfuel
  cases fuel with
  | zero =>
    intro machine hsound hframe
    have hpending : scope.Admits pending := by simpa only [hframe] using hsound.pending
    have := Scope.length_le_size hpending.nodup hpending.binds
    omega
  | succ fuel =>
    have remembered (result : Value) : Steady scope ⟨pending, scopes⟩
        (lift (modify (·.remember slot result)) >>= fun _ => pure result)
        (modify (·.remember slot result) >>= fun _ => pure result) :=
      (Steady.lift _).bind fun _ => .pure result
    rw [forceWith, Evaluation.forceWith]
    refine Steady.get_bind_memory fun machine => ?_
    cases machine.memory.value? slot with
    | some value => exact .pure value
    | none =>
      refine (Steady.lift (Evaluation.recordSlot scope slot)).bind fun _ => ?_
      by_cases hmem : slot ∈ pending
      · rw [if_pos hmem]
        exact (guarded_pending hmem range _).bind remembered
      · rw [if_neg hmem]
        have hforces : ForcesAnywhere scope (pending ++ [slot]) (forceWith scope fuel)
            (Evaluation.forceWith scope other (pending ++ [slot])) := by
          intro scopes next hnext range
          refine ih hmem next hnext fuel scopes range ?_
          simp only [List.length_append, List.length_singleton]
          omega
        exact (guarded_steady hslot hmem range (bindingValue_steady hforces slot)).bind remembered

end

/-! ## Documents -/

section

variable {fuel : Nat} (hfuel : scope.size < fuel)
include hfuel

theorem globalValues_steady (bindings : Entries (ValueExpr × TextRange))
    (hbinds : ∀ bound ∈ bindings, scope.Binds (.global bound.1)) :
    Steady scope ⟨[], []⟩ (globalValues scope fuel bindings)
      (Evaluation.globalValues scope bindings) := by
  induction bindings with
  | nil => exact .pure _
  | cons bound bindings ih =>
    have hrest := ih fun other hother => hbinds other (List.mem_cons_of_mem _ hother)
    exact (Steady.lift (Evaluation.record _ _ _ _)).bind fun _ =>
      (forceWith_steady (hbinds _ List.mem_cons_self) hfuel _).bind fun _ =>
        hrest.bind fun _ => .pure _

theorem itemValues_steady (bindings : Entries (List Member × TextRange))
    (hbinds : ∀ bound ∈ bindings, scope.Binds (.item bound.1)) :
    Steady scope ⟨[], []⟩ (itemValues scope fuel bindings)
      (Evaluation.itemValues scope bindings) := by
  induction bindings with
  | nil => exact .pure _
  | cons bound bindings ih =>
    have hrest := ih fun other hother => hbinds other (List.mem_cons_of_mem _ hother)
    exact (forceWith_steady (hbinds _ List.mem_cons_self) hfuel _).bind fun _ =>
      hrest.bind fun _ => .pure _

theorem metadataValues_steady (given : Entries Value)
    (bindings : List (String × ValueExpr × TextRange)) :
    Steady scope ⟨[], []⟩ (metadataValues scope fuel given bindings)
      (Evaluation.metadataValues scope given bindings) := by
  induction bindings generalizing given with
  | nil => exact .pure _
  | cons bound bindings ih =>
    have hforces : ForcesSteady scope ⟨[], []⟩ (forceWith scope fuel)
        (Evaluation.forceSlot scope) :=
      fun _ hslot range => forceWith_steady hslot hfuel range
    exact (value_steady hforces bound.2.1).bind fun _ =>
      (Steady.lift (Evaluation.record _ _ _ _)).bind fun _ => ih _

/-- Evaluating a document with stacks does what its evaluation does, if there is more fuel
than bindings. -/
theorem evaluate_steady : Steady scope ⟨[], []⟩ (evaluate scope fuel) scope.evaluate := by
  have hglobals := globalValues_steady hfuel scope.globals fun bound h =>
    Entries.contains_iff_mem_keys.2 (List.mem_map_of_mem h)
  have hitems := itemValues_steady hfuel scope.items fun bound h =>
    Entries.contains_iff_mem_keys.2 (List.mem_map_of_mem h)
  exact hglobals.bind fun globals => (metadataValues_steady hfuel [] scope.metadata).bind
    fun metadata => hitems.bind fun items => .get_bind_memory fun machine => .pure _

end

end Stacked

end Rune
