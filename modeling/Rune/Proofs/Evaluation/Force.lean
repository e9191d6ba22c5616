import Rune.Evaluation.Basic
import Rune.Proofs.Entries
import Rune.Proofs.Evaluation.Parametric
import Rune.Proofs.Outcome
import Mathlib.Data.List.Perm.Subperm

/-!
# Rune - referring to a top-level binding

A reference to a top-level binding does one of three things: it finds the value that
is remembered, it finds that the binding is being evaluated, or it evaluates the
binding and remembers the value.

Main results:

- Theorems {lit}`Evaluation.forceWith_known`, {lit}`Evaluation.forceWith_pending` and
  {lit}`Evaluation.forceWith_anew`: the three steps.
- Theorem {lit}`Scope.evaluate_of_closed`: what holds of references and of expressions holds
  of a document.
- Theorem {lit}`Evaluation.forceWith_induction`: what holds of a reference when it holds of
  those made meanwhile holds of every reference, since the fuel lasts.
-/

namespace Rune

/-! ## Memory -/

namespace Memory

/-- The memory after the location of a binding that is evaluated was recorded. -/
def noted (scope : Scope) (slot : Slot) (memory : Memory) : Memory :=
  match slot with
  | .global _ => memory
  | .item name =>
    match Entries.get? name scope.items with
    | some (_, range) => memory.record ⟨.items, [name]⟩ (scope.source.locate range)
    | none => memory

@[simp] theorem value?_record (memory : Memory) (place : Place) (location : Location)
    (slot : Slot) : (memory.record place location).value? slot = memory.value? slot := by
  cases slot <;> rfl

@[simp] theorem resources_record (memory : Memory) (place : Place) (location : Location) :
    (memory.record place location).resources = memory.resources := rfl

@[simp] theorem value?_noted (scope : Scope) (slot other : Slot) (memory : Memory) :
    (memory.noted scope slot).value? other = memory.value? other := by
  unfold noted
  split
  · rfl
  · split
    · exact value?_record _ _ _ _
    · rfl

@[simp] theorem resources_noted (scope : Scope) (slot : Slot) (memory : Memory) :
    (memory.noted scope slot).resources = memory.resources := by
  unfold noted
  split
  · rfl
  · split <;> rfl

@[simp] theorem resources_remember (memory : Memory) (slot : Slot) (value : Value) :
    (memory.remember slot value).resources = memory.resources := by
  cases slot <;> rfl

/-- A value that was remembered is found again. -/
@[simp] theorem value?_remember_self (memory : Memory) (slot : Slot) (value : Value) :
    (memory.remember slot value).value? slot = some value := by
  cases slot <;> simp [remember, value?]

/-- Remembering the value of one slot leaves the others alone. -/
theorem value?_remember_of_ne {slot other : Slot} (h : other ≠ slot) (memory : Memory)
    (value : Value) : (memory.remember slot value).value? other = memory.value? other := by
  cases slot <;> cases other <;> simp only [remember, value?]
  · exact Entries.get?_insert_of_ne (by simpa using h) _ _
  · exact Entries.get?_insert_of_ne (by simpa using h) _ _

end Memory

/-! ## Slots -/

/-- The slots for which a document has a binding. -/
def Scope.slots (scope : Scope) : List Slot :=
  scope.globals.map (fun bound => .global bound.1) ++
    scope.items.map (fun bound => .item bound.1)

@[simp] theorem Scope.length_slots (scope : Scope) : scope.slots.length = scope.size := by
  simp [slots, size]

/-- The slots of a document are those for which it has a binding. -/
theorem Scope.mem_slots_iff {scope : Scope} {slot : Slot} :
    slot ∈ scope.slots ↔ scope.Binds slot := by
  cases slot <;> simp [slots, Binds, Entries.contains_iff_mem_keys, Entries.keys]

/-- Different slots that have a binding are at most as many as there are bindings. -/
theorem Scope.length_le_size {scope : Scope} {pending : List Slot} (hnodup : pending.Nodup)
    (hbinds : ∀ slot ∈ pending, scope.Binds slot) : pending.length ≤ scope.size := by
  rw [← scope.length_slots]
  have hsubset : pending ⊆ scope.slots := fun slot hslot => mem_slots_iff.2 (hbinds slot hslot)
  exact (hnodup.subperm hsubset).length_le

/-! ## One reference -/

namespace Evaluation

variable {scope : Scope} {slot : Slot} {memory : Memory}

theorem recordSlot_eq (scope : Scope) (slot : Slot) (memory : Memory) :
    recordSlot scope slot memory = .ok () (memory.noted scope slot) := by
  unfold recordSlot Memory.noted
  cases slot with
  | global name => rfl
  | item name =>
    dsimp only
    cases Entries.get? name scope.items <;> rfl

/-- A reference finds the value that is remembered. -/
theorem forceWith_known {value : Value} (h : memory.value? slot = some value) (fuel : Nat)
    (pending : List Slot) (range : TextRange) :
    forceWith scope (fuel + 1) pending slot range memory = .ok value memory := by
  simp only [forceWith, bind, EStateM.bind, get_eq, h]
  rfl

/-- A reference to a binding that is being evaluated stops with the cycle. -/
theorem forceWith_pending (h : memory.value? slot = none) {pending : List Slot}
    (hpending : slot ∈ pending) (fuel : Nat) (range : TextRange) :
    forceWith scope (fuel + 1) pending slot range memory =
      .error (.cycle (chain pending slot) range) (memory.noted scope slot) := by
  simp only [forceWith, bind, EStateM.bind, get_eq, h,
    recordSlot_eq, if_pos hpending]
  rfl

/-- Evaluate a binding while other ones are being evaluated, and remember its value. -/
def evaluateSlot (scope : Scope) (fuel : Nat) (pending : List Slot) (slot : Slot) :
    Eval Value := do
  let result ← bindingValue scope (effects scope (forceWith scope fuel (pending ++ [slot]))) slot
  modify (·.remember slot result)
  return result

/-- A reference to any other binding evaluates it. -/
theorem forceWith_anew (h : memory.value? slot = none) {pending : List Slot}
    (hpending : slot ∉ pending) (fuel : Nat) (range : TextRange) :
    forceWith scope (fuel + 1) pending slot range memory =
      evaluateSlot scope fuel pending slot (memory.noted scope slot) := by
  simp only [forceWith, bind, EStateM.bind, get_eq, h,
    recordSlot_eq, if_neg hpending]
  rfl

/-! ## All references -/

/-- What holds of a reference when it holds of those that are made while its binding
is evaluated holds of every reference.  The bindings being evaluated are all
different, so that there are never more of them than the document has, and the fuel
does not run out. -/
theorem forceWith_induction {scope : Scope}
    {P : List Slot → Slot → (TextRange → Eval Value) → Prop}
    (step : ∀ fuel pending slot, scope.Binds slot →
      (slot ∉ pending → ∀ other, scope.Binds other →
        P (pending ++ [slot]) other (forceWith scope fuel (pending ++ [slot]) other)) →
      P pending slot (forceWith scope (fuel + 1) pending slot))
    {fuel : Nat} {pending : List Slot} (hnodup : pending.Nodup)
    (hbinds : ∀ slot ∈ pending, scope.Binds slot) (hfuel : scope.size < fuel + pending.length)
    {slot : Slot} (hslot : scope.Binds slot) :
    P pending slot (forceWith scope fuel pending slot) := by
  induction fuel generalizing pending slot with
  | zero =>
    have := Scope.length_le_size hnodup hbinds
    omega
  | succ fuel ih =>
    refine step fuel pending slot hslot fun hpending other hother => ih ?_ ?_ ?_ hother
    · rw [List.nodup_append]
      refine ⟨hnodup, by simp, ?_⟩
      intro a ha b hb
      obtain rfl := List.mem_singleton.1 hb
      exact fun heq => hpending (heq ▸ ha)
    · intro a ha
      rcases List.mem_append.1 ha with ha | ha
      · exact hbinds a ha
      · obtain rfl := List.mem_singleton.1 ha
        exact hslot
    · simp only [List.length_append, List.length_singleton]
      omega

/-- While no binding is being evaluated the fuel lasts. -/
theorem forceSlot_induction {scope : Scope}
    {P : List Slot → Slot → (TextRange → Eval Value) → Prop}
    (step : ∀ fuel pending slot, scope.Binds slot →
      (slot ∉ pending → ∀ other, scope.Binds other →
        P (pending ++ [slot]) other (forceWith scope fuel (pending ++ [slot]) other)) →
      P pending slot (forceWith scope (fuel + 1) pending slot))
    {slot : Slot} (hslot : scope.Binds slot) : P [] slot (forceSlot scope slot) :=
  forceWith_induction step List.nodup_nil (by simp) (by simp) hslot

end Evaluation

/-! ## Documents -/

section

variable {scope : Scope} {P : ∀ {α : Type}, Eval α → Prop}

open Evaluation

/-- What holds of values without computation, of sequences, and of all that a document is
evaluated by holds of its evaluation. -/
theorem Scope.evaluate_of_closed (pure : ∀ {α : Type} (a : α), P (pure a))
    (bind : ∀ {α β : Type} {x : Eval α} {f : α → Eval β}, P x → (∀ a, P (f a)) → P (x >>= f))
    (record : ∀ space path range, P (record scope space path range))
    (force : ∀ slot, scope.Binds slot → ∀ range, P (forceSlot scope slot range))
    (value : ∀ bound ∈ scope.metadata, P (value scope (topEffects scope) none bound.2.1))
    (finish : ∀ make : Locations → Config,
      P (get >>= fun memory : Memory => Pure.pure (make memory.locations))) :
    P scope.evaluate := by
  have hglobals (bindings : Entries (ValueExpr × TextRange))
      (hbinds : ∀ bound ∈ bindings, scope.Binds (.global bound.1)) :
      P (globalValues scope bindings) := by
    induction bindings with
    | nil => exact pure _
    | cons bound bindings ih =>
      have hrest := ih fun other hother => hbinds other (List.mem_cons_of_mem _ hother)
      exact bind (record _ _ _) fun _ => bind (force _ (hbinds _ List.mem_cons_self) _) fun _ =>
        bind hrest fun _ => pure _
  have hitems (bindings : Entries (List Member × TextRange))
      (hbinds : ∀ bound ∈ bindings, scope.Binds (.item bound.1)) :
      P (itemValues scope bindings) := by
    induction bindings with
    | nil => exact pure _
    | cons bound bindings ih =>
      have hrest := ih fun other hother => hbinds other (List.mem_cons_of_mem _ hother)
      exact bind (force _ (hbinds _ List.mem_cons_self) _) fun _ => bind hrest fun _ => pure _
  have hmetadata (given : Entries Value) (bindings : List (String × ValueExpr × TextRange))
      (hsubset : ∀ bound ∈ bindings, bound ∈ scope.metadata) :
      P (metadataValues scope given bindings) := by
    induction bindings generalizing given with
    | nil => exact pure _
    | cons bound bindings ih =>
      have hrest := fun given => ih given fun other hother =>
        hsubset other (List.mem_cons_of_mem _ hother)
      exact bind (value bound (hsubset bound List.mem_cons_self)) fun _ =>
        bind (record _ _ _) fun _ => hrest _
  refine bind (hglobals scope.globals fun bound h => ?_) fun globals =>
    bind (hmetadata [] scope.metadata fun _ => id) fun metadata =>
      bind (hitems scope.items fun bound h => ?_) fun items => finish fun locations => {
        source := scope.source
        globals := scope.withIncluded .globals globals
        items := scope.withIncluded .items items
        metadata := metadata
        locations := Entries.merge scope.includedLocations locations }
  · exact Entries.contains_iff_mem_keys.2 (List.mem_map_of_mem h)
  · exact Entries.contains_iff_mem_keys.2 (List.mem_map_of_mem h)

end

end Rune
