import Rune.Proofs.Evaluation.Tracking
import Mathlib.Data.List.Chain

/-!
# Rune - what is reported as a reference cycle

A reference cycle is reported with the bindings being evaluated, from the one that is
asked for again on.  Each of them has asked for the next one, and the last one for the
first.

Main results:

- Definition {lit}`Requests` says that the evaluation of a binding asks for another one.
- Structure {lit}`Circular` says what a reference cycle is.
- Theorem {lit}`Scope.evaluate_reports`: what the evaluation of a document reports is one.
-/

namespace Rune

/-! ## What a binding asks for -/

/-- An outcome, and the bindings that were asked for on the way. -/
structure Asked (α : Type) where
  slots : List Slot
  outcome : Outcome Flaw α

namespace Asked

variable {α β : Type}

/-- An outcome for which nothing was asked. -/
def quietly (outcome : Outcome Flaw α) : Asked α := ⟨[], outcome⟩

/-- Go on with a value. -/
def bind (x : Asked α) (f : α → Asked β) : Asked β :=
  match x.outcome with
  | .value a => ⟨x.slots ++ (f a).slots, (f a).outcome⟩
  | .failure flaw => ⟨x.slots, .failure flaw⟩
  | .tooDeep => ⟨x.slots, .tooDeep⟩

instance : Monad Asked where
  pure a := quietly (.value a)
  bind := bind

/-- Going on with a value asks for more. -/
theorem bind_of_value {x : Asked α} {a : α} (h : x.outcome = .value a) (f : α → Asked β) :
    x >>= f = ⟨x.slots ++ (f a).slots, (f a).outcome⟩ := by
  change x.bind f = _
  rw [bind, h]

/-- What was asked for stays asked for. -/
theorem mem_slots_bind {x : Asked α} {slot : Slot} (h : slot ∈ x.slots) (f : α → Asked β) :
    slot ∈ (x >>= f).slots := by
  change slot ∈ (x.bind f).slots
  unfold bind
  cases x.outcome with
  | value a => exact List.mem_append_left _ h
  | failure flaw => exact h
  | tooDeep => exact h

end Asked

/-- The effects of an evaluation that records the references to top-level bindings, whose
values are plain values at a depth. -/
def Asked.effects (scope : Scope) (depth : Nat) : Effects Asked where
  fail cause range := quietly (.failure (.fault cause range))
  record _ _ _ := quietly (.value ())
  compile source range := quietly (ByName.compile source range)
  ask key := quietly (.value (scope.services.system key))
  force slot _ := ⟨[slot], ByName.slotValue scope depth slot⟩

/-- The evaluation of a binding, while no object is around, asks for another binding. -/
def Requests (scope : Scope) (slot other : Slot) : Prop :=
  ∃ depth, other ∈ (Evaluation.bindingValue scope (Asked.effects scope depth) slot).slots

/-- A reference cycle: different bindings of the document, each of which asks for the next
one, and the first one again. -/
structure Circular (scope : Scope) (chain : List Slot) : Prop where
  length : 2 ≤ chain.length
  closed : chain.head? = chain.getLast?
  nodup : chain.dropLast.Nodup
  binds : ∀ slot ∈ chain, scope.Binds slot
  requests : chain.IsChain (Requests scope)

/-! ## Where a cycle is found -/

/-- Where the result of an evaluation comes from: a value is a plain value, and a cycle was
found by a reference that was asked for. -/
inductive Traced (scope : Scope) (force : Slot → TextRange → Eval Value) {α : Type} :
    EStateM.Result Flaw Memory α → (Nat → Asked α) → Prop
  | value {a : α} {after : Memory} {y : Nat → Asked α} : after.Faithful scope →
      (∃ depth, ∀ n, depth ≤ n → (y n).outcome = .value a) → Traced scope force (.ok a after) y
  | fault {cause : EvaluationFault} {range : TextRange} {after : Memory} {y : Nat → Asked α} :
      Traced scope force (.error (.fault cause range) after) y
  | cycle {chain : List Slot} {range range' : TextRange} {memory after : Memory}
      {y : Nat → Asked α} {slot : Slot} : memory.Faithful scope → scope.Binds slot →
      force slot range' memory = .error (.cycle chain range) after →
      (∃ depth, ∀ n, depth ≤ n → slot ∈ (y n).slots) →
      Traced scope force (.error (.cycle chain range) after) y

/-- The results of an evaluation are traced from every faithful memory. -/
def Traces (scope : Scope) (force : Slot → TextRange → Eval Value) {α : Type} (x : Eval α)
    (y : Nat → Asked α) : Prop :=
  ∀ memory : Memory, memory.Faithful scope → Traced scope force (x memory) y

namespace Traces

variable {scope : Scope} {force : Slot → TextRange → Eval Value} {α β : Type}

theorem pure (a : α) : Traces scope force (pure a) (fun _ => pure a) :=
  fun _ hmemory => .value hmemory ⟨0, fun _ _ => rfl⟩

theorem bind {x : Eval α} {y : Nat → Asked α} {f : α → Eval β} {g : Nat → α → Asked β}
    (hx : Traces scope force x y) (hf : ∀ a, Traces scope force (f a) (fun n => g n a)) :
    Traces scope force (x >>= f) (fun n => y n >>= g n) := by
  intro memory hmemory
  have first := hx memory hmemory
  simp only [Bind.bind, EStateM.bind]
  generalize x memory = result at first ⊢
  cases first with
  | fault => exact .fault
  | cycle hmid hslot hfound hslots =>
    obtain ⟨depth, hslots⟩ := hslots
    exact .cycle hmid hslot hfound
      ⟨depth, fun n hn => Asked.mem_slots_bind (hslots n hn) (g n)⟩
  | @value a after _ hafter houtcome =>
    obtain ⟨depth, houtcome⟩ := houtcome
    have hbind (n : Nat) (hn : depth ≤ n) := Asked.bind_of_value (houtcome n hn) (g n)
    have rest := hf a after hafter
    dsimp only
    generalize f a after = result at rest ⊢
    generalize hg : (fun n => g n a) = more at rest
    cases rest with
    | fault => exact .fault
    | value hlast hmore =>
      subst hg
      obtain ⟨depth', hmore⟩ := hmore
      refine .value hlast ⟨max depth depth', fun n hn => ?_⟩
      exact (congrArg Asked.outcome (hbind n (by omega))).trans (hmore n (by omega))
    | cycle hmid hslot hfound hslots =>
      subst hg
      obtain ⟨depth', hslots⟩ := hslots
      refine .cycle hmid hslot hfound ⟨max depth depth', fun n hn => ?_⟩
      exact congrArg Asked.slots (hbind n (by omega)) ▸
        List.mem_append_right _ (hslots n (by omega))

end Traces

/-- What agrees with plain outcomes is traced, if its cycles are. -/
theorem Traced.of_agrees {scope : Scope} {force : Slot → TextRange → Eval Value} {α : Type}
    {deep : Nat → Prop} {result : EStateM.Result Flaw Memory α} {q : Nat → Outcome Flaw α}
    {y : Nat → Asked α} (h : Agrees (Memory.Faithful scope) Flaw.IsCycle deep result q)
    (houtcome : ∀ n, (y n).outcome = q n)
    (hcycle : ∀ chain range after, result = .error (.cycle chain range) after →
      Traced scope force result y) : Traced scope force result y := by
  cases h with
  | value hafter hvalue =>
    obtain ⟨depth, hdepth⟩ := hvalue.reached
    exact .value hafter ⟨depth, fun n hn => (houtcome n).trans (hdepth n hn)⟩
  | @failure flaw _ _ _ hother _ =>
    cases flaw with
    | fault cause range => exact .fault
    | cycle chain range => exact absurd trivial hother
  | @recurs flaw _ _ _ hback _ =>
    cases flaw with
    | fault cause range => exact hback.elim
    | cycle chain range => exact hcycle _ _ _ rfl

namespace Evaluation

variable {scope : Scope}

/-- What an evaluation reports was found by a reference that it has asked for. -/
theorem effects_traces {force : Slot → TextRange → Eval Value}
    (hforce : ∀ slot range, Tracks scope (fun _ => False) (force slot range)
      (fun depth => ByName.slotValue scope depth slot)) :
    Parametric scope (fun {_} x y => Traces scope force x y) (effects scope force)
      (Asked.effects scope) where
  pure := .pure
  bind := .bind
  fail _ _ _ _ := .fault
  record space path range memory hmemory :=
    .of_agrees (@record_tracks _ (fun _ => False) space path range memory hmemory)
      (fun _ => rfl) nofun
  compile source range memory hmemory := by
    refine .of_agrees (@compile_tracks _ (fun _ => False) source range memory hmemory)
      (fun _ => rfl) fun chain range' after h => ?_
    dsimp only [effects] at h
    unfold compile at h
    split at h <;> cases h
  ask key memory hmemory :=
    .of_agrees (@ask_tracks _ (fun _ => False) key.name memory hmemory) (fun _ => rfl) nofun
  force slot range hslot memory hmemory := by
    refine .of_agrees (hforce slot range memory hmemory) (fun _ => rfl)
      fun chain range' after h => ?_
    dsimp only [effects] at h ⊢
    rw [h]
    exact .cycle hmemory hslot h ⟨0, fun _ _ => List.mem_singleton_self slot⟩

end Evaluation

/-! ## Cycles -/

/-- The bindings being evaluated lead to one that is asked for: each of them has asked for
the next one. -/
structure Leads (scope : Scope) (pending : List Slot) (slot : Slot) : Prop where
  nodup : pending.Nodup
  binds : ∀ other ∈ pending ++ [slot], scope.Binds other
  requests : (pending ++ [slot]).IsChain (Requests scope)

namespace Leads

variable {scope : Scope} {pending : List Slot} {slot : Slot}

theorem nil (hslot : scope.Binds slot) : Leads scope [] slot :=
  ⟨List.nodup_nil, by simpa using hslot, by simp⟩

/-- While a binding is evaluated it leads to what it asks for. -/
theorem snoc (h : Leads scope pending slot) (hnew : slot ∉ pending) {other : Slot}
    (hother : scope.Binds other) (hrequest : Requests scope slot other) :
    Leads scope (pending ++ [slot]) other := by
  constructor
  case nodup =>
    rw [List.nodup_append]
    refine ⟨h.nodup, by simp, fun a ha b hb heq => ?_⟩
    obtain rfl := List.mem_singleton.1 hb
    exact hnew (heq ▸ ha)
  case binds =>
    intro a ha
    rcases List.mem_append.1 ha with ha | ha
    · exact h.binds a ha
    · obtain rfl := List.mem_singleton.1 ha
      exact hother
  case requests =>
    rw [List.isChain_append]
    refine ⟨h.requests, by simp, fun a ha b hb => ?_⟩
    obtain rfl : slot = a := by simpa using ha
    obtain rfl : other = b := by simpa using hb
    exact hrequest

/-- A binding that is asked for while it is being evaluated closes a cycle. -/
theorem circular (h : Leads scope pending slot) (hpending : slot ∈ pending) :
    Circular scope (Evaluation.chain pending slot) := by
  obtain ⟨before, after, rfl, hbefore⟩ := List.eq_append_cons_of_mem hpending
  have hdrop : (before ++ slot :: after).dropWhile (· ≠ slot) = slot :: after := by
    rw [List.dropWhile_append_of_pos fun other hother => by
      simpa using fun heq : other = slot => hbefore (heq ▸ hother)]
    simp
  have hend : (slot :: after ++ [slot]).getLast? = some slot := List.getLast?_concat
  rw [Evaluation.chain, hdrop]
  constructor
  case length => simp
  case closed =>
    rw [hend]
    rfl
  case nodup =>
    rw [List.dropLast_concat]
    exact h.nodup.sublist (List.sublist_append_right _ _)
  case binds =>
    exact fun other hother => h.binds other (by simp at hother ⊢; tauto)
  case requests =>
    have hrequests := h.requests
    rw [List.append_assoc] at hrequests
    exact hrequests.right_of_append

end Leads

namespace Evaluation

variable {scope : Scope}

/-- A cycle that a reference reports is one. -/
theorem forceSlot_circular {slot : Slot} (hslot : scope.Binds slot) {range range' : TextRange}
    {memory after : Memory} (hmemory : memory.Faithful scope) {found : List Slot}
    (h : forceSlot scope slot range memory = .error (.cycle found range') after) :
    Circular scope found := by
  -- Meanwhile this holds as long as the bindings being evaluated lead to the reference.
  refine forceSlot_induction (P := fun pending slot force => Leads scope pending slot →
    ∀ range memory, memory.Faithful scope → ∀ found range' after,
      force range memory = .error (.cycle found range') after → Circular scope found) ?_ hslot
    (.nil hslot) range memory hmemory found range' after h
  intro fuel pending slot _ ih hleads range memory hmemory found range' after h
  cases hknown : memory.value? slot with
  | some value =>
    rw [forceWith_known hknown] at h
    cases h
  | none =>
    by_cases hpending : slot ∈ pending
    · rw [forceWith_pending hknown hpending] at h
      cases h
      exact hleads.circular hpending
    · rw [forceWith_anew hknown hpending] at h
      have hnoted : (memory.noted scope slot).Faithful scope := hmemory.of_eq (by simp) (by simp)
      have traced := (effects_traces fun other range =>
        forceWith_tracks scope fuel (pending ++ [slot]) other range).bindingValue slot _ hnoted
      simp only [evaluateSlot, bind, EStateM.bind] at h
      generalize bindingValue scope (effects scope (forceWith scope fuel (pending ++ [slot])))
        slot (memory.noted scope slot) = result at h traced
      cases traced with
      | value _ _ => cases h
      | fault => cases h
      | @cycle _ _ _ _ _ _ other hmid hother hfound hasked =>
        cases h
        obtain ⟨depth, hasked⟩ := hasked
        exact ih hpending other hother (hleads.snoc hpending hother ⟨depth, hasked depth le_rfl⟩)
          _ _ hmid _ _ _ hfound

end Evaluation

/-! ## Documents -/

/-- A result that is sincere: a cycle that is reported is one. -/
inductive Sincere (scope : Scope) {α : Type} : EStateM.Result Flaw Memory α → Prop
  | ok {a : α} {after : Memory} : after.Faithful scope → Sincere scope (.ok a after)
  | fault {cause : EvaluationFault} {range : TextRange} {after : Memory} :
      Sincere scope (.error (.fault cause range) after)
  | cycle {chain : List Slot} {range : TextRange} {after : Memory} : Circular scope chain →
      Sincere scope (.error (.cycle chain range) after)

/-- The results of an evaluation are sincere from every faithful memory. -/
def ReportsTruly (scope : Scope) {α : Type} (x : Eval α) : Prop :=
  ∀ memory : Memory, memory.Faithful scope → Sincere scope (x memory)

namespace ReportsTruly

variable {scope : Scope} {α β : Type}

theorem pure (a : α) : ReportsTruly scope (pure a) := fun _ hmemory => .ok hmemory

theorem bind {x : Eval α} {f : α → Eval β} (hx : ReportsTruly scope x)
    (hf : ∀ a, ReportsTruly scope (f a)) : ReportsTruly scope (x >>= f) := by
  intro memory hmemory
  have first := hx memory hmemory
  simp only [Bind.bind, EStateM.bind]
  generalize x memory = result at first ⊢
  cases first with
  | ok hafter => exact hf _ _ hafter
  | fault => exact .fault
  | cycle hcircular => exact .cycle hcircular

/-- What follows plain outcomes is sincere, if its cycles are. -/
theorem of_tracks {deep : Nat → Prop} {x : Eval α} {q : Nat → Outcome Flaw α}
    (h : Tracks scope deep x q)
    (hcycle : ∀ memory chain range after, memory.Faithful scope →
      x memory = .error (.cycle chain range) after → Circular scope chain) :
    ReportsTruly scope x := by
  intro memory hmemory
  have step := h memory hmemory
  have hcircular := hcycle memory
  generalize x memory = result at step hcircular
  cases step with
  | value hafter _ => exact .ok hafter
  | @failure flaw _ _ _ hother _ =>
    cases flaw with
    | fault cause range => exact .fault
    | cycle chain range => exact absurd trivial hother
  | @recurs flaw _ _ _ hback _ =>
    cases flaw with
    | fault cause range => exact hback.elim
    | cycle chain range => exact .cycle (hcircular _ _ _ hmemory rfl)

end ReportsTruly

namespace Evaluation

variable {scope : Scope}

theorem record_reports (space : Namespace) (path : List String) (range : TextRange) :
    ReportsTruly scope (record scope space path range) :=
  .of_tracks (@record_tracks _ (fun _ => True) space path range) (fun _ _ _ _ _ => nofun)

theorem forceSlot_reports {slot : Slot} (hslot : scope.Binds slot) (range : TextRange) :
    ReportsTruly scope (forceSlot scope slot range) :=
  .of_tracks (forceSlot_tracks hslot range) fun _ _ _ _ hmemory =>
    forceSlot_circular hslot hmemory

/-- An expression outside of objects. -/
theorem value_reports (scope : Scope) (expr : ValueExpr) :
    ReportsTruly scope (value scope (topEffects scope) none expr) := by
  refine .of_tracks (value_tracks scope expr) fun memory found range after hmemory h => ?_
  have traced := (effects_traces fun slot range =>
    forceWith_tracks scope (scope.size + 1) [] slot range).value none expr memory hmemory
  change Traced scope (forceSlot scope) (value scope (topEffects scope) none expr memory) _
    at traced
  rw [h] at traced
  cases traced with
  | cycle hmid hother hfound _ => exact forceSlot_circular hother hmid hfound

end Evaluation

open Evaluation in
/-- What the evaluation of a document reports as a reference cycle is one. -/
theorem Scope.evaluate_reports (scope : Scope) : ReportsTruly scope scope.evaluate :=
  evaluate_of_closed .pure .bind record_reports (fun _ => forceSlot_reports)
    (fun _ _ => value_reports scope _) fun _ _ hmemory => .ok hmemory

end Rune
