import Rune.Proofs.Evaluation.Force
import Rune.Proofs.Evaluation.Plain
import Rune.Proofs.Session.Resources

/-!
# Rune - evaluation follows plain evaluation

What evaluation remembers is what plain evaluation comes to.  Hence an evaluation
follows the plain outcomes: it finds their value, it fails as they do, or it finds a
cycle and they are too deep at every depth.

Main results:

- Structure {lit}`Memory.Faithful` is the invariant: remembered values are plain values.
- Theorem {lit}`Evaluation.effects_parametric`: evaluation follows plain evaluation if
  references do.
- Theorems {lit}`Evaluation.forceSlot_tracks` and {lit}`Evaluation.forceWith_tracks`: a
  reference follows the plain value of its binding.
-/

namespace Rune

/-- A flaw that reports a value which depends on itself. -/
def Flaw.IsCycle : Flaw → Prop
  | .cycle _ _ => True
  | .fault _ _ => False

/-! ## What is remembered -/

/-- A memory is faithful if the values in it are what plain evaluation comes to and
its resources tell the truth. -/
structure Memory.Faithful (scope : Scope) (memory : Memory) : Prop where
  settles : ∀ slot value, memory.value? slot = some value →
    Settles (fun depth => ByName.slotValue scope depth slot) (.value value)
  truthful : memory.resources.Truthful scope.services.system

namespace Memory

variable {scope : Scope} {memory : Memory}

/-- A memory without values is faithful. -/
theorem faithful_fresh {resources : Resources}
    (h : resources.Truthful scope.services.system) : (fresh resources).Faithful scope := by
  refine ⟨fun slot value hvalue => ?_, h⟩
  cases slot <;> simp [fresh, value?, Entries.get?] at hvalue

/-- Faith depends on values and facts alone. -/
theorem Faithful.of_eq (h : memory.Faithful scope) {after : Memory}
    (hvalue : ∀ slot, after.value? slot = memory.value? slot)
    (hfacts : after.resources.facts = memory.resources.facts) : after.Faithful scope := by
  refine ⟨fun slot value hslot => ?_, h.truthful.of_facts_eq hfacts⟩
  rw [hvalue] at hslot
  exact h.settles slot value hslot

/-- Remembering a plain value keeps a memory faithful. -/
theorem Faithful.remember (h : memory.Faithful scope) {slot : Slot} {value : Value}
    (hvalue : Settles (fun depth => ByName.slotValue scope depth slot) (.value value)) :
    (memory.remember slot value).Faithful scope := by
  refine ⟨fun other known hknown => ?_, by simpa using h.truthful⟩
  by_cases hother : other = slot
  · subst hother
    rw [value?_remember_self] at hknown
    cases hknown
    exact hvalue
  · rw [value?_remember_of_ne hother] at hknown
    exact h.settles other known hknown

end Memory

/-! ## Following plain evaluation -/

/-- An evaluation follows plain outcomes from every faithful memory. -/
abbrev Tracks (scope : Scope) (deep : Nat → Prop) {α : Type} (x : Eval α)
    (q : Nat → Outcome Flaw α) : Prop :=
  Follows (Memory.Faithful scope) Flaw.IsCycle deep x q

namespace Evaluation

variable {scope : Scope} {deep : Nat → Prop}

/-- Recording a location follows doing nothing. -/
theorem record_tracks (space : Namespace) (path : List String) (range : TextRange) :
    Tracks scope deep (record scope space path range) (fun _ => .value ()) := by
  intro memory hmemory
  exact .value (hmemory.of_eq (fun slot => Memory.value?_record _ _ _ slot) rfl) (Settles.const _)

/-- Reading a pattern follows reading it anew. -/
theorem compile_tracks (source : String) (range : TextRange) :
    Tracks scope deep (compile source range) (fun _ => ByName.compile source range) := by
  intro memory hmemory
  unfold compile ByName.compile
  cases hread : Pattern.read source with
  | ok pattern =>
    obtain ⟨after, hcompile, hfacts⟩ := Resources.compile_of_read hread memory.resources
    rw [hcompile]
    refine .value (hmemory.of_eq (fun slot => ?_) hfacts) (Settles.const _)
    cases slot <;> rfl
  | error reason =>
    rw [Resources.compile_of_read_error hread]
    exact .failure hmemory id (Settles.const _)

/-- Asking the system follows its answer. -/
theorem ask_tracks (key : String) :
    Tracks scope deep (ask scope key) (fun _ => .value (scope.services.system key)) := by
  intro memory hmemory
  unfold ask
  dsimp only
  rw [hmemory.truthful.fact key]
  refine .value ⟨fun slot value hvalue => hmemory.settles slot value ?_,
    hmemory.truthful.after_fact key⟩ (Settles.const _)
  cases slot <;> exact hvalue

/-- If references follow plain values, then so does all of evaluation. -/
theorem effects_parametric {force : Slot → TextRange → Eval Value}
    (hforce : ∀ slot, scope.Binds slot → ∀ range,
      Tracks scope deep (force slot range) (fun depth => ByName.slotValue scope depth slot)) :
    Parametric scope (fun {_} x y => Tracks scope deep x y) (effects scope force)
      (ByName.effectsAt scope) where
  pure := Follows.pure
  bind := Follows.bind
  fail _ _ := fun _ hmemory => .failure hmemory id (Settles.const _)
  record := record_tracks
  compile := compile_tracks
  ask key := ask_tracks key.name
  force slot range hslot := hforce slot hslot range

/-- A reference follows the plain value of its binding. -/
theorem forceSlot_tracks {slot : Slot} (hslot : scope.Binds slot) (range : TextRange) :
    Tracks scope (fun _ => True) (forceSlot scope slot range)
      (fun depth => ByName.slotValue scope depth slot) := by
  -- Meanwhile this holds as long as the bindings being evaluated are too deep.
  let call (slot : Slot) (depth : Nat) := ByName.slotValue scope depth slot
  suffices h : ∀ range, Tracks scope (TooDeepUpTo call []) (forceSlot scope slot range)
      (call slot) from (h range).of_deep fun n _ => by simp [TooDeepUpTo]
  refine forceSlot_induction (P := fun pending slot force => ∀ range,
    Tracks scope (TooDeepUpTo call pending) (force range) (call slot)) ?_ hslot
  intro fuel pending slot _ ih range memory hmemory
  cases hknown : memory.value? slot with
  | some value =>
    rw [forceWith_known hknown]
    exact .value hmemory (hmemory.settles slot value hknown)
  | none =>
    have hnoted : (memory.noted scope slot).Faithful scope := hmemory.of_eq (by simp) (by simp)
    by_cases hpending : slot ∈ pending
    · rw [forceWith_pending hknown hpending]
      exact .recurs hnoted trivial fun n hn => hn n (Nat.le_refl n) slot hpending
    · rw [forceWith_anew hknown hpending]
      have body := (effects_parametric (ih hpending)).bindingValue slot _ hnoted
      simp only [evaluateSlot, bind, EStateM.bind]
      generalize bindingValue scope (effects scope (forceWith scope fuel (pending ++ [slot])))
        slot (memory.noted scope slot) = result at body ⊢
      cases body with
      | value hafter hvalue =>
        have hcall : Settles (call slot) _ := hvalue.call rfl fun _ => rfl
        exact .value (hafter.remember hcall) hcall
      | failure hafter hother hflaw => exact .failure hafter hother (hflaw.call rfl fun _ => rfl)
      | recurs hafter hcycle hback =>
        exact .recurs hafter hcycle (tooDeep_of_comes_back rfl (fun _ => rfl) hback)

/-- Whatever bindings are being evaluated, a reference that comes to a value comes to the
plain value of its binding, and it fails as that one does.  Nothing is said of a cycle. -/
theorem forceWith_tracks (scope : Scope) (fuel : Nat) (pending : List Slot) (slot : Slot)
    (range : TextRange) :
    Tracks scope (fun _ => False) (forceWith scope fuel pending slot range)
      (fun depth => ByName.slotValue scope depth slot) := by
  induction fuel generalizing pending slot range with
  | zero => exact fun memory hmemory => .recurs hmemory trivial fun _ => False.elim
  | succ fuel ih =>
    intro memory hmemory
    cases hknown : memory.value? slot with
    | some value =>
      rw [forceWith_known hknown]
      exact .value hmemory (hmemory.settles slot value hknown)
    | none =>
      have hnoted : (memory.noted scope slot).Faithful scope := hmemory.of_eq (by simp) (by simp)
      by_cases hpending : slot ∈ pending
      · rw [forceWith_pending hknown hpending]
        exact .recurs hnoted trivial fun _ => False.elim
      · rw [forceWith_anew hknown hpending]
        have body := (effects_parametric fun other _ => ih (pending ++ [slot]) other).bindingValue
          slot _ hnoted
        simp only [evaluateSlot, bind, EStateM.bind]
        generalize bindingValue scope (effects scope (forceWith scope fuel (pending ++ [slot])))
          slot (memory.noted scope slot) = result at body ⊢
        cases body with
        | value hafter hvalue =>
          have hcall := hvalue.call (q := fun depth => ByName.slotValue scope depth slot) rfl
            fun _ => rfl
          exact .value (hafter.remember hcall) hcall
        | failure hafter hother hflaw => exact .failure hafter hother (hflaw.call rfl fun _ => rfl)
        | recurs hafter hcycle _ => exact .recurs hafter hcycle fun _ => False.elim

/-- An expression outside of objects follows its plain value. -/
theorem value_tracks (scope : Scope) (expr : ValueExpr) :
    Tracks scope (fun _ => True) (value scope (topEffects scope) none expr)
      (fun depth => value scope (ByName.effectsAt scope depth) none expr) := by
  have parametric : Parametric scope (fun {_} x y => Tracks scope (fun _ => True) x y)
      (topEffects scope) (ByName.effectsAt scope) :=
    effects_parametric fun slot hslot range => forceSlot_tracks hslot range
  exact parametric.value none expr

end Evaluation

end Rune
