import Rune.Proofs.Evaluation.Force
import Rune.Proofs.Session.Resources

/-!
# Rune - evaluation does not depend on resources

Resources that tell the truth save work and change nothing else: from memories that
differ in their resources alone, evaluation goes the same way and leaves memories of
that kind.

Main results:

- Definition {lit}`Lockstep`: two evaluations go the same way from memories that differ in
  their resources alone.
- Theorem {lit}`Evaluation.forceSlot_lockstep`: references go the same way.
- Theorem {lit}`Scope.evaluate_lockstep`: so does the evaluation of a document, whose
  configuration comes out the same, locations included.
-/

namespace Rune

/-! ## Memories that differ in their resources -/

/-- Two memories differ in their resources alone, and the resources of both tell the
truth. -/
structure Memory.Alike (scope : Scope) (a b : Memory) : Prop where
  globals : a.globals = b.globals
  items : a.items = b.items
  locations : a.locations = b.locations
  truthful : a.resources.Truthful scope.services.system
  truthful' : b.resources.Truthful scope.services.system

namespace Memory.Alike

variable {scope : Scope} {a b : Memory}

/-- The same values are remembered. -/
theorem value?_eq (h : a.Alike scope b) (slot : Slot) : a.value? slot = b.value? slot := by
  cases slot with
  | global name => simp only [value?, h.globals]
  | item name => simp only [value?, h.items]

/-- Remembering a value in both. -/
theorem remember (h : a.Alike scope b) (slot : Slot) (value : Value) :
    (a.remember slot value).Alike scope (b.remember slot value) := by
  obtain ⟨hglobals, hitems, hlocations, htruthful, htruthful'⟩ := h
  cases slot with
  | global name =>
    exact ⟨by simp [Memory.remember, hglobals], hitems, hlocations, htruthful, htruthful'⟩
  | item name =>
    exact ⟨hglobals, by simp [Memory.remember, hitems], hlocations, htruthful, htruthful'⟩

/-- Recording a location in both. -/
theorem record (h : a.Alike scope b) (place : Place) (location : Location) :
    (a.record place location).Alike scope (b.record place location) := by
  obtain ⟨hglobals, hitems, hlocations, htruthful, htruthful'⟩ := h
  exact ⟨hglobals, hitems, by simp [Memory.record, hlocations], htruthful, htruthful'⟩

/-- Recording the location of a binding in both. -/
theorem noted (h : a.Alike scope b) (slot : Slot) :
    (a.noted scope slot).Alike scope (b.noted scope slot) := by
  unfold Memory.noted
  split
  · exact h
  · split
    · exact h.record _ _
    · exact h

/-- Other resources that tell the truth. -/
theorem with_resources (h : a.Alike scope b) {resources resources' : Resources}
    (htruthful : resources.Truthful scope.services.system)
    (htruthful' : resources'.Truthful scope.services.system) :
    { a with resources := resources }.Alike scope { b with resources := resources' } :=
  ⟨h.globals, h.items, h.locations, htruthful, htruthful'⟩

end Memory.Alike

/-! ## Going the same way -/

/-- Two results are the same up to resources. -/
inductive Matched (scope : Scope) {α : Type} :
    EStateM.Result Flaw Memory α → EStateM.Result Flaw Memory α → Prop
  | ok {value : α} {a b : Memory} : a.Alike scope b → Matched scope (.ok value a) (.ok value b)
  | error {flaw : Flaw} {a b : Memory} :
      a.Alike scope b → Matched scope (.error flaw a) (.error flaw b)

/-- Two evaluations go the same way from memories that differ in their resources
alone. -/
def Lockstep (scope : Scope) {α : Type} (x y : Eval α) : Prop :=
  ∀ a b : Memory, a.Alike scope b → Matched scope (x a) (y b)

namespace Lockstep

variable {scope : Scope} {α β : Type}

theorem pure (value : α) : Lockstep scope (pure value) (pure value) := fun _ _ h => .ok h

theorem throw (flaw : Flaw) : Lockstep scope (throw flaw : Eval α) (throw flaw) :=
  fun _ _ h => .error h

theorem bind {x y : Eval α} {f g : α → Eval β} (hxy : Lockstep scope x y)
    (hfg : ∀ value, Lockstep scope (f value) (g value)) :
    Lockstep scope (x >>= f) (y >>= g) := by
  intro a b hab
  have first := hxy a b hab
  simp only [Bind.bind, EStateM.bind]
  generalize x a = result at first ⊢
  generalize y b = result' at first ⊢
  cases first with
  | ok hafter => exact hfg _ _ _ hafter
  | error hafter => exact .error hafter

/-- Changing both memories in a way that keeps them alike. -/
theorem modify {f : Memory → Memory} (hf : ∀ a b, a.Alike scope b → (f a).Alike scope (f b)) :
    Lockstep scope (modify f) (modify f) := fun a b h => .ok (hf a b h)

end Lockstep

namespace Evaluation

variable {scope : Scope}

theorem record_lockstep (space : Namespace) (path : List String) (range : TextRange) :
    Lockstep scope (record scope space path range) (record scope space path range) :=
  .modify fun _ _ h => h.record _ _

theorem compile_lockstep (source : String) (range : TextRange) :
    Lockstep scope (compile source range) (compile source range) := by
  intro a b h
  unfold compile
  cases hread : Pattern.read source with
  | ok pattern =>
    obtain ⟨after, hcompile, hfacts⟩ := Resources.compile_of_read hread a.resources
    obtain ⟨after', hcompile', hfacts'⟩ := Resources.compile_of_read hread b.resources
    rw [hcompile, hcompile']
    exact .ok (h.with_resources (h.truthful.of_facts_eq hfacts) (h.truthful'.of_facts_eq hfacts'))
  | error reason =>
    rw [Resources.compile_of_read_error hread, Resources.compile_of_read_error hread]
    exact .error h

theorem ask_lockstep (key : String) : Lockstep scope (ask scope key) (ask scope key) := by
  intro a b h
  unfold ask
  dsimp only
  rw [h.truthful.fact key, h.truthful'.fact key]
  exact .ok (h.with_resources (h.truthful.after_fact key) (h.truthful'.after_fact key))

/-- If references go the same way, then so does all of evaluation. -/
theorem effects_lockstep {force : Slot → TextRange → Eval Value}
    (hforce : ∀ slot, scope.Binds slot → ∀ range,
      Lockstep scope (force slot range) (force slot range)) :
    Parametric scope (fun {_} x y => Lockstep scope x (y ())) (effects scope force)
      (fun _ => effects scope force) where
  pure := .pure
  bind := .bind
  fail _ _ := .throw _
  record := record_lockstep
  compile := compile_lockstep
  ask key := ask_lockstep key.name
  force slot range hslot := hforce slot hslot range

/-- References go the same way. -/
theorem forceSlot_lockstep {slot : Slot} (hslot : scope.Binds slot) (range : TextRange) :
    Lockstep scope (forceSlot scope slot range) (forceSlot scope slot range) := by
  revert range
  refine forceSlot_induction (P := fun _ _ force => ∀ range,
    Lockstep scope (force range) (force range)) ?_ hslot
  intro fuel pending slot _ ih range a b h
  have hvalue := h.value?_eq slot
  cases hknown : b.value? slot with
  | some value =>
    rw [forceWith_known (hvalue.trans hknown), forceWith_known hknown]
    exact .ok h
  | none =>
    by_cases hpending : slot ∈ pending
    · rw [forceWith_pending (hvalue.trans hknown) hpending, forceWith_pending hknown hpending]
      exact .error (h.noted slot)
    · rw [forceWith_anew (hvalue.trans hknown) hpending, forceWith_anew hknown hpending]
      have body := (effects_lockstep (ih hpending)).bindingValue slot
      exact (body.bind fun value => (Lockstep.modify fun _ _ h => h.remember slot value).bind
        fun _ => .pure value) _ _ (h.noted slot)

end Evaluation

open Evaluation in
/-- The evaluation of a document does not depend on resources that tell the truth. -/
theorem Scope.evaluate_lockstep (scope : Scope) :
    Lockstep scope scope.evaluate scope.evaluate := by
  refine evaluate_of_closed (P := fun x => Lockstep scope x x) .pure .bind record_lockstep
    (fun _ => forceSlot_lockstep) (fun _ _ => ?_) fun make a b h => ?_
  · exact (effects_lockstep fun slot hslot range => forceSlot_lockstep hslot range).value none _
  · -- The locations are read off memories that are alike.
    simp only [Bind.bind, EStateM.bind, get_eq, h.locations]
    exact .ok h

end Rune
