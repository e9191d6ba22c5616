import Rune.Proofs.Evaluation.Lookup
import Rune.Proofs.Evaluation.Raising
import Rune.Proofs.Session.Resources

/-!
# Rune - patterns that are to blame

An evaluation can fail over a pattern.  Then the pattern stands in the document, and it
cannot be read whatever was read before.

Main results:

- Definition {lit}`Evaluation.Blames`: a computation fails over no other patterns than those
  that are mentioned.
- Theorem {lit}`Evaluation.evaluate_blames`: evaluating a document fails over no other
  patterns than its own.
-/

namespace Rune

/-- If a flaw is a bad pattern, that pattern is mentioned and cannot be read. -/
def Flaw.Blames (mentioned : Mention → Prop) (flaw : Flaw) : Prop :=
  ∀ reason source range, flaw = .fault (.badPattern reason source) range →
    mentioned (.pattern source) ∧ Pattern.read source = .error reason

namespace Evaluation

/-- A computation fails over no other patterns than those that are mentioned. -/
def Blames (mentioned : Mention → Prop) {α : Type} (x : Eval α) : Prop :=
  ∀ memory flaw after, x memory = .error flaw after → flaw.Blames mentioned

namespace Blames

variable {mentioned : Mention → Prop} {α β : Type}

theorem pure (a : α) : Blames mentioned (pure a) := Raises.pure a

theorem bind {x : Eval α} {f : α → Eval β} (hx : Blames mentioned x)
    (hf : ∀ a, Blames mentioned (f a)) : Blames mentioned (x >>= f) := Raises.bind hx hf

theorem modify (f : Memory → Memory) : Blames mentioned (modify f) := Raises.modify f

/-- A pattern that is mentioned may be read. -/
theorem compile {source : String} (hsource : mentioned (.pattern source)) (range : TextRange) :
    Blames mentioned (compile source range) := by
  intro memory flaw after h reason other place hflaw
  unfold Evaluation.compile at h
  cases hread : Pattern.read source with
  | ok pattern =>
    obtain ⟨resources, hcompile, -⟩ := Resources.compile_of_read hread memory.resources
    rw [hcompile] at h
    cases h
  | error fault =>
    rw [Resources.compile_of_read_error hread] at h
    cases h
    cases hflaw
    exact ⟨hsource, hread⟩

/-- Any other fault may stop a computation. -/
theorem fail {fault : EvaluationFault} (h : ¬ fault.IsPattern) (range : TextRange) :
    Blames mentioned (fail fault range : Eval α) := by
  refine Raises.throw fun reason source place heq => ?_
  cases heq
  exact absurd trivial h

theorem record (scope : Scope) (space : Namespace) (path : List String) (range : TextRange) :
    Blames mentioned (record scope space path range) := modify _

theorem ask (scope : Scope) (key : String) : Blames mentioned (ask scope key) :=
  Raises.ask scope key

end Blames

/-- Going down a value fails over no pattern. -/
theorem not_isPattern_of_descend {segments walked keys : List String} {value : Value}
    {fault : EvaluationFault} (h : descend segments walked keys value = .error fault) :
    ¬ fault.IsPattern := by
  obtain ⟨reached, key, rfl⟩ := descend_eq_error h
  exact id

section

variable {scope : Scope} {mentioned : Mention → Prop} {force : Slot → TextRange → Eval Value}
  (hforce : ∀ slot, scope.Binds slot → ∀ range, Blames mentioned (force slot range))
include hforce

theorem effects_respects : Respects scope scope mentioned
    (fun {_} x (_ : Unit → Eval _) => Blames mentioned x) (effects scope force)
    (fun _ => effects scope force) where
  toAgreesOn := .refl mentioned scope
  pure := Blames.pure
  bind := Blames.bind
  fail _ range hfault := Blames.fail hfault range
  ask key := Blames.ask scope key.name
  force _ slot range _ hslot := hforce slot (Scope.binds_of_slot? hslot) range

/-- A dotted reference that leads nowhere is no bad pattern. -/
theorem path_blames (siblings : Siblings) (head next : String) (rest : List String)
    (range : TextRange) (hhead : mentioned (.name (Key.canonical head))) :
    Blames mentioned
      (operandValue scope (effects scope force) siblings (.path head next rest range)) := by
  simp only [operandValue, pathValue]
  cases Entries.get? (Key.canonical head) scope.aliases with
  | some config =>
    dsimp only
    cases config.member? next with
    | some value =>
      simp only [pure_bind]
      split
      · exact .pure _
      · rename_i hfault
        exact .fail (not_isPattern_of_descend hfault) range
    | none => exact Blames.fail id range
  | none =>
    cases isBound scope siblings (Key.canonical head) with
    | false => exact Blames.fail id range
    | true =>
      simp only [if_true, bind_assoc, pure_bind]
      refine ((effects_respects hforce).nameValue siblings hhead range).bind fun value => ?_
      split
      · exact .pure _
      · rename_i hfault
        exact .fail (not_isPattern_of_descend hfault) range

theorem effects_congruent : Congruent scope scope mentioned
    (fun {_} x (_ : Unit → Eval _) => Blames mentioned x) (effects scope force)
    (fun _ => effects scope force) where
  toRespects := effects_respects hforce
  path := path_blames hforce
  compile _ range hsource := Blames.compile hsource range

/-- Bindings that mention nothing else fail over no other patterns. -/
theorem bindingValue_blames (hscope : scope.MentionsOnly mentioned) (slot : Slot) :
    Blames mentioned (bindingValue scope (effects scope force) slot) := by
  unfold bindingValue
  cases slot with
  | global name =>
    dsimp only
    cases hbound : Entries.get? name scope.globals with
    | some bound =>
      exact (effects_congruent hforce).value none bound.1 (hscope.globals name bound hbound)
    | none => exact Blames.fail id _
  | item name =>
    dsimp only
    cases hbound : Entries.get? name scope.items with
    | some bound =>
      have hmembers := (effects_congruent hforce).members (fun _ _ _ => Blames.record scope _ _ _)
        [name] [] bound.1 (hscope.items name bound hbound)
      exact Blames.bind hmembers fun _ => .pure _
    | none => exact Blames.fail id _

end

section

variable {scope : Scope} {mentioned : Mention → Prop} (hscope : scope.MentionsOnly mentioned)
include hscope

/-- So do references to them. -/
theorem forceSlot_blames {slot : Slot} (hslot : scope.Binds slot) (range : TextRange) :
    Blames mentioned (forceSlot scope slot range) := by
  refine forceSlot_induction (P := fun _ _ x => ∀ range, Blames mentioned (x range)) ?_ hslot range
  intro fuel pending slot _ ih range memory flaw after h
  cases hvalue : memory.value? slot with
  | some known =>
    rw [forceWith_known hvalue] at h
    cases h
  | none =>
    by_cases hpending : slot ∈ pending
    · rw [forceWith_pending hvalue hpending] at h
      cases h
      exact nofun
    · rw [forceWith_anew hvalue hpending] at h
      have hanew : Blames mentioned (evaluateSlot scope fuel pending slot) :=
        (bindingValue_blames (ih hpending) hscope slot).bind fun _ =>
          (Blames.modify _).bind fun _ => .pure _
      exact hanew _ _ _ h

/-- Evaluating a document that mentions nothing else fails over no other patterns. -/
theorem evaluate_blames : Blames mentioned scope.evaluate := by
  have hforce (slot : Slot) (hslot : scope.Binds slot) := forceSlot_blames hscope hslot
  refine Scope.evaluate_of_closed .pure .bind (Blames.record scope) hforce (fun bound hbound => ?_)
    fun make memory flaw after h => nomatch h
  exact (effects_congruent hforce).value none bound.2.1 (hscope.metadata bound hbound)

end

end Evaluation

end Rune
