import Rune.Tree.Grammar

/-!
# Rune - what the grammar is made of

However the grammar nests, all that it does with a cursor is to look at it, to take the
token at it, and to stop.  What these do, and what goes over from steps to one step after
another, holds of the whole grammar.

Main results:

- Relation {lit}`Parse.Stepwise` says that a step of the grammar is made of such steps.
- Theorems {lit}`Grammar.valueWith_stepwise`, {lit}`Grammar.membersWith_stepwise` and
  {lit}`Grammar.statementsWith_stepwise`: the grammar is.
-/

namespace Rune

namespace Parse

/-- A step that is made of looking at the cursor, taking the token at it, and stopping with a
complaint or a fault. -/
inductive Stepwise : {α : Type} → Parse α → Prop
  | pure {α : Type} (a : α) : Stepwise (pure a)
  | look {α : Type} (f : Cursor → α) : Stepwise (look f)
  | bump : Stepwise bump
  | complainAt {α : Type} (complaint : Complaint) (range : TextRange) :
    Stepwise (complainAt complaint range : Parse α)
  | fault {α : Type} (f : Cursor → Fault) :
    Stepwise (fun cursor => .error (.fault (f cursor)) cursor : Parse α)
  | bind {α β : Type} {x : Parse α} {f : α → Parse β} (hx : Stepwise x)
    (hf : ∀ a, Stepwise (f a)) : Stepwise (x >>= f)

namespace Stepwise

variable {α β : Type}

theorem ite {c : Prop} [Decidable c] {x y : Parse α} (hx : Stepwise x) (hy : Stepwise y) :
    Stepwise (if c then x else y) := by
  split
  · exact hx
  · exact hy

/-- A check before the rest. -/
theorem check {c : Prop} [Decidable c] {x : Parse α} {rest : Parse β} (hx : Stepwise x)
    (hrest : Stepwise rest) : Stepwise (if c then x >>= fun _ => rest else rest) :=
  ite (hx.bind fun _ => hrest) hrest

/-- A step that depends on the cursor. -/
theorem atCursor {γ : Type} (g : Cursor → γ) {f : γ → Parse α} (hf : ∀ c, Stepwise (f c)) :
    Stepwise fun cursor => f (g cursor) cursor := (look g).bind hf

theorem complain (complaint : Complaint) : Stepwise (complain complaint : Parse α) :=
  atCursor Cursor.range fun range => complainAt complaint range

theorem eat (kind : TokenKind) : Stepwise (eat kind) := by
  refine (look _).bind fun found => ?_
  split
  · exact bump.bind fun _ => pure _
  · exact pure _

theorem expect (kind : TokenKind) (name : String) : Stepwise (expect kind name) := by
  refine (look _).bind fun token => ?_
  dsimp only
  split
  · exact bump
  · exact complain _

theorem ofExcept (result : Except Fault α) : Stepwise (ofExcept result) := by
  cases result with
  | ok a => exact pure a
  | error fault => exact .fault fun _ => fault

theorem step (progress : Progress) : Stepwise progress.step := by
  have hchoice (progressed : Bool) : Stepwise (fun cursor =>
      if progressed then .ok (.seen cursor) cursor
      else .error (Progress.stalled cursor) cursor : Parse Progress) := by
    cases progressed with
    | true => exact look Progress.seen
    | false => exact .fault _
  exact atCursor progress.hasProgressed hchoice

/-- A step fails with a complaint about the grammar or with a fault. -/
theorem failure_cases {x : Parse α} (h : Stepwise x) {cursor after : Cursor} {failure : Failure}
    (hrun : x cursor = .error failure after) :
    (∃ d, failure = .grammatical d) ∨ ∃ fault, failure = .fault fault := by
  induction h generalizing cursor with
  | pure | look | bump => cases hrun
  | complainAt complaint range =>
    cases hrun
    exact .inl ⟨_, rfl⟩
  | fault f =>
    cases hrun
    exact .inr ⟨_, rfl⟩
  | @bind _ _ x f _ _ hx hf =>
    simp only [Bind.bind, EStateM.bind] at hrun
    cases hfirst : x cursor with
    | ok a next =>
      rw [hfirst] at hrun
      exact hf a hrun
    | error other next =>
      rw [hfirst] at hrun
      cases hrun
      exact hx hfirst

end Stepwise

end Parse

namespace Grammar

open Parse

theorem stall_stepwise {α : Type} : Stepwise (stall : Parse α) := .fault _

theorem take_stepwise (kind : TokenKind) (fault : Token → GrammarFault) :
    Stepwise (take kind fault) := by
  refine (Stepwise.look _).bind fun found => ?_
  split
  · exact .bump
  · exact (Stepwise.look _).bind fun _ => .complain _

/-! ## References and conditions -/

theorem literal_stepwise : Stepwise literal :=
  Stepwise.bump.bind fun _ => (Stepwise.ofExcept _).bind fun _ => .pure _

theorem string_stepwise : Stepwise string := Stepwise.bump.bind fun _ => .pure _

theorem segments_stepwise (fuel : Nat) : Stepwise (segments fuel) := by
  induction fuel with
  | zero => exact .pure _
  | succ fuel ih =>
    refine (Stepwise.look _).bind fun found => ?_
    split
    · exact Stepwise.bump.bind fun _ => (take_stepwise _ _).bind fun _ => ih.bind fun _ => .pure _
    · exact .pure _

theorem reference_stepwise : Stepwise reference := by
  refine (Stepwise.expect _ _).bind fun first => (Stepwise.look _).bind fun fuel =>
    (segments_stepwise _).bind fun rest => (Stepwise.look _).bind fun range => ?_
  split <;> exact .pure _

theorem hostReference_stepwise : Stepwise hostReference :=
  Stepwise.bump.bind fun _ => (take_stepwise _ _).bind fun _ =>
    (take_stepwise _ _).bind fun _ => (Stepwise.look _).bind fun _ => .pure _

theorem conditionOperand_stepwise : Stepwise conditionOperand := by
  refine (Stepwise.look _).bind fun token => ?_
  split
  · exact reference_stepwise
  · exact hostReference_stepwise
  · exact hostReference_stepwise
  · exact string_stepwise
  · exact literal_stepwise
  · exact literal_stepwise
  · exact literal_stepwise
  · exact literal_stepwise
  · exact literal_stepwise
  · exact .complain _

theorem comparison_stepwise (start : TextRange) (left : Operand) :
    Stepwise (comparison start left) := by
  refine (Stepwise.eat _).bind fun found => ?_
  split
  · exact conditionOperand_stepwise.bind fun _ => (Stepwise.look _).bind fun _ => .pure _
  · exact (Stepwise.look _).bind fun _ => .pure _

theorem condition_stepwise : Stepwise condition :=
  (Stepwise.look _).bind fun _ => (Stepwise.look _).bind fun _ =>
    .check (.complain _) <| (Stepwise.eat _).bind fun _ =>
      conditionOperand_stepwise.bind fun _ => (comparison_stepwise _ _).bind fun _ =>
        .check (.expect _ _) (.pure _)

/-! ## Values -/

/-- Going on after one of two steps. -/
theorem ite_bind {α β : Type} {c : Prop} [Decidable c] (x y : Parse α) (f : α → Parse β) :
    (if c then x else y) >>= f = if c then x >>= f else y >>= f := by
  split <;> rfl

/-- One time around the loop of an array, with fuel: an item and what stands behind it. -/
def itemWith (fuel : Nat) (opening : TextRange) : Parse ValueExpr := do
  if ← isAt .eof then failAt .unclosedArray opening
  let item ← valueWith fuel
  if !(← eat .comma) then
    let separated ← look fun cursor => cursor.kind = .rightBracket || cursor.lineBreak
    if !separated then fail (.arraySeparator (← look Cursor.current))
  return item

/-- The loop of an array stops at the closing bracket, or goes around once more. -/
theorem itemsWith_succ (fuel : Nat) (opening : TextRange) (progress : Progress) :
    itemsWith (fuel + 1) opening progress = (do
      if ← eat .rightBracket then return []
      let progress ← progress.step
      let item ← itemWith fuel opening
      let rest ← itemsWith fuel opening progress
      return item :: rest) := by
  rw [itemsWith]
  unfold itemWith
  simp only [bind_assoc, ite_bind, pure_bind]

theorem itemWith_stepwise {fuel : Nat} (hvalue : Stepwise (valueWith fuel))
    (opening : TextRange) : Stepwise (itemWith fuel opening) := by
  have hend (item : ValueExpr) : Stepwise (do
      if !(← eat .comma) then
        let separated ← look fun cursor => cursor.kind = .rightBracket || cursor.lineBreak
        if !separated then fail (.arraySeparator (← look Cursor.current))
      return item) :=
    (Stepwise.eat _).bind fun _ => .ite ((Stepwise.look _).bind fun _ =>
      .ite ((Stepwise.look _).bind fun _ => (Stepwise.complain _).bind fun _ => .pure _) (.pure _))
      (.pure _)
  exact (Stepwise.look _).bind fun _ => .check (.complainAt _ _) <|
    hvalue.bind fun item => hend item

/-- Values, arrays, their items and choices, with the same fuel. -/
theorem valueWith_stepwise (fuel : Nat) :
    Stepwise (valueWith fuel) ∧ Stepwise (arrayWith fuel) ∧
      (∀ opening progress, Stepwise (itemsWith fuel opening progress)) ∧
      Stepwise (conditionalWith fuel) := by
  induction fuel with
  | zero =>
    simp only [valueWith, arrayWith, itemsWith, conditionalWith]
    exact ⟨stall_stepwise, stall_stepwise, fun _ _ => stall_stepwise, stall_stepwise⟩
  | succ fuel ih =>
    obtain ⟨hvalue, harray, hitems, hconditional⟩ := ih
    refine ⟨?_, ?_, fun opening progress => ?_, ?_⟩
    · rw [valueWith]
      refine (Stepwise.look _).bind fun token => ?_
      split
      · exact string_stepwise.bind fun _ => .pure _
      · exact Stepwise.bump.bind fun _ => .pure _
      · exact literal_stepwise.bind fun _ => .pure _
      · exact literal_stepwise.bind fun _ => .pure _
      · exact literal_stepwise.bind fun _ => .pure _
      · exact literal_stepwise.bind fun _ => .pure _
      · exact literal_stepwise.bind fun _ => .pure _
      · exact reference_stepwise.bind fun _ => .pure _
      · exact hostReference_stepwise.bind fun _ => .pure _
      · exact hostReference_stepwise.bind fun _ => .pure _
      · exact harray
      · exact hconditional
      · exact .complain _
    · rw [arrayWith]
      exact Stepwise.bump.bind fun _ => (hitems _ _).bind fun _ =>
        (Stepwise.look _).bind fun _ => .pure _
    · rw [itemsWith_succ]
      exact (Stepwise.eat _).bind fun _ => .ite (.pure _) <| (Stepwise.step _).bind fun _ =>
        (itemWith_stepwise hvalue opening).bind fun _ => (hitems _ _).bind fun _ => .pure _
    · rw [conditionalWith]
      exact Stepwise.bump.bind fun _ => condition_stepwise.bind fun _ => hvalue.bind fun _ =>
        (Stepwise.look _).bind fun _ => (Stepwise.look _).bind fun _ =>
          .ite (Stepwise.bump.bind fun _ => hvalue.bind fun _ => (Stepwise.pure _).bind fun _ =>
            (Stepwise.look _).bind fun _ => .pure _)
          ((Stepwise.pure _).bind fun _ => (Stepwise.look _).bind fun _ => .pure _)

theorem value_stepwise : Stepwise value := .atCursor fuelFor fun fuel => (valueWith_stepwise fuel).1

theorem boundValue_stepwise : Stepwise boundValue :=
  (Stepwise.look _).bind fun _ => .ite
    ((Stepwise.look _).bind fun _ => (Stepwise.complainAt _ _).bind fun _ => value_stepwise)
    value_stepwise

theorem binding_stepwise : Stepwise binding :=
  Stepwise.bump.bind fun _ => (Stepwise.look _).bind fun _ =>
    .check .bump <| boundValue_stepwise.bind fun _ => (Stepwise.look _).bind fun _ => .pure _

/-! ## Blocks -/

theorem conditionalEnd_stepwise (keyword : Token) (condition : Condition)
    (thenChildren elseChildren : List Member) :
    Stepwise (conditionalEnd keyword condition thenChildren elseChildren) := by
  refine (Stepwise.look _).bind fun kind => ?_
  split
  · exact Stepwise.bump.bind fun _ => (Stepwise.look _).bind fun _ => .pure _
  · exact .complain _
  · exact .complainAt _ _

/-- Members, one member, blocks and choices, with the same fuel. -/
theorem membersWith_stepwise (fuel : Nat) :
    (∀ progress, Stepwise (membersWith fuel progress)) ∧ Stepwise (memberWith fuel) ∧
      Stepwise (blockWith fuel) ∧ Stepwise (blockConditionalWith fuel) := by
  induction fuel with
  | zero =>
    simp only [membersWith, memberWith, blockWith, blockConditionalWith]
    exact ⟨fun _ => stall_stepwise, stall_stepwise, stall_stepwise, stall_stepwise⟩
  | succ fuel ih =>
    obtain ⟨hmembers, hmember, hblock, hconditional⟩ := ih
    refine ⟨fun progress => ?_, ?_, ?_, ?_⟩
    · rw [membersWith]
      exact (Stepwise.look _).bind fun _ => .ite (.pure _) <|
        (Stepwise.step _).bind fun _ => hmember.bind fun _ => (hmembers _).bind fun _ => .pure _
    · rw [memberWith]
      refine (Stepwise.look _).bind fun token => ?_
      split
      · exact (Stepwise.look _).bind fun _ => .ite (hblock.bind fun _ => .pure _)
          (binding_stepwise.bind fun _ => .pure _)
      · exact hconditional
      · exact .complain _
    · rw [blockWith]
      refine Stepwise.bump.bind fun name => (Stepwise.expect _ _).bind fun _ =>
        (hmembers _).bind fun children => (Stepwise.look _).bind fun token => ?_
      split
      · exact Stepwise.bump.bind fun _ => (Stepwise.look _).bind fun _ => .pure _
      · exact .complainAt _ _
      · exact .complain _
    · rw [blockConditionalWith]
      exact Stepwise.bump.bind fun _ => condition_stepwise.bind fun _ =>
        (Stepwise.expect _ _).bind fun _ => (hmembers _).bind fun _ =>
          (Stepwise.eat _).bind fun _ => .ite
            ((Stepwise.expect _ _).bind fun _ => (hmembers _).bind fun _ =>
              (Stepwise.look _).bind fun _ => .check (.complain _) <|
                (Stepwise.pure _).bind fun _ => conditionalEnd_stepwise _ _ _ _)
            ((Stepwise.pure _).bind fun _ => conditionalEnd_stepwise _ _ _ _)

theorem block_stepwise : Stepwise block :=
  .atCursor fuelFor fun fuel => (membersWith_stepwise fuel).2.2.1

/-! ## Statements -/

theorem metadata_stepwise : Stepwise metadata :=
  Stepwise.bump.bind fun _ => (take_stepwise _ _).bind fun _ =>
    boundValue_stepwise.bind fun _ => (Stepwise.look _).bind fun _ => .pure _

theorem gather_stepwise : Stepwise gather :=
  Stepwise.bump.bind fun _ => (take_stepwise _ _).bind fun _ => (Stepwise.look _).bind fun _ =>
    .ite (Stepwise.bump.bind fun _ => (Stepwise.expect _ _).bind fun _ =>
      (Stepwise.pure _).bind fun _ => (Stepwise.look _).bind fun _ => .pure _)
    ((Stepwise.pure _).bind fun _ => (Stepwise.look _).bind fun _ => .pure _)

theorem statement_stepwise : Stepwise statement := by
  refine (Stepwise.look _).bind fun token => ?_
  split
  · exact metadata_stepwise
  · exact gather_stepwise.bind fun _ => .pure _
  · exact (Stepwise.look _).bind fun _ => .ite (block_stepwise.bind fun _ => .pure _)
      (binding_stepwise.bind fun _ => .pure _)
  · exact .complain _
  · exact .complain _
  · exact .complain _
  · exact .complain _

theorem statementsWith_stepwise (fuel : Nat) (progress : Progress) :
    Stepwise (statementsWith fuel progress) := by
  induction fuel generalizing progress with
  | zero => exact stall_stepwise
  | succ fuel ih =>
    exact (Stepwise.look _).bind fun _ => .ite (.pure _) <|
      (Stepwise.step _).bind fun _ => statement_stepwise.bind fun _ =>
        (ih _).bind fun _ => .pure _

end Grammar

end Rune
