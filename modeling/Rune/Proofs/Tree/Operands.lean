import Mathlib.Data.List.Pairwise
import Rune.Proofs.Token.Literals
import Rune.Proofs.Tree.Slices

/-!
# Rune - operands of a tree

The operands of a statement stand in its values and conditions.  Each of them is spelled by
tokens of the statement, so that a reference has a range that is not empty and lies inside that
of its statement.  Different statements share no part of the text.

Main results:

- Definitions {lit}`ValueExpr.operands`, {lit}`Member.operands` and {lit}`Statement.operands`
  list the operands of a tree.
- Theorem {lit}`Source.reference_within`: a reference has a range inside its statement.
- Theorem {lit}`Source.eq_of_within`: no part of the text lies inside two statements.
-/

namespace Rune

/-! ## Operands -/

/-- An operand is a name or a dotted reference. -/
def Operand.IsReference : Operand → Prop
  | .name _ _ | .path _ _ _ _ => True
  | _ => False

/-- The operands of a condition. -/
def Condition.operands : Condition → List Operand
  | .presence operand _ => [operand]
  | .equality left right _ => [left, right]

namespace ValueExpr

mutual

/-- The operands of an expression. -/
def operands : ValueExpr → List Operand
  | .operand o => [o]
  | .rawString _ _ => []
  | .array items _ => operandsOfAll items
  | .conditional condition thenValue elseValue _ =>
    condition.operands ++ (operands thenValue ++ operandsOfOption elseValue)

/-- The operands of several expressions. -/
def operandsOfAll : List ValueExpr → List Operand
  | [] => []
  | expr :: exprs => operands expr ++ operandsOfAll exprs

/-- The operands of an expression that may be absent. -/
def operandsOfOption : Option ValueExpr → List Operand
  | none => []
  | some expr => operands expr

end

end ValueExpr

namespace Member

mutual

/-- The operands of a member. -/
def operands : Member → List Operand
  | .field _ expr _ => expr.operands
  | .block _ children _ => operandsOfAll children
  | .conditional condition thenChildren elseChildren _ =>
    condition.operands ++ (operandsOfAll thenChildren ++ operandsOfAll elseChildren)

/-- The operands of several members. -/
def operandsOfAll : List Member → List Operand
  | [] => []
  | child :: children => operands child ++ operandsOfAll children

end

end Member

/-- The operands of a statement. -/
def Statement.operands : Statement → List Operand
  | .global _ expr _ | .metadata _ expr _ => expr.operands
  | .block _ children _ => Member.operandsOfAll children
  | .gather _ => []

/-! ## Operands among tokens -/

namespace Sentence

/-- Each of some operands is spelled by tokens of a word. -/
def AreOperands (word : List Token) (operands : List Operand) : Prop :=
  ∀ operand ∈ operands, ∃ spelling, spelling.Sublist word ∧ IsOperand spelling operand

namespace AreOperands

variable {word word' : List Token} {operands operands' : List Operand}

theorem nil (word : List Token) : AreOperands word [] := nofun

theorem mono (h : AreOperands word operands) (hsub : word.Sublist word') :
    AreOperands word' operands :=
  fun operand hoperand =>
    let ⟨spelling, hspelling, his⟩ := h operand hoperand
    ⟨spelling, hspelling.trans hsub, his⟩

theorem behind (h : AreOperands word operands) (token : Token) :
    AreOperands (token :: word) operands :=
  h.mono (List.sublist_cons_self token word)

theorem before (h : AreOperands word operands) (word' : List Token) :
    AreOperands (word ++ word') operands :=
  h.mono (List.sublist_append_left word word')

theorem append (h : AreOperands word operands) (h' : AreOperands word' operands') :
    AreOperands (word ++ word') (operands ++ operands') := by
  intro operand hoperand
  rcases List.mem_append.1 hoperand with hoperand | hoperand
  · exact h.before word' operand hoperand
  · exact h'.mono (List.sublist_append_right word word') operand hoperand

end AreOperands

theorem IsOperand.areOperands {word : List Token} {operand : Operand} (h : IsOperand word operand) :
    AreOperands word [operand] :=
  List.forall_mem_singleton.2 ⟨word, List.Sublist.refl word, h⟩

theorem IsComparison.areOperands {start : TextRange} {word : List Token} {condition : Condition}
    (h : IsComparison start word condition) : AreOperands word condition.operands := by
  cases h with
  | presence hoperand => exact hoperand.areOperands
  | equality hleft _ hright => exact hleft.areOperands.append (hright.areOperands.behind _)

theorem IsCondition.areOperands {word : List Token} {condition : Condition}
    (h : IsCondition word condition) : AreOperands word condition.operands := by
  cases h with
  | bare _ hcomparison => exact hcomparison.areOperands
  | parenthesized _ hcomparison _ => exact (hcomparison.areOperands.before _).behind _

mutual

theorem IsValue.areOperands {word : List Token} {value : ValueExpr} (h : IsValue word value) :
    AreOperands word value.operands := by
  match h with
  | .operand hoperand =>
    simp only [ValueExpr.operands]
    exact hoperand.areOperands
  | .rawString _ =>
    simp only [ValueExpr.operands]
    exact .nil _
  | .array _ hitems _ =>
    simp only [ValueExpr.operands]
    exact (hitems.areOperands.before _).behind _
  | .choice _ hcondition hthen =>
    simp only [ValueExpr.operands, ValueExpr.operandsOfOption, List.append_nil]
    exact (hcondition.areOperands.append hthen.areOperands).behind _
  | .choiceElse _ hcondition hthen _ _ helse =>
    simp only [ValueExpr.operands, ValueExpr.operandsOfOption]
    exact (hcondition.areOperands.append
      (hthen.areOperands.append (helse.areOperands.behind _))).behind _

theorem AreItems.areOperands {word : List Token} {items : List ValueExpr}
    (h : AreItems word items) : AreOperands word (ValueExpr.operandsOfAll items) := by
  match h with
  | .nil => exact .nil _
  | .last hitem =>
    simp only [ValueExpr.operandsOfAll, List.append_nil]
    exact hitem.areOperands
  | .comma hitem _ hitems =>
    simp only [ValueExpr.operandsOfAll]
    exact hitem.areOperands.append (hitems.areOperands.behind _)
  | .lineBreak hitem _ hitems =>
    simp only [ValueExpr.operandsOfAll]
    exact hitem.areOperands.append hitems.areOperands

end

theorem IsBinding.areOperands {word : List Token} {name : String} {value : ValueExpr}
    {range : TextRange} (h : IsBinding word (name, value, range)) :
    AreOperands word value.operands := by
  cases h with
  | plain _ _ hvalue => exact hvalue.areOperands.behind _
  | assigned _ _ _ hvalue => exact (hvalue.areOperands.behind _).behind _

mutual

theorem IsMember.areOperands {word : List Token} {child : Member} (h : IsMember word child) :
    AreOperands word child.operands := by
  match h with
  | .field hbinding =>
    simp only [Member.operands]
    exact hbinding.areOperands
  | .block hblock =>
    simp only [Member.operands]
    exact hblock.areOperands
  | .choice _ hcondition _ hchildren _ =>
    simp only [Member.operands, Member.operandsOfAll, List.append_nil]
    exact (hcondition.areOperands.append ((hchildren.areOperands.before _).behind _)).behind _
  | .choiceElse _ hcondition _ hchildren _ _ helse _ =>
    simp only [Member.operands]
    exact (hcondition.areOperands.append ((hchildren.areOperands.append
      (((helse.areOperands.before _).behind _).behind _)).behind _)).behind _

theorem AreMembers.areOperands {word : List Token} {children : List Member}
    (h : AreMembers word children) : AreOperands word (Member.operandsOfAll children) := by
  match h with
  | .nil => exact .nil _
  | .cons hchild hchildren =>
    simp only [Member.operandsOfAll]
    exact hchild.areOperands.append hchildren.areOperands

theorem IsBlock.areOperands {word : List Token} {name : String} {children : List Member}
    {range : TextRange} (h : IsBlock word (name, children, range)) :
    AreOperands word (Member.operandsOfAll children) := by
  match h with
  | .mk _ _ hchildren _ => exact ((hchildren.areOperands.before _).behind _).behind _

end

theorem IsStatement.areOperands {word : List Token} {statement : Statement}
    (h : IsStatement word statement) : AreOperands word statement.operands := by
  cases h with
  | metadata _ _ _ hvalue => exact (hvalue.areOperands.behind _).behind _
  | gather | gatherAs => exact .nil _
  | block hblock => exact hblock.areOperands
  | global hbinding => exact hbinding.areOperands

/-- A reference is spelled by a name and what follows, and reaches from there to the last of
these tokens. -/
theorem IsOperand.exists_first {word : List Token} {operand : Operand} (h : IsOperand word operand)
    (href : operand.IsReference) :
    ∃ first others, word = first :: others ∧ first.kind = .identifier ∧
      operand.range = rangeFrom first.range word := by
  cases h with
  | @reference first word names hkind _ =>
    refine ⟨first, word, rfl, hkind, ?_⟩
    cases names <;> rfl
  | host | literal => exact href.elim
  | string =>
    unfold Interpolation.operandOf at href
    dsimp only at href
    split at href
    · split at href <;> exact href.elim
    · exact href.elim

end Sentence

/-! ## Ranges of references -/

/-- A token that is not the end has a range that is not empty. -/
theorem Source.start_lt_stop_of_tokens {source : Source} {tokens : List Token}
    (h : source.tokens = .ok tokens) {token : Token} (hmem : token ∈ tokens)
    (hkind : token.kind ≠ .eof) : token.range.start < token.range.stop := by
  obtain ⟨here, first, rest, lexeme, -, -, rfl⟩ :=
    (Lexer.gives_of_tokens h).exists_scan hmem hkind
  exact Nat.lt_add_of_pos_right (Scan.consumed_pos _)

namespace Source

variable {source : Source} {document : Document}

/-- The parts of every statement lie inside it, and it ends before the next ones begin. -/
theorem nested_of_parse (h : source.parse = .ok document) :
    (∀ statement ∈ document, statement.Nested) ∧
      document.Pairwise fun a b => a.range.stop ≤ b.range.start := by
  obtain ⟨tokens, htokens, -, word, finish, rfl, -, hword⟩ := spelled_of_parse h
  have horder : InOrder word := (List.pairwise_append.1 (inOrder_of_tokens htokens)).1
  obtain ⟨hnested, hframes⟩ := hword.nested horder
  exact ⟨hnested, List.pairwise_map.1 hframes.inOrder⟩

/-- The range of a reference is not empty and lies inside its statement. -/
theorem reference_within (h : source.parse = .ok document) {statement : Statement}
    (hstatement : statement ∈ document) {operand : Operand}
    (hoperand : operand ∈ statement.operands) (href : operand.IsReference) :
    operand.range.Within statement.range ∧ operand.range.start < operand.range.stop := by
  obtain ⟨tokens, htokens, -, word, finish, rfl, -, hword⟩ := spelled_of_parse h
  obtain ⟨before, word', behind, rfl, hspelled⟩ := hword.exists_word hstatement
  obtain ⟨spelling, hsub, his⟩ := hspelled.areOperands operand hoperand
  obtain ⟨first, others, rfl, hkind, hrange⟩ := his.exists_first href
  obtain ⟨first', others', rfl, hwhole⟩ := hspelled.range_eq
  have hall : InOrder (before ++ (first' :: others' ++ behind)) :=
    (List.pairwise_append.1 (inOrder_of_tokens htokens)).1
  have horder : InOrder (first' :: others') := hall.sublist
    ((List.sublist_append_left _ behind).trans (List.sublist_append_right before _))
  have hframes := Sentence.Frames.whole (horder.sublist hsub)
  rw [hwhole, hrange]
  refine ⟨((hframes.mono hsub.subset).holds horder).within _ List.mem_cons_self, ?_⟩
  have hmem : first ∈ before ++ (first' :: others' ++ behind) ++ [finish] :=
    List.mem_append_left _ (List.mem_append_right _ (List.mem_append_left _
      (hsub.subset List.mem_cons_self)))
  have hfirst : first.range.start < first.range.stop :=
    start_lt_stop_of_tokens htokens hmem (by rw [hkind]; exact nofun)
  obtain ⟨last, -, hstart, hstop, hbounds⟩ :=
    Sentence.rangeFrom_of_inOrder (horder.sublist hsub)
  have hlast := (hbounds first List.mem_cons_self).2
  omega

/-- A range that is not empty does not lie inside two statements. -/
theorem eq_of_within (h : source.parse = .ok document) {a b : Statement} (ha : a ∈ document)
    (hb : b ∈ document) {range : TextRange} (hrange : range.start < range.stop)
    (hwithin : range.Within a.range) (hwithin' : range.Within b.range) : a = b := by
  by_contra hne
  let apart (a b : Statement) : Prop :=
    a.range.stop ≤ b.range.start ∨ b.range.stop ≤ a.range.start
  have hsymm : Std.Symm apart := ⟨fun _ _ => Or.symm⟩
  have hapart : document.Pairwise apart := (nested_of_parse h).2.imp .inl
  have hab : apart a b := hapart.forall ha hb hne
  simp only [apart] at hab
  obtain ⟨hstart, hstop⟩ := hwithin
  obtain ⟨hstart', hstop'⟩ := hwithin'
  omega

end Source

end Rune
