import Rune.Proofs.Tree.Sentences

/-!
# Rune - ranges of a tree

Every node of a tree has a range.  The ranges of its parts lie inside it, one behind the
other; only the references of a string share the range of the string.  This follows from
the rules of the grammar alone, for tokens that lie one behind the other: each part is
spelled by tokens of its own.

Main results:

- Structure {lit}`TextRange.Holds` says that ranges lie inside a range, in their order.
- Relations {lit}`ValueExpr.Nested`, {lit}`Member.Nested` and {lit}`Statement.Nested` say it
  of the parts of every node of a tree, and {lit}`Document.Nested` of a whole document.
- Structure {lit}`Sentence.Frames` is the invariant: ranges lie between tokens of a word.
- Theorem {lit}`Sentence.AreStatements.nested`: what tokens in order spell is nested.
-/

namespace Rune

/-! ## Nested ranges -/

/-- A range lies inside another one. -/
structure TextRange.Within (inner outer : TextRange) : Prop where
  start_le : outer.start ≤ inner.start
  stop_le : inner.stop ≤ outer.stop

/-- Ranges lie inside a range, and each of them ends before the next ones begin. -/
structure TextRange.Holds (outer : TextRange) (parts : List TextRange) : Prop where
  within : ∀ part ∈ parts, part.Within outer
  inOrder : parts.Pairwise fun a b => a.stop ≤ b.start

/-- The references inside a string share its range.  Other operands have no parts. -/
def Operand.Nested : Operand → Prop
  | .interpolated pieces range => ∀ ref, .ref ref ∈ pieces → ref.range = range
  | _ => True

/-- The operands of a condition lie inside it. -/
def Condition.Nested : Condition → Prop
  | .equality left right range =>
    left.Nested ∧ right.Nested ∧ range.Holds [left.range, right.range]
  | .presence operand range => operand.Nested ∧ range.Holds [operand.range]

/-- The items of an array lie inside it, and so do the condition and the two values of a
choice. -/
inductive ValueExpr.Nested : ValueExpr → Prop
  | operand {operand : Operand} (hoperand : operand.Nested) : Nested (.operand operand)
  | rawString (pattern : String) (range : TextRange) : Nested (.rawString pattern range)
  | array {items : List ValueExpr} {range : TextRange} (hitems : ∀ item ∈ items, Nested item)
      (hrange : range.Holds (items.map ValueExpr.range)) : Nested (.array items range)
  | conditional {condition : Condition} {thenValue : ValueExpr} {elseValue : Option ValueExpr}
      {range : TextRange} (hcondition : condition.Nested) (hthen : Nested thenValue)
      (helse : ∀ value ∈ elseValue, Nested value)
      (hrange : range.Holds
        (condition.range :: thenValue.range :: elseValue.toList.map ValueExpr.range)) :
    Nested (.conditional condition thenValue elseValue range)

/-- The range of a member of a block. -/
def Member.range : Member → TextRange
  | .field _ _ range | .block _ _ range | .conditional _ _ _ range => range

/-- The value of a field lies inside it, the members of a block inside the block, and the
condition of a choice with the members of both branches inside the choice. -/
inductive Member.Nested : Member → Prop
  | field {value : ValueExpr} {range : TextRange} (name : String) (hvalue : value.Nested)
      (hrange : range.Holds [value.range]) : Nested (.field name value range)
  | block {children : List Member} {range : TextRange} (name : String)
      (hchildren : ∀ child ∈ children, Nested child)
      (hrange : range.Holds (children.map Member.range)) : Nested (.block name children range)
  | conditional {condition : Condition} {children elseChildren : List Member}
      {range : TextRange} (hcondition : condition.Nested)
      (hchildren : ∀ child ∈ children, Nested child)
      (helse : ∀ child ∈ elseChildren, Nested child)
      (hrange : range.Holds
        (condition.range :: (children.map Member.range ++ elseChildren.map Member.range))) :
    Nested (.conditional condition children elseChildren range)

namespace Statement

/-- The range of a statement. -/
def range : Statement → TextRange
  | .global _ _ range | .metadata _ _ range | .block _ _ range => range
  | .gather g => g.range

/-- The value or the members of a statement lie inside it. -/
def Nested : Statement → Prop
  | .global _ value range | .metadata _ value range => value.Nested ∧ range.Holds [value.range]
  | .block _ children range =>
    (∀ child ∈ children, child.Nested) ∧ range.Holds (children.map Member.range)
  | .gather _ => True

end Statement

/-- The statements of a document lie inside a range, and the parts of each node inside the
node. -/
structure Document.Nested (outer : TextRange) (document : Document) : Prop where
  statements : ∀ statement ∈ document, statement.Nested
  range : outer.Holds (document.map Statement.range)

/-! ## Ranges among tokens -/

/-- Tokens lie one behind the other. -/
abbrev InOrder (word : List Token) : Prop :=
  word.Pairwise fun a b => a.range.stop ≤ b.range.start

namespace Sentence

/-- Ranges lie among the tokens of a word: each of them between two tokens, and each ends
before the next ones begin. -/
structure Frames (word : List Token) (ranges : List TextRange) : Prop where
  between : ∀ range ∈ ranges, ∃ a ∈ word, ∃ b ∈ word,
    a.range.start ≤ range.start ∧ range.stop ≤ b.range.stop
  inOrder : ranges.Pairwise fun a b => a.stop ≤ b.start

namespace Frames

variable {word word' : List Token} {ranges ranges' : List TextRange}

/-- The range of a token lies among the tokens. -/
theorem token {token : Token} (h : token ∈ word) : Frames word [token.range] where
  between range hrange := by
    rw [List.mem_singleton.mp hrange]
    exact ⟨token, h, token, h, Nat.le_refl _, Nat.le_refl _⟩
  inOrder := List.pairwise_singleton _ _

/-- Among more tokens ranges lie as before. -/
theorem mono (h : Frames word ranges) (hsub : word ⊆ word') : Frames word' ranges where
  between range hrange := by
    obtain ⟨a, ha, b, hb, hstart, hstop⟩ := h.between range hrange
    exact ⟨a, hsub ha, b, hsub hb, hstart, hstop⟩
  inOrder := h.inOrder

/-- Ranges among some tokens, and then ranges among the tokens behind these. -/
theorem append (h : Frames word ranges) (h' : Frames word' ranges')
    (horder : InOrder (word ++ word')) : Frames (word ++ word') (ranges ++ ranges') where
  between range hrange := by
    rcases List.mem_append.mp hrange with hrange | hrange
    · exact (h.mono (List.subset_append_left word word')).between range hrange
    · exact (h'.mono (List.subset_append_right word word')).between range hrange
  inOrder := by
    refine List.pairwise_append.mpr ⟨h.inOrder, h'.inOrder, fun range hrange range' hrange' => ?_⟩
    obtain ⟨_, _, b, hb, _, hstop⟩ := h.between range hrange
    obtain ⟨a, ha, _, _, hstart, _⟩ := h'.between range' hrange'
    have hbefore : b.range.stop ≤ a.range.start :=
      (List.pairwise_append.mp horder).2.2 b hb a ha
    omega

end Frames

/-- From the start of the first token to the end of the last one. -/
theorem rangeFrom_of_inOrder {first : Token} {word : List Token} (h : InOrder (first :: word)) :
    ∃ last, (first :: word).getLast? = some last ∧
      (rangeFrom first.range (first :: word)).start = first.range.start ∧
      (rangeFrom first.range (first :: word)).stop = last.range.stop ∧
      ∀ token ∈ first :: word,
        first.range.start ≤ token.range.start ∧ token.range.stop ≤ last.range.stop := by
  obtain ⟨last, hlast⟩ : ∃ last, (first :: word).getLast? = some last :=
    ⟨_, List.getLast?_eq_some_getLast (List.cons_ne_nil first word)⟩
  have hbounds : ∀ token ∈ first :: word,
      first.range.start ≤ token.range.start ∧ token.range.stop ≤ last.range.stop := by
    intro token htoken
    constructor
    · rcases List.mem_cons.mp htoken with rfl | hmem
      · exact Nat.le_refl _
      · have hbehind : first.range.stop ≤ token.range.start :=
          (List.pairwise_cons.mp h).1 token hmem
        exact Nat.le_trans first.range.start_le_stop hbehind
    · obtain ⟨initial, hinitial⟩ := List.getLast?_eq_some_iff.mp hlast
      rw [hinitial] at htoken h
      rcases List.mem_append.mp htoken with hmem | hmem
      · have hbefore : token.range.stop ≤ last.range.start :=
          (List.pairwise_append.mp h).2.2 token hmem last List.mem_cons_self
        exact Nat.le_trans hbefore last.range.start_le_stop
      · obtain rfl := List.mem_singleton.mp hmem
        exact Nat.le_refl _
  have hfirst := hbounds first List.mem_cons_self
  have hend := hbounds last (List.mem_of_getLast? hlast)
  have hrange : rangeFrom first.range (first :: word) = first.range.cover last.range := by
    rw [rangeFrom, hlast]
  refine ⟨last, hlast, ?_, ?_, hbounds⟩
  · rw [hrange]
    exact Nat.min_eq_left hend.1
  · rw [hrange]
    exact Nat.max_eq_right hfirst.2

namespace Frames

variable {first : Token} {word : List Token} {ranges : List TextRange}

/-- The range from the first token to the last one lies among the tokens. -/
theorem whole (h : InOrder (first :: word)) :
    Frames (first :: word) [rangeFrom first.range (first :: word)] where
  between range hrange := by
    obtain ⟨last, hlast, hstart, hstop, _⟩ := rangeFrom_of_inOrder h
    rw [List.mem_singleton.mp hrange]
    exact ⟨first, List.mem_cons_self, last, List.mem_of_getLast? hlast, Nat.le_of_eq hstart.symm,
      Nat.le_of_eq hstop⟩
  inOrder := List.pairwise_singleton _ _

/-- Ranges among tokens lie inside the range from the first token to the last one. -/
theorem holds (h : Frames (first :: word) ranges) (horder : InOrder (first :: word)) :
    (rangeFrom first.range (first :: word)).Holds ranges where
  within range hrange := by
    obtain ⟨last, _, hstart, hstop, hbounds⟩ := rangeFrom_of_inOrder horder
    obtain ⟨a, ha, b, hb, hrangeStart, hrangeStop⟩ := h.between range hrange
    constructor
    · rw [hstart]
      exact Nat.le_trans (hbounds a ha).1 hrangeStart
    · rw [hstop]
      exact Nat.le_trans hrangeStop (hbounds b hb).2
  inOrder := h.inOrder

end Frames

/-! ## Operands and conditions -/

section

variable {word : List Token}

/-- The references that a string is split into share its range. -/
theorem pieces_nested {range : TextRange} (chars : List Char) (cursor : Nat) (dollars : List Nat)
    (ref : HostRef) (href : .ref ref ∈ (Interpolation.pieces range chars cursor dollars).1) :
    ref.range = range := by
  have htext (chars : List Char) : Piece.ref ref ∉ Interpolation.textPiece chars := by
    unfold Interpolation.textPiece
    split <;> simp
  have hat {chars : List Char} {found : HostRef} {taken : Nat}
      (h : Interpolation.referenceAt? range chars = some (found, taken)) :
      found.range = range := by
    unfold Interpolation.referenceAt? at h
    dsimp only at h
    split at h
    · cases h
      rfl
    · obtain ⟨⟨name, _⟩, _, hfound⟩ := Option.map_eq_some_iff.mp h
      cases hfound
      rfl
  fun_induction Interpolation.pieces range chars cursor dollars with
  | case1 cursor => exact absurd href (htext _)
  | case2 cursor offset dollars hlt ih => exact ih href
  | case3 cursor offset dollars hlt hnone ih => exact ih href
  | case4 cursor offset dollars hlt found taken hsome before after flag hrest ih =>
    rcases List.mem_append.mp href with hbefore | hbehind
    · exact absurd hbefore (htext _)
    · rcases List.mem_cons.mp hbehind with heq | hafter
      · cases heq
        exact hat hsome
      · exact ih (by rw [hrest]; exact hafter)

/-- An operand is nested and lies among its tokens. -/
theorem IsOperand.nested {operand : Operand} (h : IsOperand word operand)
    (horder : InOrder word) : operand.Nested ∧ Frames word [operand.range] := by
  cases h with
  | @reference first word names _ _ =>
    refine ⟨?_, ?_⟩
    · cases names <;> exact trivial
    · have hrange : (referenceTo first.text names (rangeFrom first.range (first :: word))).range =
          rangeFrom first.range (first :: word) := by
        cases names <;> rfl
      rw [hrange]
      exact .whole horder
  | @host marker dot name _ _ _ =>
    refine ⟨trivial, ?_⟩
    have hrange : (Operand.host (hostRefTo marker.kind name.text
        (rangeFrom marker.range [marker, dot, name]))).range =
          rangeFrom marker.range [marker, dot, name] := by
      unfold hostRefTo
      split <;> rfl
    rw [hrange]
    exact .whole horder
  | @string token _ =>
    have hrange : (Interpolation.operandOf token).range = token.range := by
      unfold Interpolation.operandOf
      dsimp only
      split
      · split <;> rfl
      · rfl
    refine ⟨?_, hrange ▸ .token List.mem_cons_self⟩
    unfold Interpolation.operandOf
    dsimp only
    split
    · split
      · exact pieces_nested _ _ _
      · exact trivial
    · exact trivial
  | literal _ => exact ⟨trivial, .token List.mem_cons_self⟩

/-- A comparison that begins with its first token, or with one before it, is nested and lies
among its tokens. -/
theorem IsComparison.nested {first : Token} {others : List Token} {condition : Condition}
    (h : IsComparison first.range word condition) (hword : word <:+ first :: others)
    (hothers : (first :: others).getLast? = word.getLast?) (horder : InOrder (first :: others)) :
    condition.Nested ∧ Frames (first :: others) [condition.range] := by
  have hsub : word ⊆ first :: others := hword.subset
  have hwordOrder : InOrder word := horder.sublist hword.sublist
  have hrange : rangeFrom first.range word = rangeFrom first.range (first :: others) := by
    unfold rangeFrom
    rw [hothers]
  cases h with
  | presence hoperand =>
    obtain ⟨hnested, hframes⟩ := hoperand.nested hwordOrder
    rw [hrange]
    exact ⟨⟨hnested, (hframes.mono hsub).holds horder⟩, .whole horder⟩
  | @equality left right _ _ equal hleft _ hright =>
    obtain ⟨hleftOrder, hrightOrder, _⟩ := List.pairwise_append.mp hwordOrder
    obtain ⟨hleftNested, hleftFrames⟩ := hleft.nested hleftOrder
    obtain ⟨hrightNested, hrightFrames⟩ := hright.nested (List.pairwise_cons.mp hrightOrder).2
    have hboth := hleftFrames.append (hrightFrames.mono (List.subset_cons_self equal right))
      hwordOrder
    rw [hrange]
    exact ⟨⟨hleftNested, hrightNested, (hboth.mono hsub).holds horder⟩, .whole horder⟩

/-- A condition is nested and lies among its tokens. -/
theorem IsCondition.nested {condition : Condition} (h : IsCondition word condition)
    (horder : InOrder word) : condition.Nested ∧ Frames word [condition.range] := by
  cases h with
  | bare _ hcomparison => exact hcomparison.nested List.suffix_rfl rfl horder
  | @parenthesized opening closing word _ _ hcomparison _ =>
    -- the closing parenthesis is no part of the condition
    have hinner : InOrder (opening :: word) := by
      rw [← List.cons_append] at horder
      exact (List.pairwise_append.mp horder).1
    obtain ⟨first, rest, hword, _⟩ := hcomparison.starts
    have hlast : (opening :: word).getLast? = word.getLast? := by
      rw [hword, List.getLast?_cons_cons]
    obtain ⟨hnested, hframes⟩ :=
      hcomparison.nested (List.suffix_cons opening word) hlast hinner
    rw [← List.cons_append]
    exact ⟨hnested, hframes.mono (List.subset_append_left _ _)⟩

end

/-! ## Values -/

mutual

/-- A value is nested and lies among its tokens. -/
theorem IsValue.nested {word : List Token} {value : ValueExpr} (h : IsValue word value)
    (horder : InOrder word) : value.Nested ∧ Frames word [value.range] := by
  match h with
  | .operand hoperand =>
    obtain ⟨hnested, hframes⟩ := hoperand.nested horder
    exact ⟨.operand hnested, hframes⟩
  | .rawString _ => exact ⟨.rawString _ _, .token List.mem_cons_self⟩
  | @IsValue.array opening closing word items _ hitems _ =>
    obtain ⟨hitemsOrder, _, _⟩ := List.pairwise_append.mp (List.pairwise_cons.mp horder).2
    obtain ⟨hnested, hframes⟩ := hitems.nested hitemsOrder
    have hinside : word ⊆ opening :: (word ++ [closing]) :=
      List.subset_cons_of_subset _ (List.subset_append_left _ _)
    exact ⟨.array hnested ((hframes.mono hinside).holds horder), .whole horder⟩
  | @IsValue.choice keyword word word' condition thenValue _ hcondition hthen =>
    have hinner := (List.pairwise_cons.mp horder).2
    obtain ⟨hconditionOrder, hthenOrder, _⟩ := List.pairwise_append.mp hinner
    obtain ⟨hconditionNested, hconditionFrames⟩ := hcondition.nested hconditionOrder
    obtain ⟨hthenNested, hthenFrames⟩ := hthen.nested hthenOrder
    have hparts := (hconditionFrames.append hthenFrames hinner).mono
      (List.subset_cons_self keyword _)
    exact ⟨.conditional hconditionNested hthenNested nofun (hparts.holds horder), .whole horder⟩
  | @IsValue.choiceElse keyword elseWord word word' word'' condition thenValue elseValue _
      hcondition hthen _ _ helse =>
    have hinner := (List.pairwise_cons.mp horder).2
    obtain ⟨hconditionOrder, hvaluesOrder, _⟩ := List.pairwise_append.mp hinner
    obtain ⟨hthenOrder, helseOrder, _⟩ := List.pairwise_append.mp hvaluesOrder
    obtain ⟨hconditionNested, hconditionFrames⟩ := hcondition.nested hconditionOrder
    obtain ⟨hthenNested, hthenFrames⟩ := hthen.nested hthenOrder
    obtain ⟨helseNested, helseFrames⟩ := helse.nested (List.pairwise_cons.mp helseOrder).2
    have hvalues := hthenFrames.append (helseFrames.mono (List.subset_cons_self elseWord word''))
      hvaluesOrder
    have hparts := (hconditionFrames.append hvalues hinner).mono (List.subset_cons_self keyword _)
    refine ⟨.conditional hconditionNested hthenNested ?_ (hparts.holds horder), .whole horder⟩
    intro value hvalue
    rw [← Option.some.inj hvalue]
    exact helseNested

/-- Items are nested and lie among their tokens, one behind the other. -/
theorem AreItems.nested {word : List Token} {items : List ValueExpr} (h : AreItems word items)
    (horder : InOrder word) :
    (∀ item ∈ items, item.Nested) ∧ Frames word (items.map ValueExpr.range) := by
  match h with
  | .nil => exact ⟨nofun, ⟨nofun, .nil⟩⟩
  | .last hitem =>
    obtain ⟨hnested, hframes⟩ := hitem.nested horder
    exact ⟨List.forall_mem_singleton.mpr hnested, hframes⟩
  | @AreItems.comma comma word word' item items hitem _ hitems =>
    obtain ⟨hitemOrder, hitemsOrder, _⟩ := List.pairwise_append.mp horder
    obtain ⟨hnested, hframes⟩ := hitem.nested hitemOrder
    obtain ⟨hallNested, hallFrames⟩ := hitems.nested (List.pairwise_cons.mp hitemsOrder).2
    have hbehind := hallFrames.mono (List.subset_cons_self comma word')
    exact ⟨List.forall_mem_cons.mpr ⟨hnested, hallNested⟩, hframes.append hbehind horder⟩
  | @AreItems.lineBreak first word word' item items hitem _ hitems =>
    obtain ⟨hitemOrder, hitemsOrder, _⟩ := List.pairwise_append.mp horder
    obtain ⟨hnested, hframes⟩ := hitem.nested hitemOrder
    obtain ⟨hallNested, hallFrames⟩ := hitems.nested hitemsOrder
    exact ⟨List.forall_mem_cons.mpr ⟨hnested, hallNested⟩, hframes.append hallFrames horder⟩

end

/-! ## Bindings, members and statements -/

/-- A binding begins with its name and reaches to the end of its value, which is nested. -/
theorem IsBinding.nested {word : List Token} {name : String} {value : ValueExpr}
    {range : TextRange} (h : IsBinding word (name, value, range)) (horder : InOrder word) :
    value.Nested ∧ range.Holds [value.range] ∧ Frames word [range] := by
  cases h with
  | @plain name first word value _ _ hvalue =>
    obtain ⟨hnested, hframes⟩ := hvalue.nested (List.pairwise_cons.mp horder).2
    have hinside := hframes.mono (List.subset_cons_self name _)
    exact ⟨hnested, hinside.holds horder, .whole horder⟩
  | @assigned name equal first word value _ _ _ hvalue =>
    have hbehind := (List.pairwise_cons.mp horder).2
    obtain ⟨hnested, hframes⟩ := hvalue.nested (List.pairwise_cons.mp hbehind).2
    have hinside := hframes.mono
      (List.subset_cons_of_subset name (List.subset_cons_self equal _))
    exact ⟨hnested, hinside.holds horder, .whole horder⟩

mutual

/-- A member is nested and lies among its tokens. -/
theorem IsMember.nested {word : List Token} {child : Member} (h : IsMember word child)
    (horder : InOrder word) : child.Nested ∧ Frames word [child.range] := by
  match h with
  | .field hbinding =>
    obtain ⟨hnested, hholds, hframes⟩ := hbinding.nested horder
    exact ⟨.field _ hnested hholds, hframes⟩
  | .block hblock =>
    obtain ⟨hnested, hholds, hframes⟩ := hblock.nested horder
    exact ⟨.block _ hnested hholds, hframes⟩
  | @IsMember.choice keyword colon closing word word' condition children _ hcondition _
      hchildren _ =>
    have hinner := (List.pairwise_cons.mp horder).2
    obtain ⟨hconditionOrder, hrestOrder, _⟩ := List.pairwise_append.mp hinner
    obtain ⟨hchildrenOrder, _, _⟩ :=
      List.pairwise_append.mp (List.pairwise_cons.mp hrestOrder).2
    obtain ⟨hconditionNested, hconditionFrames⟩ := hcondition.nested hconditionOrder
    obtain ⟨hnested, hframes⟩ := hchildren.nested hchildrenOrder
    have hbranch := hframes.mono
      (List.subset_cons_of_subset colon (List.subset_append_left word' [closing]))
    have hparts := (hconditionFrames.append hbranch hinner).mono
      (List.subset_cons_self keyword _)
    refine ⟨.conditional hconditionNested hnested nofun ?_, .whole horder⟩
    rw [List.map_nil, List.append_nil]
    exact hparts.holds horder
  | @IsMember.choiceElse keyword colon elseWord elseColon closing word word' word'' condition
      children elseChildren _ hcondition _ hchildren _ _ helse _ =>
    have hinner := (List.pairwise_cons.mp horder).2
    obtain ⟨hconditionOrder, hrestOrder, _⟩ := List.pairwise_append.mp hinner
    have hbranchesOrder := (List.pairwise_cons.mp hrestOrder).2
    obtain ⟨hchildrenOrder, hbehindOrder, _⟩ := List.pairwise_append.mp hbranchesOrder
    obtain ⟨helseOrder, _, _⟩ := List.pairwise_append.mp
      (List.pairwise_cons.mp (List.pairwise_cons.mp hbehindOrder).2).2
    obtain ⟨hconditionNested, hconditionFrames⟩ := hcondition.nested hconditionOrder
    obtain ⟨hnested, hframes⟩ := hchildren.nested hchildrenOrder
    obtain ⟨helseNested, helseFrames⟩ := helse.nested helseOrder
    have hsecond : Frames (elseWord :: elseColon :: (word'' ++ [closing]))
        (elseChildren.map Member.range) :=
      helseFrames.mono (List.subset_cons_of_subset elseWord
        (List.subset_cons_of_subset elseColon (List.subset_append_left word'' [closing])))
    have hbranches := (hframes.append hsecond hbranchesOrder).mono
      (List.subset_cons_self colon _)
    have hparts := (hconditionFrames.append hbranches hinner).mono
      (List.subset_cons_self keyword _)
    exact ⟨.conditional hconditionNested hnested helseNested (hparts.holds horder),
      .whole horder⟩

/-- Members are nested and lie among their tokens, one behind the other. -/
theorem AreMembers.nested {word : List Token} {children : List Member}
    (h : AreMembers word children) (horder : InOrder word) :
    (∀ child ∈ children, child.Nested) ∧ Frames word (children.map Member.range) := by
  match h with
  | .nil => exact ⟨nofun, ⟨nofun, .nil⟩⟩
  | .cons hchild hchildren =>
    obtain ⟨hchildOrder, hchildrenOrder, _⟩ := List.pairwise_append.mp horder
    obtain ⟨hnested, hframes⟩ := hchild.nested hchildOrder
    obtain ⟨hallNested, hallFrames⟩ := hchildren.nested hchildrenOrder
    exact ⟨List.forall_mem_cons.mpr ⟨hnested, hallNested⟩, hframes.append hallFrames horder⟩

/-- The members of a block lie between its name and its end. -/
theorem IsBlock.nested {word : List Token} {name : String} {children : List Member}
    {range : TextRange} (h : IsBlock word (name, children, range)) (horder : InOrder word) :
    (∀ child ∈ children, child.Nested) ∧ range.Holds (children.map Member.range) ∧
      Frames word [range] := by
  match h with
  | @IsBlock.mk name colon closing word children _ _ hchildren _ =>
    have hbehind := (List.pairwise_cons.mp (List.pairwise_cons.mp horder).2).2
    obtain ⟨hchildrenOrder, _, _⟩ := List.pairwise_append.mp hbehind
    obtain ⟨hnested, hframes⟩ := hchildren.nested hchildrenOrder
    have hinside := hframes.mono (List.subset_cons_of_subset name
      (List.subset_cons_of_subset colon (List.subset_append_left word [closing])))
    exact ⟨hnested, hinside.holds horder, .whole horder⟩

end

/-- A statement is nested and lies among its tokens. -/
theorem IsStatement.nested {word : List Token} {statement : Statement}
    (h : IsStatement word statement) (horder : InOrder word) :
    statement.Nested ∧ Frames word [statement.range] := by
  cases h with
  | @metadata marker key first word value _ _ _ hvalue =>
    have hbehind := (List.pairwise_cons.mp horder).2
    obtain ⟨hnested, hframes⟩ := hvalue.nested (List.pairwise_cons.mp hbehind).2
    have hinside := hframes.mono
      (List.subset_cons_of_subset marker (List.subset_cons_self key _))
    exact ⟨⟨hnested, hinside.holds horder⟩, .whole horder⟩
  | gather _ _ => exact ⟨trivial, .whole horder⟩
  | gatherAs _ _ _ _ => exact ⟨trivial, .whole horder⟩
  | block hblock =>
    obtain ⟨hnested, hholds, hframes⟩ := hblock.nested horder
    exact ⟨⟨hnested, hholds⟩, hframes⟩
  | global hbinding =>
    obtain ⟨hnested, hholds, hframes⟩ := hbinding.nested horder
    exact ⟨⟨hnested, hholds⟩, hframes⟩

/-- Statements are nested and lie among their tokens, one behind the other. -/
theorem AreStatements.nested {word : List Token} {document : Document}
    (h : AreStatements word document) (horder : InOrder word) :
    (∀ statement ∈ document, statement.Nested) ∧
      Frames word (document.map Statement.range) := by
  induction h with
  | nil => exact ⟨nofun, ⟨nofun, .nil⟩⟩
  | cons hstatement _ ih =>
    obtain ⟨hstatementOrder, hdocumentOrder, _⟩ := List.pairwise_append.mp horder
    obtain ⟨hnested, hframes⟩ := hstatement.nested hstatementOrder
    obtain ⟨hallNested, hallFrames⟩ := ih hdocumentOrder
    exact ⟨List.forall_mem_cons.mpr ⟨hnested, hallNested⟩, hframes.append hallFrames horder⟩

/-- A statement reaches from its first token to its last one. -/
theorem IsStatement.range_eq {word : List Token} {statement : Statement}
    (h : IsStatement word statement) :
    ∃ first others, word = first :: others ∧ statement.range = rangeFrom first.range word := by
  cases h with
  | metadata _ _ _ _ => exact ⟨_, _, rfl, rfl⟩
  | gather _ _ => exact ⟨_, _, rfl, rfl⟩
  | gatherAs _ _ _ _ => exact ⟨_, _, rfl, rfl⟩
  | block hblock =>
    cases hblock with
    | mk _ _ _ _ => exact ⟨_, _, rfl, rfl⟩
  | global hbinding =>
    cases hbinding with
    | plain _ _ _ => exact ⟨_, _, rfl, rfl⟩
    | assigned _ _ _ _ => exact ⟨_, _, rfl, rfl⟩

end Sentence

end Rune
