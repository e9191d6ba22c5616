import Rune.Proofs.Evaluation.Force
import Rune.Proofs.Tree.Nesting

/-!
# Rune - where faults stand

A fault stands where the expression stands that it is about.  So while a reference to a binding
is followed, all faults lie inside the statements of bindings that are evaluated on the way;
none of these is one that was being evaluated before.

Main results:

- Definition {lit}`Evaluation.Raises`: only flaws with a property stop a computation.
- Theorems {lit}`Evaluation.value_raises` and {lit}`Evaluation.members_raises`: the faults of an
  expression and of members lie inside them.
- Theorem {lit}`Evaluation.forceWith_raises`: the faults of a reference to a binding lie inside
  statements whose bindings are not pending.
-/

namespace Rune

namespace TextRange.Within

variable {a b c : TextRange}

theorem trans (h : a.Within b) (h' : b.Within c) : a.Within c where
  start_le := Nat.le_trans h'.start_le h.start_le
  stop_le := Nat.le_trans h.stop_le h'.stop_le

end TextRange.Within

namespace Evaluation

/-- Only flaws with a property stop a computation. -/
def Raises (property : Flaw → Prop) {α : Type} (x : Eval α) : Prop :=
  ∀ memory flaw after, x memory = .error flaw after → property flaw

namespace Raises

variable {property : Flaw → Prop} {α β : Type}

theorem pure (a : α) : Raises property (pure a) := by
  intro memory flaw after h
  cases h

theorem bind {x : Eval α} {f : α → Eval β} (hx : Raises property x)
    (hf : ∀ a, Raises property (f a)) : Raises property (x >>= f) := by
  intro memory flaw after h
  simp only [Bind.bind, EStateM.bind] at h
  cases hrun : x memory with
  | ok a next =>
    rw [hrun] at h
    exact hf a next flaw after h
  | error other next =>
    rw [hrun] at h
    cases h
    exact hx memory _ _ hrun

theorem throw {flaw : Flaw} (h : property flaw) : Raises property (throw flaw : Eval α) := by
  intro memory other after hthrow
  cases hthrow
  exact h

theorem modify (f : Memory → Memory) : Raises property (modify f) := by
  intro memory flaw after h
  cases h

theorem record (scope : Scope) (space : Namespace) (path : List String) (range : TextRange) :
    Raises property (record scope space path range) := modify _

theorem ask (scope : Scope) (key : String) : Raises property (ask scope key) := by
  intro memory flaw after h
  cases h

theorem mono {weaker : Flaw → Prop} {x : Eval α} (h : Raises property x)
    (hweaker : ∀ flaw, property flaw → weaker flaw) : Raises weaker x :=
  fun memory flaw after hrun => hweaker flaw (h memory flaw after hrun)

end Raises

/-! ## Faults inside an expression -/

section

variable {scope : Scope} {effects : Effects Eval} {property : Flaw → Prop}

/-- Only such flaws stop several expressions if they alone stop each. -/
theorem values_raises (siblings : Siblings) {items : List ValueExpr}
    (hitems : ∀ item ∈ items, Raises property (value scope effects siblings item)) :
    Raises property (values scope effects siblings items) := by
  induction items with
  | nil =>
    simp only [values]
    exact .pure _
  | cons item items ih =>
    rw [List.forall_mem_cons] at hitems
    simp only [values]
    exact hitems.1.bind fun _ => (ih hitems.2).bind fun _ => .pure _

/-- Only such flaws stop several members if they alone stop each. -/
theorem members_raises (path : List String) (fields : Entries Value) {children : List Member}
    (hchildren : ∀ child ∈ children, ∀ fields,
      Raises property (member scope effects path fields child)) :
    Raises property (members scope effects path fields children) := by
  induction children generalizing fields with
  | nil =>
    simp only [members]
    exact .pure _
  | cons child children ih =>
    rw [List.forall_mem_cons] at hchildren
    simp only [members]
    exact (hchildren.1 fields).bind fun fields => ih fields hchildren.2

end

section

variable {scope : Scope} {property : Flaw → Prop} {force : Slot → TextRange → Eval Value}
  {outer : TextRange}
  (hforce : ∀ slot, scope.Binds slot → ∀ range, Raises property (force slot range))
  (hfault : ∀ fault range, range.Within outer → property (.fault fault range))
include hfault

theorem fact_raises (key : String) {range : TextRange} (hrange : range.Within outer) :
    Raises property (fact (effects scope force) key range) := by
  unfold fact
  cases SystemKey.ofName? key with
  | none => exact .throw (hfault _ _ hrange)
  | some known =>
    refine Raises.bind (.ask scope known.name) fun answer => ?_
    cases answer with
    | none => exact .throw (hfault _ _ hrange)
    | some text => exact .pure _

theorem hostValue_raises {ref : HostRef} (hrange : ref.range.Within outer) :
    Raises property (hostValue scope (effects scope force) ref) := by
  cases ref with
  | env => exact .pure _
  | sys key => exact (fact_raises hfault key hrange).bind fun _ => .pure _

theorem hostText_raises {ref : HostRef} (hrange : ref.range.Within outer) :
    Raises property (hostText scope (effects scope force) ref) := by
  cases ref with
  | env => exact .pure _
  | sys key => exact fact_raises hfault key hrange

theorem pieceTexts_raises {pieces : List Piece}
    (hpieces : ∀ ref, .ref ref ∈ pieces → ref.range.Within outer) :
    Raises property (pieceTexts scope (effects scope force) pieces) := by
  induction pieces with
  | nil => exact .pure _
  | cons piece pieces ih =>
    have hrest := ih fun ref href => hpieces ref (List.mem_cons_of_mem _ href)
    cases piece with
    | text part => exact hrest.bind fun _ => .pure _
    | ref ref =>
      exact (hostText_raises hfault (hpieces ref List.mem_cons_self)).bind fun _ =>
        hrest.bind fun _ => .pure _

theorem compile_raises (source : String) {range : TextRange} (hrange : range.Within outer) :
    Raises property (compile source range) := by
  intro memory flaw after h
  unfold compile at h
  split at h
  · cases h
  · cases h
    exact hfault _ _ hrange

include hforce

theorem nameValue_raises (siblings : Siblings) (name : String) {range : TextRange}
    (hrange : range.Within outer) :
    Raises property (nameValue scope (effects scope force) siblings name range) := by
  unfold nameValue
  dsimp only
  cases sibling? siblings (Key.canonical name) with
  | some value => exact .pure _
  | none =>
    cases hslot : scope.slot? (Key.canonical name) with
    | some slot => exact hforce slot (Scope.binds_of_slot? hslot) range
    | none =>
      cases scope.included? (Key.canonical name) with
      | some value => exact .pure _
      | none => exact .throw (hfault _ _ hrange)

theorem pathValue_raises (siblings : Siblings) (head next : String) (rest : List String)
    {range : TextRange} (hrange : range.Within outer) :
    Raises property (pathValue scope (effects scope force) siblings head next rest range) := by
  unfold pathValue
  dsimp only
  cases Entries.get? (Key.canonical head) scope.aliases with
  | some config =>
    dsimp only
    cases config.member? next <;> exact .pure _
  | none =>
    dsimp only
    split
    · exact (nameValue_raises hforce hfault siblings head hrange).bind fun _ => .pure _
    · exact .pure _

theorem operandValue_raises (siblings : Siblings) {operand : Operand} (hnested : operand.Nested)
    (hrange : operand.range.Within outer) :
    Raises property (operandValue scope (effects scope force) siblings operand) := by
  cases operand with
  | literal => exact .pure _
  | interpolated pieces range =>
    refine Raises.bind (pieceTexts_raises hfault fun ref href => ?_) fun _ => .pure _
    rw [hnested ref href]
    exact hrange
  | name name => exact nameValue_raises hforce hfault siblings name hrange
  | path head next rest =>
    refine (pathValue_raises hforce hfault siblings head next rest hrange).bind fun led => ?_
    cases led with
    | ok value => exact .pure _
    | error fault => exact .throw (hfault _ _ hrange)
  | host ref => exact hostValue_raises hfault hrange

theorem probe_raises (siblings : Siblings) {operand : Operand} (hnested : operand.Nested)
    (hrange : operand.range.Within outer) :
    Raises property (probe scope (effects scope force) siblings operand) := by
  cases operand with
  | name name =>
    simp only [probe]
    split
    · exact (nameValue_raises hforce hfault siblings name hrange).bind fun _ => .pure _
    · exact .pure _
  | path head next rest =>
    refine (pathValue_raises hforce hfault siblings head next rest hrange).bind fun led => ?_
    cases led <;> exact .pure _
  | literal | interpolated | host =>
    exact (operandValue_raises hforce hfault siblings hnested hrange).bind fun _ => .pure _

theorem holds_raises (siblings : Siblings) {condition : Condition} (hnested : condition.Nested)
    (hrange : condition.range.Within outer) :
    Raises property (holds scope (effects scope force) siblings condition) := by
  cases condition with
  | presence operand =>
    have hoperand := (hnested.2.within _ List.mem_cons_self).trans hrange
    refine (probe_raises hforce hfault siblings hnested.1 hoperand).bind fun found => ?_
    cases found <;> exact .pure _
  | equality left right =>
    obtain ⟨hleft, hright, hparts⟩ := hnested
    have hleftRange := (hparts.within _ List.mem_cons_self).trans hrange
    have hrightRange := (hparts.within _ (List.mem_cons_of_mem _ List.mem_cons_self)).trans hrange
    refine (operandValue_raises hforce hfault siblings hleft hleftRange).bind fun a =>
      (operandValue_raises hforce hfault siblings hright hrightRange).bind fun b => ?_
    split
    · exact .pure _
    · cases a.comparison b with
      | some result => exact .pure _
      | none => exact .throw (hfault _ _ hrange)

/-- The faults of an expression lie inside it. -/
theorem value_raises (siblings : Siblings) {expr : ValueExpr} (hnested : expr.Nested)
    (hrange : expr.range.Within outer) :
    Raises property (value scope (effects scope force) siblings expr) := by
  induction hnested with
  | operand hoperand =>
    simp only [value]
    exact operandValue_raises hforce hfault siblings hoperand hrange
  | rawString pattern range =>
    simp only [value]
    exact compile_raises hfault pattern hrange
  | array _ hparts ih =>
    simp only [value]
    refine (values_raises siblings fun item hitem => ih item hitem ?_).bind
      fun _ => .pure _
    exact (hparts.within _ (List.mem_map_of_mem hitem)).trans hrange
  | @conditional condition thenValue elseValue range hcondition _ _ hparts ihthen ihelse =>
    obtain ⟨hconditionRange, hthenRange, helseRange⟩ := by
      simpa only [List.forall_mem_cons] using hparts.within
    simp only [value]
    refine (holds_raises hforce hfault siblings hcondition
      (hconditionRange.trans hrange)).bind fun chosen => ?_
    cases chosen with
    | true => exact ihthen (hthenRange.trans hrange)
    | false =>
      cases elseValue with
      | none =>
        simp only [valueOrNull]
        exact .pure _
      | some expr =>
        simp only [valueOrNull]
        exact ihelse expr rfl ((helseRange _ List.mem_cons_self).trans hrange)

/-- The faults of a member lie inside it. -/
theorem member_raises (path : List String) (fields : Entries Value) {child : Member}
    (hnested : child.Nested) (hrange : child.range.Within outer) :
    Raises property (member scope (effects scope force) path fields child) := by
  induction hnested generalizing path fields with
  | field name hvalue hparts =>
    simp only [member]
    have hinside := (hparts.within _ List.mem_cons_self).trans hrange
    exact (value_raises hforce hfault (some fields) hvalue hinside).bind fun _ =>
      (Raises.record scope _ _ _).bind fun _ => .pure _
  | block name _ hparts ih =>
    simp only [member]
    refine (Raises.record scope _ _ _).bind fun _ =>
      (members_raises _ [] fun child hchild fields => ?_).bind fun _ => .pure _
    exact ih child hchild _ fields
      ((hparts.within _ (List.mem_map_of_mem hchild)).trans hrange)
  | conditional hcondition _ _ hparts ih ihelse =>
    simp only [member]
    have hinside := hparts.within _ List.mem_cons_self
    refine (holds_raises hforce hfault (some fields) hcondition
      (hinside.trans hrange)).bind fun chosen => ?_
    cases chosen with
    | true =>
      refine members_raises path fields fun child hchild fields => ih child hchild path fields ?_
      exact (hparts.within _ (by simp [List.mem_map_of_mem hchild])).trans hrange
    | false =>
      refine members_raises path fields fun child hchild fields =>
        ihelse child hchild path fields ?_
      exact (hparts.within _ (by simp [List.mem_map_of_mem hchild])).trans hrange

end

end Evaluation

/-! ## Faults inside statements -/

/-- The range of the statement with the binding in a slot. -/
def Scope.range? (scope : Scope) : Slot → Option TextRange
  | .global name => (Entries.get? name scope.globals).map (·.2)
  | .item name => (Entries.get? name scope.items).map (·.2)

/-- The bindings of a document lie inside their statements, and the parts of each node inside
the node. -/
structure Scope.Nested (scope : Scope) : Prop where
  globals : ∀ name bound, Entries.get? name scope.globals = some bound →
    bound.1.Nested ∧ bound.1.range.Within bound.2
  items : ∀ name bound, Entries.get? name scope.items = some bound →
    ∀ child ∈ bound.1, child.Nested ∧ child.range.Within bound.2

/-- If a flaw is a fault, it lies inside a statement whose binding is not pending. -/
def Flaw.Beyond (scope : Scope) (pending : List Slot) : Flaw → Prop
  | .fault _ range => ∃ slot outer, slot ∉ pending ∧ scope.range? slot = some outer ∧
      range.Within outer
  | .cycle _ _ => True

/-- What is not pending is not among fewer bindings. -/
theorem Flaw.Beyond.of_append {scope : Scope} {pending more : List Slot} {flaw : Flaw}
    (h : flaw.Beyond scope (pending ++ more)) : flaw.Beyond scope pending := by
  cases flaw with
  | cycle => trivial
  | fault fault range =>
    obtain ⟨slot, outer, hslot, hinside⟩ := h
    exact ⟨slot, outer, fun hmem => hslot (List.mem_append_left more hmem), hinside⟩

namespace Evaluation

variable {scope : Scope} (hscope : scope.Nested)
include hscope

/-- The faults of a binding that is not pending lie inside its statement, if those of references
in it lie inside statements. -/
theorem bindingValue_raises {pending : List Slot} {slot : Slot} (hslot : scope.Binds slot)
    (hnew : slot ∉ pending) {force : Slot → TextRange → Eval Value}
    (hforce : ∀ other, scope.Binds other → ∀ range,
      Raises (Flaw.Beyond scope pending) (force other range)) :
    Raises (Flaw.Beyond scope pending) (bindingValue scope (effects scope force) slot) := by
  cases slot with
  | global name =>
    obtain ⟨bound, hbound⟩ := Option.isSome_iff_exists.1 hslot
    obtain ⟨hnested, hinside⟩ := hscope.globals name bound hbound
    simp only [bindingValue, hbound]
    exact value_raises hforce (fun fault range hrange =>
      ⟨.global name, bound.2, hnew, by simp [Scope.range?, hbound], hrange⟩) none hnested hinside
  | item name =>
    obtain ⟨bound, hbound⟩ := Option.isSome_iff_exists.1 hslot
    simp only [bindingValue, hbound]
    refine (members_raises [name] [] fun child hchild fields => ?_).bind fun _ => .pure _
    obtain ⟨hnested, hinside⟩ := hscope.items name bound hbound child hchild
    exact member_raises hforce (fun fault range hrange =>
      ⟨.item name, bound.2, hnew, by simp [Scope.range?, hbound], hrange⟩) [name] fields hnested
      hinside

/-- The faults of a reference to a binding lie inside statements whose bindings are not
pending: a binding that is pending is not evaluated again.  The induction is on the fuel. -/
theorem forceWith_raises (fuel : Nat) (pending : List Slot) {slot : Slot}
    (hslot : scope.Binds slot) (range : TextRange) :
    Raises (Flaw.Beyond scope pending) (forceWith scope fuel pending slot range) := by
  induction fuel generalizing pending slot range with
  | zero => exact .throw trivial
  | succ fuel ih =>
    intro memory flaw after h
    cases hvalue : memory.value? slot with
    | some known =>
      rw [forceWith_known hvalue] at h
      cases h
    | none =>
      by_cases hpending : slot ∈ pending
      · rw [forceWith_pending hvalue hpending] at h
        cases h
        trivial
      · rw [forceWith_anew hvalue hpending] at h
        have hbody := bindingValue_raises hscope hslot hpending fun other hother range =>
          (ih (pending ++ [slot]) hother range).mono fun _ => Flaw.Beyond.of_append
        have hanew : Raises (Flaw.Beyond scope pending) (evaluateSlot scope fuel pending slot) :=
          hbody.bind fun _ => (Raises.modify _).bind fun _ => .pure _
        exact hanew _ _ _ h

end Evaluation

end Rune
