import Rune.Evaluation.Basic
import Rune.Proofs.Entries
import Rune.Proofs.Tree.Mentions

/-!
# Rune - evaluation depends on what is mentioned

Evaluation is the same whatever its effects do, and it looks at no more of a document than
what is mentioned.  So take two scopes in which the names that are mentioned stand for the
same things.  A relation between computations of two kinds that respects values without
computation, sequences, the effects, and references to what is mentioned holds between
the evaluations of every expression and every member.  The second computation may depend
on an index, such as a depth.

Main results:

- Structures {lit}`Respects` and {lit}`Congruent` list what a relation has to respect.
- Theorems {lit}`Congruent.value` and {lit}`Congruent.members`: then it holds between
  evaluations.
- Theorem {lit}`Scope.mentionsOnly_ofDocument`: what the bindings of a document mention.
-/

namespace Rune

variable {m n : Type → Type} [Monad m] [Monad n] {ι : Type}

/-- A fault is about a pattern. -/
def EvaluationFault.IsPattern : EvaluationFault → Prop
  | .badPattern _ _ => True
  | _ => False

/-- What is mentioned stands for the same things in a second scope. -/
structure Scope.AgreesOn (mentioned : Mention → Prop) (scope scope' : Scope) : Prop where
  services : scope'.services = scope.services
  alias? : ∀ key, mentioned (.name key) →
    Entries.get? key scope'.aliases = Entries.get? key scope.aliases
  slot? : ∀ key, mentioned (.name key) → scope'.slot? key = scope.slot? key
  included? : ∀ key, mentioned (.name key) → scope'.included? key = scope.included? key

/-- A scope agrees with itself. -/
theorem Scope.AgreesOn.refl (mentioned : Mention → Prop) (scope : Scope) :
    scope.AgreesOn mentioned scope :=
  ⟨rfl, fun _ _ => rfl, fun _ _ => rfl, fun _ _ => rfl⟩

/-- A relation between computations and families of computations that respects all that
references and conditions in two scopes are made of. -/
structure Respects (scope scope' : Scope) (mentioned : Mention → Prop)
    (R : ∀ {α : Type}, m α → (ι → n α) → Prop) (e : Effects m) (e' : ι → Effects n) : Prop
    extends scope.AgreesOn mentioned scope' where
  pure : ∀ {α : Type} (a : α), R (pure a) (fun _ => pure a)
  bind : ∀ {α β : Type} {x : m α} {y : ι → n α} {f : α → m β} {g : ι → α → n β},
    R x y → (∀ a, R (f a) (fun i => g i a)) → R (x >>= f) (fun i => y i >>= g i)
  fail : ∀ {α : Type} (fault : EvaluationFault) (range : TextRange), ¬ fault.IsPattern →
    R (e.fail (α := α) fault range) (fun i => (e' i).fail fault range)
  ask : ∀ key : SystemKey, R (e.ask key.name) (fun i => (e' i).ask key.name)
  force : ∀ (key : String) (slot : Slot) (range : TextRange), mentioned (.name key) →
    scope.slot? key = some slot → R (e.force slot range) (fun i => (e' i).force slot range)

namespace Respects

variable {scope scope' : Scope} {mentioned : Mention → Prop}
  {R : ∀ {α : Type}, m α → (ι → n α) → Prop} {e : Effects m} {e' : ι → Effects n}

open Evaluation (sibling?)

/-! ## Services and references -/

theorem fact (h : Respects scope scope' mentioned R e e') (key : String) (range : TextRange) :
    R (Evaluation.fact e key range) (fun i => Evaluation.fact (e' i) key range) := by
  unfold Evaluation.fact
  cases SystemKey.ofName? key with
  | none => exact h.fail _ _ id
  | some known =>
    refine h.bind (h.ask known) fun answer => ?_
    cases answer with
    | none => exact h.fail _ _ id
    | some answer => exact h.pure _

theorem hostValue (h : Respects scope scope' mentioned R e e') (ref : HostRef) :
    R (Evaluation.hostValue scope e ref) (fun i => Evaluation.hostValue scope' (e' i) ref) := by
  cases ref with
  | env name range =>
    simp only [Evaluation.hostValue, h.services]
    exact h.pure _
  | sys key range => exact h.bind (h.fact key range) fun _ => h.pure _

theorem hostText (h : Respects scope scope' mentioned R e e') (ref : HostRef) :
    R (Evaluation.hostText scope e ref) (fun i => Evaluation.hostText scope' (e' i) ref) := by
  cases ref with
  | env name range =>
    simp only [Evaluation.hostText, h.services]
    exact h.pure _
  | sys key range => exact h.fact key range

theorem pieceTexts (h : Respects scope scope' mentioned R e e') (pieces : List Piece) :
    R (Evaluation.pieceTexts scope e pieces)
      (fun i => Evaluation.pieceTexts scope' (e' i) pieces) := by
  induction pieces with
  | nil => exact h.pure _
  | cons piece pieces ih =>
    cases piece with
    | text part => exact h.bind ih fun _ => h.pure _
    | ref ref => exact h.bind (h.hostText ref) fun _ => h.bind ih fun _ => h.pure _

/-- Whether a key that is mentioned stands for anything. -/
theorem isBound_eq (h : Respects scope scope' mentioned R e e') (siblings : Siblings)
    {key : String} (hkey : mentioned (.name key)) :
    Evaluation.isBound scope' siblings key = Evaluation.isBound scope siblings key := by
  unfold Evaluation.isBound
  rw [h.slot? key hkey, h.included? key hkey]

theorem nameValue (h : Respects scope scope' mentioned R e e') (siblings : Siblings)
    {name : String} (hname : mentioned (.name (Key.canonical name))) (range : TextRange) :
    R (Evaluation.nameValue scope e siblings name range)
      (fun i => Evaluation.nameValue scope' (e' i) siblings name range) := by
  unfold Evaluation.nameValue
  dsimp only
  simp only [h.slot? _ hname, h.included? _ hname]
  cases sibling? siblings (Key.canonical name) with
  | some value => exact h.pure _
  | none =>
    cases hslot : scope.slot? (Key.canonical name) with
    | some slot => exact h.force _ _ _ hname hslot
    | none =>
      cases scope.included? (Key.canonical name) with
      | some value => exact h.pure _
      | none => exact h.fail _ _ id

theorem pathValue (h : Respects scope scope' mentioned R e e') (siblings : Siblings)
    {head : String} (hhead : mentioned (.name (Key.canonical head))) (next : String)
    (rest : List String) (range : TextRange) :
    R (Evaluation.pathValue scope e siblings head next rest range)
      (fun i => Evaluation.pathValue scope' (e' i) siblings head next rest range) := by
  unfold Evaluation.pathValue
  dsimp only
  simp only [h.alias? _ hhead, h.isBound_eq siblings hhead]
  cases Entries.get? (Key.canonical head) scope.aliases with
  | some config =>
    dsimp only
    cases config.member? next <;> exact h.pure _
  | none =>
    cases Evaluation.isBound scope siblings (Key.canonical head) with
    | false => exact h.pure _
    | true => exact h.bind (h.nameValue siblings hhead range) fun _ => h.pure _

/-- Where all faults are respected, so are dotted references. -/
theorem path_of_fail (h : Respects scope scope' mentioned R e e')
    (hfail : ∀ {α : Type} (fault : EvaluationFault) (range : TextRange),
      R (e.fail (α := α) fault range) (fun i => (e' i).fail fault range))
    (siblings : Siblings) (head next : String) (rest : List String) (range : TextRange)
    (hhead : mentioned (.name (Key.canonical head))) :
    R (Evaluation.operandValue scope e siblings (.path head next rest range))
      (fun i => Evaluation.operandValue scope' (e' i) siblings (.path head next rest range)) := by
  refine h.bind (h.pathValue siblings hhead next rest range) fun result => ?_
  cases result with
  | ok value => exact h.pure _
  | error fault => exact hfail _ _

end Respects

/-- A relation that moreover respects patterns, and dotted references whatever they come to. -/
structure Congruent (scope scope' : Scope) (mentioned : Mention → Prop)
    (R : ∀ {α : Type}, m α → (ι → n α) → Prop) (e : Effects m) (e' : ι → Effects n) : Prop
    extends Respects scope scope' mentioned R e e' where
  path : ∀ (siblings : Siblings) (head next : String) (rest : List String) (range : TextRange),
    mentioned (.name (Key.canonical head)) →
    R (Evaluation.operandValue scope e siblings (.path head next rest range))
      (fun i => Evaluation.operandValue scope' (e' i) siblings (.path head next rest range))
  compile : ∀ (source : String) (range : TextRange), mentioned (.pattern source) →
    R (e.compile source range) (fun i => (e' i).compile source range)

namespace Congruent

variable {scope scope' : Scope} {mentioned : Mention → Prop}
  {R : ∀ {α : Type}, m α → (ι → n α) → Prop} {e : Effects m} {e' : ι → Effects n}

/-! ## Operands and conditions -/

theorem operandValue (h : Congruent scope scope' mentioned R e e') (siblings : Siblings)
    {operand : Operand} (hoperand : ∀ mention ∈ operand.mentions, mentioned mention) :
    R (Evaluation.operandValue scope e siblings operand)
      (fun i => Evaluation.operandValue scope' (e' i) siblings operand) := by
  cases operand with
  | literal scalar range => exact h.pure _
  | interpolated pieces range => exact h.bind (h.pieceTexts pieces) fun _ => h.pure _
  | name name range => exact h.nameValue siblings (hoperand _ List.mem_cons_self) range
  | path head next rest range =>
    exact h.path siblings head next rest range (hoperand _ List.mem_cons_self)
  | host ref => exact h.hostValue ref

theorem probe (h : Congruent scope scope' mentioned R e e') (siblings : Siblings)
    {operand : Operand} (hoperand : ∀ mention ∈ operand.mentions, mentioned mention) :
    R (Evaluation.probe scope e siblings operand)
      (fun i => Evaluation.probe scope' (e' i) siblings operand) := by
  cases operand with
  | name name range =>
    have hname := hoperand _ List.mem_cons_self
    simp only [Evaluation.probe, h.isBound_eq siblings hname]
    cases Evaluation.isBound scope siblings (Key.canonical name) with
    | false => exact h.pure _
    | true => exact h.bind (h.nameValue siblings hname range) fun _ => h.pure _
  | path head next rest range =>
    have hhead := hoperand _ List.mem_cons_self
    refine h.bind (h.pathValue siblings hhead next rest range) fun result => ?_
    cases result <;> exact h.pure _
  | literal | interpolated | host =>
    exact h.bind (h.operandValue siblings hoperand) fun _ => h.pure _

theorem holds (h : Congruent scope scope' mentioned R e e') (siblings : Siblings)
    {condition : Condition} (hcondition : ∀ mention ∈ condition.mentions, mentioned mention) :
    R (Evaluation.holds scope e siblings condition)
      (fun i => Evaluation.holds scope' (e' i) siblings condition) := by
  cases condition with
  | presence operand range =>
    refine h.bind (h.probe siblings hcondition) fun found => ?_
    cases found <;> exact h.pure _
  | equality left right range =>
    simp only [Condition.mentions, List.forall_mem_append] at hcondition
    refine h.bind (h.operandValue siblings hcondition.1) fun a => ?_
    refine h.bind (h.operandValue siblings hcondition.2) fun b => ?_
    cases left.isHost || right.isHost with
    | true => exact h.pure _
    | false =>
      cases a.comparison b with
      | some result => exact h.pure _
      | none => exact h.fail _ _ id

/-! ## Values and members -/

mutual

/-- Related effects give related values of expressions. -/
theorem value (h : Congruent scope scope' mentioned R e e') (siblings : Siblings) :
    ∀ expr : ValueExpr, (∀ mention ∈ expr.mentions, mentioned mention) →
      R (Evaluation.value scope e siblings expr)
        (fun i => Evaluation.value scope' (e' i) siblings expr)
  | .operand operand, hexpr => by
    simp only [Evaluation.value]
    exact h.operandValue siblings (by simpa only [ValueExpr.mentions] using hexpr)
  | .rawString pattern range, hexpr => by
    simp only [Evaluation.value]
    exact h.compile pattern range (hexpr _ (by simp [ValueExpr.mentions]))
  | .array items range, hexpr => by
    simp only [ValueExpr.mentions] at hexpr
    simp only [Evaluation.value]
    exact h.bind (h.values siblings items hexpr) fun _ => h.pure _
  | .conditional condition thenValue elseValue range, hexpr => by
    simp only [ValueExpr.mentions, List.forall_mem_append] at hexpr
    simp only [Evaluation.value]
    refine h.bind (h.holds siblings hexpr.1.1) fun chosen => ?_
    cases chosen with
    | true => exact h.value siblings thenValue hexpr.1.2
    | false => exact h.valueOrNull siblings elseValue hexpr.2

theorem values (h : Congruent scope scope' mentioned R e e') (siblings : Siblings) :
    ∀ exprs : List ValueExpr,
      (∀ mention ∈ ValueExpr.mentionsOfAll exprs, mentioned mention) →
      R (Evaluation.values scope e siblings exprs)
        (fun i => Evaluation.values scope' (e' i) siblings exprs)
  | [], _ => by
    simp only [Evaluation.values]
    exact h.pure _
  | expr :: exprs, hexprs => by
    simp only [ValueExpr.mentionsOfAll, List.forall_mem_append] at hexprs
    simp only [Evaluation.values]
    exact h.bind (h.value siblings expr hexprs.1) fun _ =>
      h.bind (h.values siblings exprs hexprs.2) fun _ => h.pure _

theorem valueOrNull (h : Congruent scope scope' mentioned R e e') (siblings : Siblings) :
    ∀ expr : Option ValueExpr,
      (∀ mention ∈ ValueExpr.mentionsOfOption expr, mentioned mention) →
      R (Evaluation.valueOrNull scope e siblings expr)
        (fun i => Evaluation.valueOrNull scope' (e' i) siblings expr)
  | none, _ => by
    simp only [Evaluation.valueOrNull]
    exact h.pure _
  | some expr, hexpr => by
    simp only [ValueExpr.mentionsOfOption] at hexpr
    simp only [Evaluation.valueOrNull]
    exact h.value siblings expr hexpr

end

/-- Both evaluations record locations alike. -/
def Records (R : ∀ {α : Type}, m α → (ι → n α) → Prop) (e : Effects m) (e' : ι → Effects n) :
    Prop :=
  ∀ (space : Namespace) (path : List String) (range : TextRange),
    R (e.record space path range) (fun i => (e' i).record space path range)

mutual

/-- Related effects give related fields of objects, if locations are recorded alike. -/
theorem members (h : Congruent scope scope' mentioned R e e') (record : Records R e e')
    (path : List String) (fields : Entries Value) :
    ∀ children : List Member,
      (∀ mention ∈ Member.mentionsOfAll children, mentioned mention) →
      R (Evaluation.members scope e path fields children)
        (fun i => Evaluation.members scope' (e' i) path fields children)
  | [], _ => by
    simp only [Evaluation.members]
    exact h.pure _
  | child :: children, hchildren => by
    simp only [Member.mentionsOfAll, List.forall_mem_append] at hchildren
    simp only [Evaluation.members]
    exact h.bind (h.member record path fields child hchildren.1) fun fields =>
      h.members record path fields children hchildren.2

theorem member (h : Congruent scope scope' mentioned R e e') (record : Records R e e')
    (path : List String) (fields : Entries Value) :
    ∀ child : Member, (∀ mention ∈ child.mentions, mentioned mention) →
      R (Evaluation.member scope e path fields child)
        (fun i => Evaluation.member scope' (e' i) path fields child)
  | .field name expr range, hchild => by
    simp only [Member.mentions] at hchild
    simp only [Evaluation.member]
    exact h.bind (h.value (some fields) expr hchild) fun _ => h.bind (record _ _ _) fun _ =>
      h.pure _
  | .block name children range, hchild => by
    simp only [Member.mentions] at hchild
    simp only [Evaluation.member]
    exact h.bind (record _ _ _) fun _ => h.bind (h.members record _ [] children hchild) fun _ =>
      h.pure _
  | .conditional condition thenChildren elseChildren range, hchild => by
    simp only [Member.mentions, List.forall_mem_append] at hchild
    simp only [Evaluation.member]
    refine h.bind (h.holds (some fields) hchild.1.1) fun chosen => ?_
    cases chosen with
    | true => exact h.members record path fields thenChildren hchild.1.2
    | false => exact h.members record path fields elseChildren hchild.2

end

end Congruent

/-! ## Documents -/

/-- The bindings of a document mention nothing else. -/
structure Scope.MentionsOnly (scope : Scope) (mentioned : Mention → Prop) : Prop where
  globals : ∀ name bound, Entries.get? name scope.globals = some bound →
    ∀ mention ∈ bound.1.mentions, mentioned mention
  items : ∀ name bound, Entries.get? name scope.items = some bound →
    ∀ mention ∈ Member.mentionsOfAll bound.1, mentioned mention
  metadata : ∀ bound ∈ scope.metadata, ∀ mention ∈ bound.2.1.mentions, mentioned mention

/-- A global binding of a document is one of its statements. -/
theorem Scope.exists_of_mem_globalsOf {document : Document}
    {bound : String × ValueExpr × TextRange} (h : bound ∈ globalsOf document) :
    ∃ name, .global name bound.2.1 bound.2.2 ∈ document ∧ Key.canonical name = bound.1 := by
  obtain ⟨statement, hstatement, hbound⟩ := List.mem_filterMap.1 (Entries.mem_of_mem_ofList h)
  cases statement with
  | global name =>
    cases hbound
    exact ⟨name, hstatement, rfl⟩
  | _ => cases hbound

/-- An item of a document is one of its statements. -/
theorem Scope.exists_of_mem_itemsOf {document : Document}
    {bound : String × List Member × TextRange} (h : bound ∈ itemsOf document) :
    ∃ name, .block name bound.2.1 bound.2.2 ∈ document ∧ Key.canonical name = bound.1 := by
  obtain ⟨statement, hstatement, hbound⟩ := List.mem_filterMap.1 (Entries.mem_of_mem_ofList h)
  cases statement with
  | block name =>
    cases hbound
    exact ⟨name, hstatement, rfl⟩
  | _ => cases hbound

/-- A binding of metadata of a document is one of its statements. -/
theorem Scope.exists_of_mem_metadataOf {document : Document}
    {bound : String × ValueExpr × TextRange} (h : bound ∈ metadataOf document) :
    ∃ key, .metadata key bound.2.1 bound.2.2 ∈ document ∧ Key.canonical key = bound.1 := by
  obtain ⟨statement, hstatement, hbound⟩ := List.mem_filterMap.1 h
  cases statement with
  | metadata key =>
    cases hbound
    exact ⟨key, hstatement, rfl⟩
  | _ => cases hbound

/-- What the bindings of a document mention is mentioned in the document. -/
theorem Scope.mentionsOnly_ofDocument (source : Source) (services : Services)
    (document : Document) (aliases : Entries Config) :
    (ofDocument source services document aliases).MentionsOnly (· ∈ document.mentions) := by
  have hmem {statement : Statement} (hstatement : statement ∈ document) {mention : Mention}
      (hmention : mention ∈ statement.mentions) : mention ∈ document.mentions :=
    List.mem_flatMap.2 ⟨statement, hstatement, hmention⟩
  constructor
  case globals =>
    intro name bound hbound mention hmention
    obtain ⟨spelled, hstatement, -⟩ := exists_of_mem_globalsOf (Entries.mem_of_get? hbound)
    exact hmem hstatement hmention
  case items =>
    intro name bound hbound mention hmention
    obtain ⟨spelled, hstatement, -⟩ := exists_of_mem_itemsOf (Entries.mem_of_get? hbound)
    exact hmem hstatement hmention
  case metadata =>
    intro bound hbound mention hmention
    obtain ⟨spelled, hstatement, -⟩ := exists_of_mem_metadataOf hbound
    exact hmem hstatement hmention

end Rune
