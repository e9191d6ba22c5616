import Rune.Proofs.Evaluation.Parametric
import Rune.Proofs.Evaluation.Tasks
import Rune.Proofs.Tree.Unplaced

/-!
# Rune - bare evaluation

Bare evaluation is plain evaluation that forgets causes: a failure does not say why or
where it happened.  Then it does not matter where the parts of a document stand, and two
documents in which names stand for the same things evaluate trees that are alike to the
same outcome.

Main results:

- Definition {lit}`Bare.outcome` is the outcome of a task at a depth, with the theorem
  {lit}`Bare.yields_iff` that a task yields the same values as in plain evaluation.
- Structure {lit}`Scope.SeesLike`: names stand for the same things in two documents.
- Theorems {lit}`Bare.value_unplaced` and {lit}`Bare.members_unplaced`: then trees come to the
  same outcome without their places.
-/

namespace Rune

/-- An outcome without the cause of a failure. -/
def Outcome.bare {ε α : Type} : Outcome ε α → Outcome Unit α
  | .value a => .value a
  | .failure _ => .failure ()
  | .tooDeep => .tooDeep

namespace Outcome

variable {ε α β : Type}

instance : LawfulMonad (Outcome ε) :=
  LawfulMonad.mk' _ (fun o => by cases o <;> rfl) (fun _ _ => rfl)
    (fun o _ _ => by cases o <;> rfl)

theorem bare_eq_value_iff {o : Outcome ε α} {a : α} : o.bare = .value a ↔ o = .value a := by
  cases o <;> simp [bare]

theorem bare_bind (o : Outcome ε α) (f : α → Outcome ε β) :
    (o >>= f).bare = o.bare >>= fun a => (f a).bare := by
  cases o <;> rfl

end Outcome

namespace Bare

/-! ## Bare effects -/

/-- The effects of a bare evaluation, in which a reference to a top-level binding is a
call. -/
def effects (services : Services) (call : Slot → Outcome Unit Value) :
    Effects (Outcome Unit) where
  fail _ _ := .failure ()
  record _ _ _ := .value ()
  compile source _ :=
    match Pattern.read source with
    | .ok pattern => .value (.pattern pattern)
    | .error _ => .failure ()
  ask key := .value (services.system key)
  force slot _ := call slot

variable (scope : Scope)

/-- The value of a top-level binding, where calls nest at most {lit}`depth` deep. -/
def slotValue : Nat → Slot → Outcome Unit Value
  | 0, _ => .tooDeep
  | depth + 1, slot => Evaluation.bindingValue scope (effects scope.services (slotValue depth)) slot

/-- The effects of a bare evaluation whose calls nest at most {lit}`depth` deep. -/
def effectsAt (depth : Nat) : Effects (Outcome Unit) :=
  effects scope.services (slotValue scope depth)

/-- The bare outcome of a task, where calls nest at most {lit}`depth` deep. -/
def outcome (depth : Nat) : Task → Outcome Unit Value
  | .slot slot => slotValue scope depth slot
  | .metadata expr => Evaluation.value scope (effectsAt scope depth) none expr

variable {scope}

/-- Plain evaluation without its causes is bare evaluation, if that holds of calls. -/
theorem effects_parametric {call : Slot → Outcome Flaw Value} {call' : Slot → Outcome Unit Value}
    (hcall : ∀ slot, (call slot).bare = call' slot) :
    Parametric scope (fun {_} x (y : Unit → _) => Outcome.bare x = y ()) (ByName.effects scope call)
      (fun _ => effects scope.services call') where
  pure _ := rfl
  bind hx hf := by
    rw [Outcome.bare_bind, hx]
    exact congrArg _ (funext hf)
  fail _ _ := rfl
  record _ _ _ := rfl
  compile source range := by
    simp only [ByName.effects, effects, ByName.compile]
    cases Pattern.read source <;> rfl
  ask _ := rfl
  force slot _ _ := hcall slot

theorem slotValue_eq (depth : Nat) (slot : Slot) :
    (ByName.slotValue scope depth slot).bare = slotValue scope depth slot := by
  induction depth generalizing slot with
  | zero => rfl
  | succ depth ih => exact (effects_parametric ih).bindingValue slot

/-- Plain evaluation at a depth is bare evaluation at that depth, apart from causes. -/
theorem effectsAt_parametric (scope : Scope) (depth : Nat) :
    Parametric scope (fun {_} x (y : Unit → _) => Outcome.bare x = y ())
      (ByName.effectsAt scope depth) (fun _ => effectsAt scope depth) :=
  effects_parametric (slotValue_eq depth)

theorem outcome_eq (depth : Nat) (task : Task) :
    (ByName.outcome scope depth task).bare = outcome scope depth task := by
  cases task with
  | slot slot => exact slotValue_eq depth slot
  | metadata expr => exact (effectsAt_parametric scope depth).value none expr

/-- A task yields the values of bare evaluation. -/
theorem yields_iff {task : Task} {value : Value} :
    ByName.Yields scope task value ↔ ∃ depth, outcome scope depth task = .value value := by
  simp only [ByName.Yields, ← outcome_eq, Outcome.bare_eq_value_iff]

end Bare

/-! ## Documents in which names stand for the same things -/

/-- Names stand for the same things in two documents. -/
structure Scope.SeesLike (scope scope' : Scope) : Prop where
  services : scope'.services = scope.services
  aliases : scope'.aliases = scope.aliases
  includes : scope'.includes = scope.includes
  slot? : ∀ key, scope'.slot? key = scope.slot? key

namespace Scope.SeesLike

variable {scope scope' : Scope}

theorem refl (scope : Scope) : scope.SeesLike scope := ⟨rfl, rfl, rfl, fun _ => rfl⟩

theorem included?_eq (h : scope.SeesLike scope') (key : String) :
    scope'.included? key = scope.included? key := by
  rw [included?, included?, h.includes]

theorem isBound_eq (h : scope.SeesLike scope') (siblings : Siblings) (key : String) :
    Evaluation.isBound scope' siblings key = Evaluation.isBound scope siblings key := by
  rw [Evaluation.isBound, Evaluation.isBound, h.slot?, h.included?_eq]

theorem withIncluded_eq (h : scope.SeesLike scope') (space : Namespace) (own : Entries Value) :
    scope'.withIncluded space own = scope.withIncluded space own := by
  rw [withIncluded, withIncluded, h.includes]

end Scope.SeesLike

/-! ## Trees without their places -/

namespace Bare

variable {scope scope' : Scope} {services : Services} {call : Slot → Outcome Unit Value}

section

variable (h : scope.SeesLike scope')
include h

theorem hostValue_unplaced (ref : HostRef) :
    Evaluation.hostValue scope' (effects services call) ref.unplaced =
      Evaluation.hostValue scope (effects services call) ref := by
  cases ref with
  | env name range => simp only [HostRef.unplaced, Evaluation.hostValue, h.services]
  | sys key range => rfl

theorem hostText_unplaced (ref : HostRef) :
    Evaluation.hostText scope' (effects services call) ref.unplaced =
      Evaluation.hostText scope (effects services call) ref := by
  cases ref with
  | env name range => simp only [HostRef.unplaced, Evaluation.hostText, h.services]
  | sys key range => rfl

theorem pieceTexts_unplaced (pieces : List Piece) :
    Evaluation.pieceTexts scope' (effects services call) (pieces.map Piece.unplaced) =
      Evaluation.pieceTexts scope (effects services call) pieces := by
  induction pieces with
  | nil => rfl
  | cons piece pieces ih =>
    cases piece with
    | text part => simp only [List.map_cons, Piece.unplaced, Evaluation.pieceTexts, ih]
    | ref ref =>
      simp only [List.map_cons, Piece.unplaced, Evaluation.pieceTexts, ih, hostText_unplaced h]

theorem nameValue_unplaced (siblings : Siblings) (name : String) (range range' : TextRange) :
    Evaluation.nameValue scope' (effects services call) siblings name range' =
      Evaluation.nameValue scope (effects services call) siblings name range := by
  simp only [Evaluation.nameValue, h.slot?, h.included?_eq]
  rfl

theorem pathValue_unplaced (siblings : Siblings) (head next : String) (rest : List String)
    (range range' : TextRange) :
    Evaluation.pathValue scope' (effects services call) siblings head next rest range' =
      Evaluation.pathValue scope (effects services call) siblings head next rest range := by
  simp only [Evaluation.pathValue, h.aliases, h.isBound_eq,
    nameValue_unplaced h siblings head range range']

theorem operandValue_unplaced (siblings : Siblings) (operand : Operand) :
    Evaluation.operandValue scope' (effects services call) siblings operand.unplaced =
      Evaluation.operandValue scope (effects services call) siblings operand := by
  cases operand with
  | literal value range => rfl
  | interpolated pieces range =>
    simp only [Operand.unplaced, Evaluation.operandValue, pieceTexts_unplaced h]
  | name name range => exact nameValue_unplaced h siblings name range _
  | path head next rest range =>
    simp only [Operand.unplaced, Evaluation.operandValue,
      pathValue_unplaced h siblings head next rest range]
    rfl
  | host ref => exact hostValue_unplaced h ref

theorem probe_unplaced (siblings : Siblings) (operand : Operand) :
    Evaluation.probe scope' (effects services call) siblings operand.unplaced =
      Evaluation.probe scope (effects services call) siblings operand := by
  have value : Evaluation.operandValue scope' (effects services call) siblings operand.unplaced =
      Evaluation.operandValue scope (effects services call) siblings operand :=
    operandValue_unplaced h siblings operand
  cases operand with
  | name name range =>
    simp only [Operand.unplaced, Evaluation.probe, h.isBound_eq,
      nameValue_unplaced h siblings name range]
  | path head next rest range =>
    simp only [Operand.unplaced, Evaluation.probe,
      pathValue_unplaced h siblings head next rest range]
  | literal | interpolated | host => exact congrArg (· >>= fun value => pure (some value)) value

theorem holds_unplaced (siblings : Siblings) (condition : Condition) :
    Evaluation.holds scope' (effects services call) siblings condition.unplaced =
      Evaluation.holds scope (effects services call) siblings condition := by
  cases condition with
  | presence operand range =>
    simp only [Condition.unplaced, Evaluation.holds, probe_unplaced h]
  | equality left right range =>
    simp only [Condition.unplaced, Evaluation.holds, operandValue_unplaced h,
      Operand.isHost_unplaced]
    rfl

end

mutual

/-- An expression comes to the same outcome without its place. -/
theorem value_unplaced (h : scope.SeesLike scope') (siblings : Siblings) : ∀ expr : ValueExpr,
    Evaluation.value scope' (effects services call) siblings expr.unplaced =
      Evaluation.value scope (effects services call) siblings expr
  | .operand operand => by
    simp only [ValueExpr.unplaced, Evaluation.value]
    exact operandValue_unplaced h siblings operand
  | .rawString pattern range => by
    simp only [ValueExpr.unplaced, Evaluation.value]
    rfl
  | .array items range => by
    simp only [ValueExpr.unplaced, Evaluation.value, values_unplaced h siblings items]
  | .conditional condition thenValue elseValue range => by
    simp only [ValueExpr.unplaced, Evaluation.value, holds_unplaced h,
      value_unplaced h siblings thenValue, valueOrNull_unplaced h siblings elseValue]

theorem values_unplaced (h : scope.SeesLike scope') (siblings : Siblings) :
    ∀ exprs : List ValueExpr,
    Evaluation.values scope' (effects services call) siblings (ValueExpr.unplacedAll exprs) =
      Evaluation.values scope (effects services call) siblings exprs
  | [] => rfl
  | expr :: exprs => by
    simp only [ValueExpr.unplacedAll, Evaluation.values, value_unplaced h siblings expr,
      values_unplaced h siblings exprs]

theorem valueOrNull_unplaced (h : scope.SeesLike scope') (siblings : Siblings) :
    ∀ expr : Option ValueExpr,
    Evaluation.valueOrNull scope' (effects services call) siblings
        (ValueExpr.unplacedOption expr) =
      Evaluation.valueOrNull scope (effects services call) siblings expr
  | none => rfl
  | some expr => by
    simp only [ValueExpr.unplacedOption, Evaluation.valueOrNull, value_unplaced h siblings expr]

end

mutual

/-- Members come to the same outcome without their places, wherever the object is. -/
theorem members_unplaced (h : scope.SeesLike scope') (path path' : List String)
    (fields : Entries Value) : ∀ children : List Member,
    Evaluation.members scope' (effects services call) path' fields (Member.unplacedAll children) =
      Evaluation.members scope (effects services call) path fields children
  | [] => rfl
  | child :: children => by
    simp only [Member.unplacedAll, Evaluation.members, member_unplaced h path path' fields child]
    exact congrArg _ (funext fun fields => members_unplaced h path path' fields children)

theorem member_unplaced (h : scope.SeesLike scope') (path path' : List String)
    (fields : Entries Value) : ∀ child : Member,
    Evaluation.member scope' (effects services call) path' fields child.unplaced =
      Evaluation.member scope (effects services call) path fields child
  | .field name expr range => by
    simp only [Member.unplaced, Evaluation.member, value_unplaced h]
    rfl
  | .block name children range => by
    simp only [Member.unplaced, Evaluation.member]
    rw [members_unplaced h (path ++ [Key.canonical name]) (path' ++ [Key.canonical name]) []
      children]
    rfl
  | .conditional condition thenChildren elseChildren range => by
    simp only [Member.unplaced, Evaluation.member, holds_unplaced h,
      members_unplaced h path path' fields thenChildren,
      members_unplaced h path path' fields elseChildren]

end

/-! ## Calls that yield more -/

section

variable {call' : Slot → Outcome Unit Value}
  (hcall : ∀ slot value, call slot = .value value → call' slot = .value value)
include hcall

/-- Where calls yield at least the same values, so does all of evaluation. -/
theorem grow_parametric : Parametric scope
    (fun {_} x (y : Unit → Outcome Unit _) => ∀ a, x = .value a → y () = .value a)
    (effects services call) (fun _ => effects services call') where
  pure _ _ h := h
  bind hx hf b hb := by
    obtain ⟨a, ha, hb⟩ := Outcome.bind_eq_value_iff.1 hb
    exact Outcome.bind_eq_value_iff.2 ⟨a, hx a ha, hf a b hb⟩
  fail _ _ _ h := h
  record _ _ _ _ h := h
  compile _ _ _ h := h
  ask _ _ h := h
  force slot _ _ value h := hcall slot value h

variable (h : scope.SeesLike scope')
include h

/-- An expression that is alike yields the same value, where names stand for the same
things and calls yield at least the same values. -/
theorem value_carry {siblings : Siblings} {expr expr' : ValueExpr}
    (halike : expr'.unplaced = expr.unplaced) {result : Value}
    (hvalue : Evaluation.value scope (effects services call) siblings expr = .value result) :
    Evaluation.value scope' (effects services call') siblings expr' = .value result := by
  rw [← value_unplaced (.refl scope'), halike, value_unplaced h]
  exact (grow_parametric hcall).value siblings expr result hvalue

/-- So does a condition that is alike. -/
theorem holds_carry {siblings : Siblings} {condition condition' : Condition}
    (halike : condition'.unplaced = condition.unplaced) {chosen : Bool}
    (hvalue : Evaluation.holds scope (effects services call) siblings condition = .value chosen) :
    Evaluation.holds scope' (effects services call') siblings condition' = .value chosen := by
  rw [← holds_unplaced (.refl scope'), halike, holds_unplaced h]
  exact (grow_parametric hcall).holds siblings condition chosen hvalue

/-- So do members that are alike. -/
theorem members_carry {path path' : List String} {fields result : Entries Value}
    {children children' : List Member}
    (halike : Member.unplacedAll children' = Member.unplacedAll children)
    (hvalue : Evaluation.members scope (effects services call) path fields children =
      .value result) :
    Evaluation.members scope' (effects services call') path' fields children' = .value result := by
  rw [← members_unplaced (.refl scope') path' path', halike, members_unplaced h path path']
  exact (grow_parametric hcall).members path fields children result hvalue

/-- So does one member. -/
theorem member_carry {path path' : List String} {fields result : Entries Value} {child : Member}
    (hvalue : Evaluation.member scope (effects services call) path fields child =
      .value result) :
    Evaluation.member scope' (effects services call') path' fields child = .value result := by
  rw [← member_unplaced (.refl scope') path' path', member_unplaced h path path']
  exact (grow_parametric hcall).member path fields child result hvalue

end

/-! ## Growing depths -/

/-- At greater depths a binding yields the same value. -/
theorem slotValue_mono {depth depth' : Nat} (hdepth : depth ≤ depth') :
    ∀ slot value, slotValue scope depth slot = .value value →
      slotValue scope depth' slot = .value value := by
  induction depth generalizing depth' with
  | zero => exact fun _ _ h => nomatch h
  | succ depth ih =>
    cases depth' with
    | zero => omega
    | succ depth' =>
      exact fun slot => (grow_parametric (ih (by omega))).bindingValue slot

/-- A condition comes out the same way at all depths at which it comes out. -/
theorem holds_unique {siblings : Siblings} {condition : Condition} {depth depth' : Nat}
    {chosen chosen' : Bool}
    (h : Evaluation.holds scope (effectsAt scope depth) siblings condition = .value chosen)
    (h' : Evaluation.holds scope (effectsAt scope depth') siblings condition = .value chosen') :
    chosen = chosen' := by
  have first := holds_carry (slotValue_mono (Nat.le_max_left depth depth')) (.refl scope) rfl h
  have second := holds_carry (slotValue_mono (Nat.le_max_right depth depth')) (.refl scope) rfl h'
  exact Outcome.value.inj (first.symm.trans second)

/-- A member leads to the same fields at all depths at which it leads to any. -/
theorem member_unique {path path' : List String} {fields more more' : Entries Value}
    {child : Member} {depth depth' : Nat}
    (h : Evaluation.member scope (effectsAt scope depth) path fields child = .value more)
    (h' : Evaluation.member scope (effectsAt scope depth') path' fields child = .value more') :
    more = more' := by
  have first : Evaluation.member scope (effectsAt scope (max depth depth')) path fields child =
      .value more :=
    member_carry (slotValue_mono (Nat.le_max_left depth depth')) (.refl scope) h
  have second : Evaluation.member scope (effectsAt scope (max depth depth')) path fields child =
      .value more' :=
    member_carry (slotValue_mono (Nat.le_max_right depth depth')) (.refl scope) h'
  exact Outcome.value.inj (first.symm.trans second)

end Bare

end Rune
