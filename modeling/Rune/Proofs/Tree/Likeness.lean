import Rune.Proofs.Lists
import Rune.Tree.Basic

/-!
# Rune - trees that are alike

Two trees are alike if they are built in the same way and differ at most in their
ranges and in the names that they use.  How far ranges and names may differ is a
parameter: the same tree at another place of a text, or the same tree with its names
spelled otherwise.  Texts, patterns, paths of files and names of the environment are
the same in trees that are alike.

Main results:

- Structure {lit}`Likeness` says how far ranges and names may differ.
- Relations {lit}`ValueExpr.Like`, {lit}`Member.Like` and {lit}`Statement.Like` hold of
  trees that are alike.
- Definition {lit}`Statement.relocate` moves the ranges of a tree, and
  {lit}`Statement.Like.eq_relocate`: trees whose ranges are moved by a function are
  alike in that way only.
-/

namespace Rune

/-- How far the ranges and the names of two trees may differ. -/
structure Likeness where
  places : TextRange → TextRange → Prop
  names : String → String → Prop

namespace Likeness

/-- Ranges may differ as far as a relation says, and names not at all. -/
def placed (places : TextRange → TextRange → Prop) : Likeness := ⟨places, (· = ·)⟩

end Likeness

/-! ## The relations -/

/-- References to the host that are alike. -/
inductive HostRef.Like (l : Likeness) : HostRef → HostRef → Prop where
  | env {name : String} {range range' : TextRange} (hrange : l.places range range') :
    Like l (.env name range) (.env name range')
  | sys {key key' : String} {range range' : TextRange} (hkey : l.names key key')
      (hrange : l.places range range') : Like l (.sys key range) (.sys key' range')

/-- Pieces of a string that are alike. -/
inductive Piece.Like (l : Likeness) : Piece → Piece → Prop where
  | text (value : String) : Like l (.text value) (.text value)
  | ref {ref ref' : HostRef} (href : ref.Like l ref') : Like l (.ref ref) (.ref ref')

/-- Operands that are alike. -/
inductive Operand.Like (l : Likeness) : Operand → Operand → Prop where
  | literal {value : Scalar} {range range' : TextRange} (hrange : l.places range range') :
    Like l (.literal value range) (.literal value range')
  | interpolated {pieces pieces' : List Piece} {range range' : TextRange}
      (hpieces : List.Forall₂ (Piece.Like l) pieces pieces') (hrange : l.places range range') :
    Like l (.interpolated pieces range) (.interpolated pieces' range')
  | name {name name' : String} {range range' : TextRange} (hname : l.names name name')
      (hrange : l.places range range') : Like l (.name name range) (.name name' range')
  | path {head head' next next' : String} {rest rest' : List String} {range range' : TextRange}
      (hhead : l.names head head') (hnext : l.names next next')
      (hrest : List.Forall₂ l.names rest rest') (hrange : l.places range range') :
    Like l (.path head next rest range) (.path head' next' rest' range')
  | host {ref ref' : HostRef} (href : ref.Like l ref') : Like l (.host ref) (.host ref')

/-- Conditions that are alike. -/
inductive Condition.Like (l : Likeness) : Condition → Condition → Prop where
  | equality {left left' right right' : Operand} {range range' : TextRange}
      (hleft : left.Like l left') (hright : right.Like l right')
      (hrange : l.places range range') :
    Like l (.equality left right range) (.equality left' right' range')
  | presence {operand operand' : Operand} {range range' : TextRange}
      (hoperand : operand.Like l operand') (hrange : l.places range range') :
    Like l (.presence operand range) (.presence operand' range')

/-- Values that are alike. -/
inductive ValueExpr.Like (l : Likeness) : ValueExpr → ValueExpr → Prop where
  | operand {operand operand' : Operand} (hoperand : operand.Like l operand') :
    Like l (.operand operand) (.operand operand')
  | rawString {pattern : String} {range range' : TextRange} (hrange : l.places range range') :
    Like l (.rawString pattern range) (.rawString pattern range')
  | array {items items' : List ValueExpr} {range range' : TextRange}
      (hitems : List.Forall₂ (Like l) items items') (hrange : l.places range range') :
    Like l (.array items range) (.array items' range')
  | choice {condition condition' : Condition} {thenValue thenValue' : ValueExpr}
      {range range' : TextRange} (hcondition : condition.Like l condition')
      (hthen : Like l thenValue thenValue') (hrange : l.places range range') :
    Like l (.conditional condition thenValue none range)
      (.conditional condition' thenValue' none range')
  | choiceElse {condition condition' : Condition}
      {thenValue thenValue' elseValue elseValue' : ValueExpr} {range range' : TextRange}
      (hcondition : condition.Like l condition') (hthen : Like l thenValue thenValue')
      (helse : Like l elseValue elseValue') (hrange : l.places range range') :
    Like l (.conditional condition thenValue (some elseValue) range)
      (.conditional condition' thenValue' (some elseValue') range')

/-- Members of blocks that are alike. -/
inductive Member.Like (l : Likeness) : Member → Member → Prop where
  | field {name name' : String} {value value' : ValueExpr} {range range' : TextRange}
      (hname : l.names name name') (hvalue : value.Like l value')
      (hrange : l.places range range') :
    Like l (.field name value range) (.field name' value' range')
  | block {name name' : String} {children children' : List Member} {range range' : TextRange}
      (hname : l.names name name') (hchildren : List.Forall₂ (Like l) children children')
      (hrange : l.places range range') :
    Like l (.block name children range) (.block name' children' range')
  | conditional {condition condition' : Condition}
      {children children' elseChildren elseChildren' : List Member} {range range' : TextRange}
      (hcondition : condition.Like l condition')
      (hchildren : List.Forall₂ (Like l) children children')
      (helse : List.Forall₂ (Like l) elseChildren elseChildren')
      (hrange : l.places range range') :
    Like l (.conditional condition children elseChildren range)
      (.conditional condition' children' elseChildren' range')

/-- Gathers that are alike: they are of one file. -/
structure Gather.Like (l : Likeness) (gather gather' : Gather) : Prop where
  path_eq : gather'.path = gather.path
  aliasName : l.names gather.aliasName gather'.aliasName
  range : l.places gather.range gather'.range
  explicitAlias_eq : gather'.explicitAlias = gather.explicitAlias

/-- Statements that are alike. -/
inductive Statement.Like (l : Likeness) : Statement → Statement → Prop where
  | global {name name' : String} {value value' : ValueExpr} {range range' : TextRange}
      (hname : l.names name name') (hvalue : value.Like l value')
      (hrange : l.places range range') :
    Like l (.global name value range) (.global name' value' range')
  | metadata {key key' : String} {value value' : ValueExpr} {range range' : TextRange}
      (hkey : l.names key key') (hvalue : value.Like l value')
      (hrange : l.places range range') :
    Like l (.metadata key value range) (.metadata key' value' range')
  | block {name name' : String} {children children' : List Member} {range range' : TextRange}
      (hname : l.names name name')
      (hchildren : List.Forall₂ (Member.Like l) children children')
      (hrange : l.places range range') :
    Like l (.block name children range) (.block name' children' range')
  | gather {gather gather' : Gather} (hgather : gather.Like l gather') :
    Like l (.gather gather) (.gather gather')

/-- Documents that are alike, statement by statement. -/
def Document.Like (l : Likeness) (document document' : Document) : Prop :=
  List.Forall₂ (Statement.Like l) document document'

/-! ## The places of trees that are alike -/

variable {l : Likeness}

theorem HostRef.Like.range {ref ref' : HostRef} (h : ref.Like l ref') :
    l.places ref.range ref'.range := by
  cases h <;> assumption

theorem Operand.Like.range {operand operand' : Operand} (h : operand.Like l operand') :
    l.places operand.range operand'.range := by
  cases h with
  | host href => exact href.range
  | _ => assumption

theorem Condition.Like.range {condition condition' : Condition}
    (h : condition.Like l condition') : l.places condition.range condition'.range := by
  cases h <;> assumption

theorem ValueExpr.Like.range {value value' : ValueExpr} (h : value.Like l value') :
    l.places value.range value'.range := by
  cases h with
  | operand hoperand => exact hoperand.range
  | _ => assumption

/-! ## Trees at other places -/

section Relocate

variable (f : TextRange → TextRange)

/-- A reference to the host at another place. -/
def HostRef.relocate : HostRef → HostRef
  | .env name range => .env name (f range)
  | .sys key range => .sys key (f range)

/-- A piece of a string at another place. -/
def Piece.relocate : Piece → Piece
  | .text value => .text value
  | .ref r => .ref (r.relocate f)

/-- An operand at another place. -/
def Operand.relocate : Operand → Operand
  | .literal value range => .literal value (f range)
  | .interpolated pieces range => .interpolated (pieces.map (Piece.relocate f)) (f range)
  | .name n range => .name n (f range)
  | .path head next rest range => .path head next rest (f range)
  | .host r => .host (r.relocate f)

/-- A condition at another place. -/
def Condition.relocate : Condition → Condition
  | .equality left right range => .equality (left.relocate f) (right.relocate f) (f range)
  | .presence operand range => .presence (operand.relocate f) (f range)

mutual

/-- A value at another place. -/
def ValueExpr.relocate : ValueExpr → ValueExpr
  | .operand o => .operand (o.relocate f)
  | .rawString pattern range => .rawString pattern (f range)
  | .array items range => .array (ValueExpr.relocateAll items) (f range)
  | .conditional condition thenValue none range =>
    .conditional (condition.relocate f) thenValue.relocate none (f range)
  | .conditional condition thenValue (some elseValue) range =>
    .conditional (condition.relocate f) thenValue.relocate (some elseValue.relocate) (f range)

/-- Values at another place. -/
def ValueExpr.relocateAll : List ValueExpr → List ValueExpr
  | [] => []
  | item :: items => item.relocate :: ValueExpr.relocateAll items

end

mutual

/-- A member of a block at another place. -/
def Member.relocate : Member → Member
  | .field name value range => .field name (value.relocate f) (f range)
  | .block name children range => .block name (Member.relocateAll children) (f range)
  | .conditional condition children elseChildren range =>
    .conditional (condition.relocate f) (Member.relocateAll children)
      (Member.relocateAll elseChildren) (f range)

/-- Members of a block at another place. -/
def Member.relocateAll : List Member → List Member
  | [] => []
  | child :: children => child.relocate :: Member.relocateAll children

end

/-- A statement at another place. -/
def Statement.relocate : Statement → Statement
  | .global name value range => .global name (value.relocate f) (f range)
  | .metadata key value range => .metadata key (value.relocate f) (f range)
  | .block name children range => .block name (Member.relocateAll f children) (f range)
  | .gather g => .gather { g with range := f g.range }

end Relocate

/-! ### Ranges that are left alone -/

@[simp] theorem HostRef.relocate_id (ref : HostRef) : ref.relocate id = ref := by
  cases ref <;> rfl

@[simp] theorem Piece.relocate_id (piece : Piece) : piece.relocate id = piece := by
  cases piece <;> simp [Piece.relocate]

@[simp] theorem Operand.relocate_id (operand : Operand) : operand.relocate id = operand := by
  have hpieces : Piece.relocate id = id := funext Piece.relocate_id
  cases operand <;> simp [Operand.relocate, hpieces]

@[simp] theorem Condition.relocate_id (condition : Condition) :
    condition.relocate id = condition := by
  cases condition <;> simp [Condition.relocate]

mutual

@[simp] theorem ValueExpr.relocate_id : ∀ value : ValueExpr, value.relocate id = value
  | .operand o => by simp [ValueExpr.relocate]
  | .rawString _ _ => rfl
  | .array items _ => by simp [ValueExpr.relocate, ValueExpr.relocateAll_id items]
  | .conditional _ thenValue none _ => by
    simp [ValueExpr.relocate, ValueExpr.relocate_id thenValue]
  | .conditional _ thenValue (some elseValue) _ => by
    simp [ValueExpr.relocate, ValueExpr.relocate_id thenValue, ValueExpr.relocate_id elseValue]

@[simp] theorem ValueExpr.relocateAll_id : ∀ items : List ValueExpr,
    ValueExpr.relocateAll id items = items
  | [] => rfl
  | item :: items => by
    simp [ValueExpr.relocateAll, ValueExpr.relocate_id item, ValueExpr.relocateAll_id items]

end

mutual

@[simp] theorem Member.relocate_id : ∀ child : Member, child.relocate id = child
  | .field _ _ _ => by simp [Member.relocate]
  | .block _ children _ => by simp [Member.relocate, Member.relocateAll_id children]
  | .conditional _ children elseChildren _ => by
    simp [Member.relocate, Member.relocateAll_id children, Member.relocateAll_id elseChildren]

@[simp] theorem Member.relocateAll_id : ∀ children : List Member,
    Member.relocateAll id children = children
  | [] => rfl
  | child :: children => by
    simp [Member.relocateAll, Member.relocate_id child, Member.relocateAll_id children]

end

/-- A statement whose ranges are left alone is the same statement. -/
@[simp] theorem Statement.relocate_id (statement : Statement) :
    statement.relocate id = statement := by
  cases statement <;> simp [Statement.relocate]

/-! ### Trees that differ by a function of their ranges -/

section Relocated

variable {f : TextRange → TextRange}

theorem HostRef.Like.eq_relocate {ref ref' : HostRef}
    (h : ref.Like (.placed fun a b => b = f a) ref') : ref' = ref.relocate f := by
  cases h with
  | env hrange => cases hrange; rfl
  | sys hkey hrange => cases hkey; cases hrange; rfl

theorem Piece.Like.eq_relocate {piece piece' : Piece}
    (h : piece.Like (.placed fun a b => b = f a) piece') : piece' = piece.relocate f := by
  cases h with
  | text => rfl
  | ref href => rw [href.eq_relocate]; rfl

theorem Operand.Like.eq_relocate {operand operand' : Operand}
    (h : operand.Like (.placed fun a b => b = f a) operand') :
    operand' = operand.relocate f := by
  cases h with
  | literal hrange => cases hrange; rfl
  | interpolated hpieces hrange =>
    cases hrange
    rw [hpieces.eq_map fun _ _ h => h.eq_relocate]
    rfl
  | name hname hrange => cases hname; cases hrange; rfl
  | path hhead hnext hrest hrange =>
    cases hhead
    cases hnext
    cases hrange
    rw [hrest.eq_map (g := id) fun _ _ h => h.symm, List.map_id]
    rfl
  | host href => rw [href.eq_relocate]; rfl

theorem Condition.Like.eq_relocate {condition condition' : Condition}
    (h : condition.Like (.placed fun a b => b = f a) condition') :
    condition' = condition.relocate f := by
  cases h with
  | equality hleft hright hrange =>
    cases hrange
    rw [hleft.eq_relocate, hright.eq_relocate]
    rfl
  | presence hoperand hrange => cases hrange; rw [hoperand.eq_relocate]; rfl

mutual

theorem ValueExpr.Like.eq_relocate : ∀ {value value' : ValueExpr},
    value.Like (.placed fun a b => b = f a) value' → value' = value.relocate f
  | .operand _, _, .operand hoperand => by rw [hoperand.eq_relocate]; rfl
  | .rawString _ _, _, .rawString hrange => by cases hrange; rfl
  | .array items _, _, .array hitems hrange => by
    cases hrange
    rw [ValueExpr.Like.eq_relocateAll hitems]
    rfl
  | .conditional _ thenValue none _, _, .choice hcondition hthen hrange => by
    cases hrange
    rw [hcondition.eq_relocate, ValueExpr.Like.eq_relocate hthen]
    rfl
  | .conditional _ thenValue (some elseValue) _, _, .choiceElse hcondition hthen helse hrange => by
    cases hrange
    rw [hcondition.eq_relocate, ValueExpr.Like.eq_relocate hthen, ValueExpr.Like.eq_relocate helse]
    rfl

theorem ValueExpr.Like.eq_relocateAll : ∀ {items items' : List ValueExpr},
    List.Forall₂ (ValueExpr.Like (.placed fun a b => b = f a)) items items' →
      items' = ValueExpr.relocateAll f items
  | [], _, .nil => rfl
  | item :: items, _, .cons hitem hitems => by
    rw [ValueExpr.Like.eq_relocate hitem, ValueExpr.Like.eq_relocateAll hitems]
    rfl

end

mutual

theorem Member.Like.eq_relocate : ∀ {child child' : Member},
    child.Like (.placed fun a b => b = f a) child' → child' = child.relocate f
  | .field _ _ _, _, .field hname hvalue hrange => by
    cases hname
    cases hrange
    rw [hvalue.eq_relocate]
    rfl
  | .block _ children _, _, .block hname hchildren hrange => by
    cases hname
    cases hrange
    rw [Member.Like.eq_relocateAll hchildren]
    rfl
  | .conditional _ children elseChildren _, _,
    .conditional hcondition hchildren helse hrange => by
    cases hrange
    rw [hcondition.eq_relocate, Member.Like.eq_relocateAll hchildren,
      Member.Like.eq_relocateAll helse]
    rfl

theorem Member.Like.eq_relocateAll : ∀ {children children' : List Member},
    List.Forall₂ (Member.Like (.placed fun a b => b = f a)) children children' →
      children' = Member.relocateAll f children
  | [], _, .nil => rfl
  | child :: children, _, .cons hchild hchildren => by
    rw [Member.Like.eq_relocate hchild, Member.Like.eq_relocateAll hchildren]
    rfl

end

/-- A statement that differs from another in its ranges, by a function, is that statement
at another place. -/
theorem Statement.Like.eq_relocate {statement statement' : Statement}
    (h : statement.Like (.placed fun a b => b = f a) statement') :
    statement' = statement.relocate f := by
  cases h with
  | global hname hvalue hrange =>
    cases hname
    cases hrange
    rw [hvalue.eq_relocate]
    rfl
  | metadata hkey hvalue hrange =>
    cases hkey
    cases hrange
    rw [hvalue.eq_relocate]
    rfl
  | block hname hchildren hrange =>
    cases hname
    cases hrange
    rw [Member.Like.eq_relocateAll hchildren]
    rfl
  | @gather gather gather' hgather =>
    obtain ⟨hpath, hname, hrange, hexplicit⟩ := hgather
    cases gather'
    cases gather
    cases hpath
    cases hname
    cases hrange
    cases hexplicit
    rfl

/-- A document that differs from another in its ranges, by a function, is that document at
another place. -/
theorem Document.Like.eq_relocate {document document' : Document}
    (h : Document.Like (.placed fun a b => b = f a) document document') :
    document' = document.map (Statement.relocate f) :=
  h.eq_map fun _ _ h => h.eq_relocate

end Relocated

/-- Documents that differ in nothing are the same. -/
theorem Document.Like.eq {document document' : Document}
    (h : Document.Like (.placed fun a b => b = a) document document') : document' = document := by
  have hid : Statement.relocate id = id := funext Statement.relocate_id
  have := h.eq_relocate (f := id)
  rwa [hid, List.map_id] at this

end Rune
