import Rune.Tree.Basic

/-!
# Rune - trees without places

Two documents may be the same apart from where their parts stand.  Without its places a
tree has one and the same range everywhere; trees are alike if they are equal without
their places.

Main results:

- Definitions {lit}`ValueExpr.unplaced`, {lit}`Member.unplaced` and
  {lit}`Statement.unplaced` take the places off a tree.
-/

namespace Rune

/-- The range of everything that has no place. -/
def TextRange.nowhere : TextRange := .empty 0

open TextRange (nowhere)

namespace HostRef

/-- A reference without its place. -/
def unplaced : HostRef → HostRef
  | .env name _ => .env name nowhere
  | .sys key _ => .sys key nowhere

end HostRef

/-- A piece of a string without its place. -/
def Piece.unplaced : Piece → Piece
  | .text part => .text part
  | .ref r => .ref r.unplaced

namespace Operand

/-- An operand without its place. -/
def unplaced : Operand → Operand
  | .literal value _ => .literal value nowhere
  | .interpolated pieces _ => .interpolated (pieces.map Piece.unplaced) nowhere
  | .name spelled _ => .name spelled nowhere
  | .path head next rest _ => .path head next rest nowhere
  | .host ref => .host ref.unplaced

@[simp] theorem isHost_unplaced (operand : Operand) : operand.unplaced.isHost = operand.isHost := by
  cases operand <;> rfl

end Operand

/-- A condition without its place. -/
def Condition.unplaced : Condition → Condition
  | .equality left right _ => .equality left.unplaced right.unplaced nowhere
  | .presence operand _ => .presence operand.unplaced nowhere

namespace ValueExpr

mutual

/-- An expression without its place. -/
def unplaced : ValueExpr → ValueExpr
  | .operand o => .operand o.unplaced
  | .rawString pattern _ => .rawString pattern nowhere
  | .array items _ => .array (unplacedAll items) nowhere
  | .conditional condition thenValue elseValue _ =>
    .conditional condition.unplaced (unplaced thenValue) (unplacedOption elseValue) nowhere

/-- Several expressions without their places. -/
def unplacedAll : List ValueExpr → List ValueExpr
  | [] => []
  | expr :: exprs => unplaced expr :: unplacedAll exprs

/-- An expression that may be absent, without its place. -/
def unplacedOption : Option ValueExpr → Option ValueExpr
  | none => none
  | some expr => some (unplaced expr)

end

end ValueExpr

namespace Member

mutual

/-- A member without its place. -/
def unplaced : Member → Member
  | .field name value _ => .field name value.unplaced nowhere
  | .block name children _ => .block name (unplacedAll children) nowhere
  | .conditional condition thenChildren elseChildren _ =>
    .conditional condition.unplaced (unplacedAll thenChildren) (unplacedAll elseChildren) nowhere

/-- Several members without their places. -/
def unplacedAll : List Member → List Member
  | [] => []
  | child :: children => unplaced child :: unplacedAll children

end

end Member

/-- A gather without its place. -/
def Gather.unplaced (g : Gather) : Gather := { g with range := nowhere }

/-- A statement without its place. -/
def Statement.unplaced : Statement → Statement
  | .global name value _ => .global name value.unplaced nowhere
  | .metadata key value _ => .metadata key value.unplaced nowhere
  | .block name children _ => .block name (Member.unplacedAll children) nowhere
  | .gather g => .gather g.unplaced

end Rune
