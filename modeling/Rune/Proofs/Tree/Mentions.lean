import Rune.Tree.Basic
import Rune.Value.Key

/-!
# Rune - what a tree mentions

The value of an expression depends on what stands in the places of the names that it
mentions, and it can fail over the patterns in it.

Main results:

- Definitions {lit}`ValueExpr.mentions`, {lit}`Member.mentions` and
  {lit}`Statement.mentions` list the names and the patterns of a tree.
- Definition {lit}`Document.mentions` lists those of a whole document.
-/

namespace Rune

/-- What a tree mentions: a name, in canonical spelling, or a pattern. -/
inductive Mention where
  | name (key : String)
  | pattern (source : String)
  deriving DecidableEq

/-- The name that an operand begins with. -/
def Operand.mentions : Operand → List Mention
  | .name spelled _ => [.name (Key.canonical spelled)]
  | .path head _ _ _ => [.name (Key.canonical head)]
  | _ => []

/-- The names in a condition. -/
def Condition.mentions : Condition → List Mention
  | .presence operand _ => operand.mentions
  | .equality left right _ => left.mentions ++ right.mentions

namespace ValueExpr

mutual

/-- The names and the patterns in an expression. -/
def mentions : ValueExpr → List Mention
  | .operand o => o.mentions
  | .rawString pattern _ => [.pattern pattern]
  | .array items _ => mentionsOfAll items
  | .conditional condition thenValue elseValue _ =>
    condition.mentions ++ mentions thenValue ++ mentionsOfOption elseValue

/-- The names and the patterns in several expressions. -/
def mentionsOfAll : List ValueExpr → List Mention
  | [] => []
  | expr :: exprs => mentions expr ++ mentionsOfAll exprs

/-- The names and the patterns in an expression that may be absent. -/
def mentionsOfOption : Option ValueExpr → List Mention
  | none => []
  | some expr => mentions expr

end

end ValueExpr

namespace Member

mutual

/-- The names and the patterns in a member. -/
def mentions : Member → List Mention
  | .field _ expr _ => expr.mentions
  | .block _ children _ => mentionsOfAll children
  | .conditional condition thenChildren elseChildren _ =>
    condition.mentions ++ mentionsOfAll thenChildren ++ mentionsOfAll elseChildren

/-- The names and the patterns in several members. -/
def mentionsOfAll : List Member → List Mention
  | [] => []
  | child :: children => mentions child ++ mentionsOfAll children

end

end Member

/-- The names and the patterns in a statement. -/
def Statement.mentions : Statement → List Mention
  | .global _ expr _ | .metadata _ expr _ => expr.mentions
  | .block _ children _ => Member.mentionsOfAll children
  | .gather _ => []

/-- The names and the patterns in a document. -/
def Document.mentions (document : Document) : List Mention := document.flatMap Statement.mentions

end Rune
