import Rune.Number.Basic
import Rune.Text.Range

/-!
# Rune - documents as trees

A document is a list of statements: global bindings, metadata, object blocks
and gathers.  Values and the members of blocks nest; the operands of conditions
do not.

Main results:

- Types {lit}`Operand`, {lit}`ValueExpr`, {lit}`Condition`, {lit}`Member` and
  {lit}`Statement` are the nodes of the tree; every node knows its range.
-/

namespace Rune

/-- A literal that stands for itself. -/
inductive Scalar where
  | text (value : String)
  | number (value : Number)
  | bool (value : Bool)
  | null
  deriving DecidableEq

/-- A reference to the environment or to a fact about the host. -/
inductive HostRef where
  | env (name : String) (range : TextRange)
  | sys (key : String) (range : TextRange)
  deriving DecidableEq

namespace HostRef

/-- The range of a reference. -/
def range : HostRef → TextRange
  | .env _ range | .sys _ range => range

end HostRef

/-- A piece of a string in which references stand. -/
inductive Piece where
  | text (value : String)
  | ref (ref : HostRef)
  deriving DecidableEq

/-- A value without parts: all that a condition may compare. -/
inductive Operand where
  | literal (value : Scalar) (range : TextRange)
  | interpolated (pieces : List Piece) (range : TextRange)
  | name (name : String) (range : TextRange)
  /-- A dotted reference: a head, the segment after it, and more segments. -/
  | path (head next : String) (rest : List String) (range : TextRange)
  | host (ref : HostRef)
  deriving DecidableEq

namespace Operand

/-- The range of an operand. -/
def range : Operand → TextRange
  | .literal _ range | .interpolated _ range | .name _ range | .path _ _ _ range => range
  | .host ref => ref.range

/-- Whether an operand is a reference to the host. -/
def isHost : Operand → Bool
  | .host _ => true
  | _ => false

end Operand

/-- A condition: two operands are equal, or one operand is there. -/
inductive Condition where
  | equality (left right : Operand) (range : TextRange)
  | presence (operand : Operand) (range : TextRange)
  deriving DecidableEq

namespace Condition

/-- The range of a condition. -/
def range : Condition → TextRange
  | .equality _ _ range | .presence _ range => range

end Condition

/-- A value expression. -/
inductive ValueExpr where
  | operand (operand : Operand)
  | rawString (pattern : String) (range : TextRange)
  | array (items : List ValueExpr) (range : TextRange)
  /-- A choice between two values; without a second one it is null. -/
  | conditional (condition : Condition) (thenValue : ValueExpr) (elseValue : Option ValueExpr)
      (range : TextRange)

namespace ValueExpr

/-- The range of a value expression. -/
def range : ValueExpr → TextRange
  | .operand o => o.range
  | .rawString _ range | .array _ range | .conditional _ _ _ range => range

end ValueExpr

/-- A member of an object block. -/
inductive Member where
  | field (name : String) (value : ValueExpr) (range : TextRange)
  | block (name : String) (children : List Member) (range : TextRange)
  | conditional (condition : Condition) (thenChildren elseChildren : List Member)
      (range : TextRange)

/-- A directive that gathers another file.  Without an alias of its own the
gathered bindings are also included. -/
structure Gather where
  path : String
  aliasName : String
  range : TextRange
  explicitAlias : Bool
  deriving DecidableEq

/-- A statement of a document. -/
inductive Statement where
  | global (name : String) (value : ValueExpr) (range : TextRange)
  | metadata (key : String) (value : ValueExpr) (range : TextRange)
  | block (name : String) (children : List Member) (range : TextRange)
  | gather (gather : Gather)

/-- The statements of a document, in source order. -/
abbrev Document := List Statement

namespace Document

/-- The gathers of a document. -/
def gathers (document : Document) : List Gather :=
  document.filterMap fun
    | .gather g => some g
    | _ => none

/-- The names of the global bindings of a document. -/
def globalNames (document : Document) : List String :=
  document.filterMap fun
    | .global name _ _ => some name
    | _ => none

end Document

end Rune
