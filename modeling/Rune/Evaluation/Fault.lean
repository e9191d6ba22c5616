import Rune.Config.Basic
import Rune.Pattern.Cache

/-!
# Rune - faults of evaluation

A value cannot be evaluated because a reference leads nowhere, because a condition
compares what cannot be compared, or because a pattern cannot be read.  Apart from
these faults, a value may depend on itself.

Main results:

- Type {lit}`EvaluationFault` lists the faults, and a {lit}`Flaw` is a fault at a range or a
  value that depends on itself.
- Definition {lit}`Flaw.failure` is the failure that a flaw of a document causes.
-/

namespace Rune

/-- A top-level binding that references can lead to. -/
inductive Slot where
  | global (name : String)
  | item (name : String)
  deriving DecidableEq

/-- The name of the binding in a slot. -/
def Slot.name : Slot → String
  | .global name | .item name => name

/-- Why a value cannot be evaluated.  References are shown as they were written. -/
inductive EvaluationFault where
  /-- A name stands for nothing. -/
  | unresolved (name : String)
  /-- The head of a dotted reference stands for nothing. -/
  | unknownHead (segments : List String) (head : String)
  /-- A gathered configuration has no such member. -/
  | undefinedMember (segments : List String) (head member : String)
  /-- The value reached so far has no such key. -/
  | missingKey (segments walked : List String) (key : String)
  | unknownSystemKey (key : String)
  /-- The system does not know a fact. -/
  | unavailable (key : String)
  | incomparable (left right : ValueKind)
  | badPattern (fault : RegexFault) (pattern : String)
  deriving DecidableEq

namespace EvaluationFault

/-- The spelling of a dotted reference. -/
def dotted (segments : List String) : String := ".".intercalate segments

/-- The complaint of a fault; that of a pattern is worded when it is placed. -/
def complaint : EvaluationFault → Complaint
  | .unresolved name => .worded .unresolvedReference s!"Unresolved reference `{name}`"
  | .unknownHead segments head =>
    let shown := dotted segments
    .worded .unknownAlias s!"Unknown import alias or name `{head}` in `{shown}`"
  | .undefinedMember segments head member =>
    let shown := dotted segments
    .worded .unresolvedReference
      s!"Unresolved reference `{shown}`: `{member}` is not defined in `{head}`"
  | .missingKey segments walked key =>
    let shown := dotted segments
    let reached := dotted walked
    .worded .unresolvedReference
      s!"Unresolved reference `{shown}`: `{reached}` has no key `{key}`"
  | .unknownSystemKey key => .worded .unknownSystemKey s!"Unknown $sys key `{key}`"
  | .unavailable key =>
    .worded .unresolvedReference s!"Unable to resolve $sys.{key} on this host"
  | .incomparable left right =>
    let kinds := s!"{left.name} with {right.name}"
    .worded .typeMismatch s!"Cannot compare {kinds}"
  | .badPattern _ _ => .standing .badPattern

end EvaluationFault

/-- What stops the evaluation of a document, at a range of it. -/
inductive Flaw where
  | fault (fault : EvaluationFault) (range : TextRange)
  /-- A value depends on itself: the slots on the way, the repeated one at both
  ends. -/
  | cycle (chain : List Slot) (range : TextRange)
  deriving DecidableEq

/-- The complaint about a value that depends on itself. -/
def cycleComplaint (chain : List Slot) : Complaint :=
  let names := " -> ".intercalate (chain.map Slot.name)
  .worded .referenceCycle s!"Reference cycle detected: {names}"

/-- The failure that a flaw causes, told with the text of its document. -/
def Flaw.failure (source : Source) : Flaw → Failure
  | .cycle chain range => .unresolved (source.diagnose (cycleComplaint chain) range)
  | .fault cause range =>
    let diagnose (complaint : Complaint) := source.diagnose complaint range
    match cause with
    | .badPattern reason pattern => reason.failure diagnose pattern
    | .incomparable _ _ => .typeMismatch (diagnose cause.complaint)
    | _ => .unresolved (diagnose cause.complaint)

end Rune
