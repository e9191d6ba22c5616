import Rune.Failure

/-!
# Rune - failures of one kind

Two runs may fail for the same reason and tell it of different places.  What they tell
may differ as far as a relation between their diagnostics says; the kind of the failure
and what it carries besides may not.  Questions apart, whose failures tell the path as it
was asked for.

Main results:

- Relation {lit}`Failure.Alike` holds of failures of one kind.
- Relations {lit}`Diagnostic.SameCode` and {lit}`Diagnostic.SameWords` say what two
  diagnostics may share.
-/

namespace Rune

/-- Two failures are of one kind, and their diagnostics are related. -/
inductive Failure.Alike (same : Diagnostic → Diagnostic → Prop) : Failure → Failure → Prop
  | lexical {d d' : Diagnostic} (h : same d d') : Alike same (.lexical d) (.lexical d')
  | grammatical {d d' : Diagnostic} (h : same d d') : Alike same (.grammatical d) (.grammatical d')
  | importNotFound {d d' : Diagnostic} (h : same d d') :
    Alike same (.importNotFound d) (.importNotFound d')
  | importCycle {d d' : Diagnostic} (h : same d d') (chain : List String) :
    Alike same (.importCycle d chain) (.importCycle d' chain)
  | unresolved {d d' : Diagnostic} (h : same d d') : Alike same (.unresolved d) (.unresolved d')
  | typeMismatch {d d' : Diagnostic} (h : same d d') :
    Alike same (.typeMismatch d) (.typeMismatch d')
  | badPattern {d d' : Diagnostic} (h : same d d') (pattern : String) :
    Alike same (.badPattern d pattern) (.badPattern d' pattern)
  | queryNotFound {d d' : Diagnostic} (h : same d d') (path path' : String) :
    Alike same (.queryNotFound d path) (.queryNotFound d' path')
  | queryType {d d' : Diagnostic} (h : same d d') (path path' : String) :
    Alike same (.queryType d path) (.queryType d' path')
  | validation {d d' : Diagnostic} (h : same d d') : Alike same (.validation d) (.validation d')
  | fault (fault : Fault) : Alike same (.fault fault) (.fault fault)

/-- A failure is of its own kind. -/
theorem Failure.Alike.refl {same : Diagnostic → Diagnostic → Prop} (h : ∀ d, same d d)
    (failure : Failure) : failure.Alike same failure := by
  cases failure <;> constructor <;> exact h _

namespace Diagnostic

/-- Two diagnostics are of one code. -/
def SameCode (d d' : Diagnostic) : Prop := d'.code = d.code

theorem SameCode.refl (d : Diagnostic) : d.SameCode d := rfl

/-- Two diagnostics say the same, perhaps of different places. -/
def SameWords (d d' : Diagnostic) : Prop := d'.code = d.code ∧ d'.message = d.message

end Diagnostic

end Rune
