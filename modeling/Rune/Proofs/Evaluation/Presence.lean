import Rune.Proofs.Evaluation.Lookup
import Rune.Proofs.Evaluation.Raising
import Rune.Proofs.Tree.Operands

/-!
# Rune - whether a reference is there

A condition that asks whether a reference is there probes the reference.  Probing finds what
evaluating the reference comes to, and nothing where the reference itself leads nowhere.  Faults
and cycles of the bindings on the way are not passed over.

Whether a reference itself leads nowhere can be told from the failure: its code is that of an
unresolved reference or an unknown alias, and its range that of the reference.  The bindings on
the way are not pending, so that their faults stand in other statements.

Main results:

- Theorem {lit}`Evaluation.probe_cases`: what evaluating and probing a reference come to, in any
  state.
- Theorem {lit}`Evaluation.probe_agrees`: probing a reference of a document that was parsed.
-/

namespace Rune

namespace Evaluation

/-! ## Any state -/

/-- The value that a reference led to, or its fault. -/
def giving {m : Type → Type} [Monad m] (effects : Effects m) (range : TextRange) :
    Except EvaluationFault Value → m Value
  | .ok value => pure value
  | .error fault => effects.fail fault range

section

variable {m : Type → Type} [Monad m] {scope : Scope} {effects : Effects m} {siblings : Siblings}

/-- A name that stands for something has a value at hand or refers to a binding. -/
theorem nameValue_cases {name : String} (h : isBound scope siblings (Key.canonical name) = true)
    (range : TextRange) :
    (∃ value, nameValue scope effects siblings name range = pure value) ∨
      ∃ slot, scope.Binds slot ∧
        nameValue scope effects siblings name range = effects.force slot range := by
  unfold nameValue
  dsimp only
  unfold isBound at h
  cases hsibling : sibling? siblings (Key.canonical name) with
  | some value => exact .inl ⟨value, rfl⟩
  | none =>
    cases hslot : scope.slot? (Key.canonical name) with
    | some slot => exact .inr ⟨slot, Scope.binds_of_slot? hslot, rfl⟩
    | none =>
      cases hincluded : scope.included? (Key.canonical name) with
      | some value => exact .inl ⟨value, rfl⟩
      | none => simp [hsibling, hslot, hincluded] at h

/-- A name that stands for nothing is unresolved. -/
theorem nameValue_of_not_isBound {name : String}
    (h : isBound scope siblings (Key.canonical name) = false) (range : TextRange) :
    nameValue scope effects siblings name range = effects.fail (.unresolved name) range := by
  simp only [isBound, Bool.or_eq_false_iff, Option.isSome_eq_false_iff,
    Option.isNone_iff_eq_none] at h
  simp only [nameValue, h]

/-- What a reference leads to is at hand, or it is led to by the value of a binding.  Evaluating
and probing the reference differ in what they do if it leads nowhere, and in nothing else. -/
inductive Refers (scope : Scope) (effects : Effects m) (siblings : Siblings) (operand : Operand) :
    Prop
  | given (led : Except EvaluationFault Value)
      (hfault : ∀ fault, led = .error fault → fault.IsLookup)
      (hvalue : operandValue scope effects siblings operand = giving effects operand.range led)
      (hprobe : probe scope effects siblings operand = pure led.toOption)
  | forced (slot : Slot) (led : Value → Except EvaluationFault Value) (hslot : scope.Binds slot)
      (hfault : ∀ value fault, led value = .error fault → fault.IsLookup)
      (hvalue : operandValue scope effects siblings operand =
        effects.force slot operand.range >>= fun value => giving effects operand.range (led value))
      (hprobe : probe scope effects siblings operand =
        effects.force slot operand.range >>= fun value => pure (led value).toOption)

/-- Going down a value leads nowhere if a key is missing. -/
theorem isLookup_of_descend {segments walked keys : List String} {value : Value}
    {fault : EvaluationFault} (h : descend segments walked keys value = .error fault) :
    fault.IsLookup := by
  obtain ⟨reached, key, rfl⟩ := descend_eq_error h
  trivial

variable [LawfulMonad m]

/-- A name refers to what it stands for. -/
theorem refers_name (name : String) (range : TextRange) :
    Refers scope effects siblings (.name name range) := by
  cases hbound : isBound scope siblings (Key.canonical name) with
  | false =>
    refine .given (.error (.unresolved name)) ?_ (nameValue_of_not_isBound hbound range) ?_
    · rintro _ ⟨⟩
      trivial
    · simp only [probe, hbound]
      rfl
  | true =>
    rcases @nameValue_cases _ _ _ effects _ _ hbound range with
      ⟨value, hvalue⟩ | ⟨slot, hslot, hvalue⟩
    · refine .given (.ok value) ?_ hvalue ?_
      · rintro _ ⟨⟩
      · simp only [probe, hbound, if_true, hvalue, pure_bind]
        rfl
    · refine .forced slot .ok hslot ?_ (hvalue.trans (bind_pure _).symm) ?_
      · rintro _ _ ⟨⟩
      · simp only [probe, hbound, if_true, hvalue]
        rfl

/-- A dotted reference refers to what its head leads to. -/
theorem refers_path (head next : String) (rest : List String) (range : TextRange) :
    Refers scope effects siblings (.path head next rest range) := by
  have given (led : Except EvaluationFault Value)
      (hfault : ∀ fault, led = .error fault → fault.IsLookup)
      (hled : pathValue scope effects siblings head next rest range = pure led) :
      Refers scope effects siblings (.path head next rest range) := by
    refine .given led hfault ?_ ?_
    · simp only [operandValue, hled, pure_bind]
      cases led <;> rfl
    · simp only [probe, hled, pure_bind]
      cases led <;> rfl
  cases halias : Entries.get? (Key.canonical head) scope.aliases with
  | some config =>
    cases hmember : config.member? next with
    | some value =>
      refine given (descend (head :: next :: rest) [head, next] rest value)
        (fun fault => isLookup_of_descend) ?_
      simp only [pathValue, halias, hmember]
    | none =>
      refine given (.error (.undefinedMember (head :: next :: rest) head next)) ?_ ?_
      · rintro _ ⟨⟩
        trivial
      · simp only [pathValue, halias, hmember]
  | none =>
    cases hbound : isBound scope siblings (Key.canonical head) with
    | false =>
      refine given (.error (.unknownHead (head :: next :: rest) head)) ?_ ?_
      · rintro _ ⟨⟩
        trivial
      · simp only [pathValue, halias, hbound]
        rfl
    | true =>
      let led (value : Value) := descend (head :: next :: rest) [head] (next :: rest) value
      rcases @nameValue_cases _ _ _ effects _ _ hbound range with
        ⟨value, hvalue⟩ | ⟨slot, hslot, hvalue⟩
      · refine given (led value) (fun fault => isLookup_of_descend) ?_
        simp only [pathValue, halias, hbound, if_true, hvalue, pure_bind, led]
      · have hpath : pathValue scope effects siblings head next rest range =
            effects.force slot range >>= fun value => pure (led value) := by
          simp only [pathValue, halias, hbound, if_true, hvalue, led]
        refine .forced slot led hslot (fun value fault => isLookup_of_descend) ?_ ?_
        · simp only [operandValue, hpath, bind_assoc, pure_bind]
          refine congrArg _ (funext fun value => ?_)
          cases led value <;> rfl
        · simp only [probe, hpath, bind_assoc, pure_bind]
          refine congrArg _ (funext fun value => ?_)
          cases led value <;> rfl

/-- Every reference refers to something or leads nowhere. -/
theorem refers {operand : Operand} (href : operand.IsReference) :
    Refers scope effects siblings operand := by
  cases operand with
  | literal | interpolated | host => exact href.elim
  | name name range => exact refers_name name range
  | path head next rest range => exact refers_path head next rest range

end

/-- In any state there are three cases.  A reference comes to a value, and so does probing it; or
it leads nowhere itself, and probing it finds nothing; or a binding on the way stops both of
them alike. -/
theorem probe_cases {scope : Scope} {force : Slot → TextRange → Eval Value} {siblings : Siblings}
    {operand : Operand} (href : operand.IsReference) (memory : Memory) :
    let value := operandValue scope (effects scope force) siblings operand memory
    let found := probe scope (effects scope force) siblings operand memory
    (∃ result after, value = .ok result after ∧ found = .ok (some result) after) ∨
    (∃ fault after, fault.IsLookup ∧ value = .error (.fault fault operand.range) after ∧
      found = .ok none after) ∨
    ∃ slot flaw after, scope.Binds slot ∧ force slot operand.range memory = .error flaw after ∧
      value = .error flaw after ∧ found = .error flaw after := by
  have settle (led : Except EvaluationFault Value)
      (hfault : ∀ fault, led = .error fault → fault.IsLookup) (after : Memory) :
      (∃ result, giving (effects scope force) operand.range led after = .ok result after ∧
        led.toOption = some result) ∨
      ∃ fault, fault.IsLookup ∧ giving (effects scope force) operand.range led after =
        .error (.fault fault operand.range) after ∧ led.toOption = none := by
    cases led with
    | ok result => exact .inl ⟨result, rfl, rfl⟩
    | error fault => exact .inr ⟨fault, hfault fault rfl, rfl, rfl⟩
  dsimp only
  cases @refers Eval _ scope (effects scope force) siblings _ operand href with
  | given led hfault hvalue hprobe =>
    rw [hvalue, hprobe]
    rcases settle led hfault memory with ⟨result, hgives, hled⟩ | ⟨fault, hlookup, hgives, hled⟩
    · exact .inl ⟨result, memory, hgives, congrArg (EStateM.Result.ok · memory) hled⟩
    · exact .inr (.inl ⟨fault, memory, hlookup, hgives, congrArg (EStateM.Result.ok · memory) hled⟩)
  | forced slot led hslot hfault hvalue hprobe =>
    rw [hvalue, hprobe]
    simp only [bind, EStateM.bind]
    cases hforce : (effects scope force).force slot operand.range memory with
    | error flaw after => exact .inr (.inr ⟨slot, flaw, after, hslot, hforce, rfl, rfl⟩)
    | ok value after =>
      rcases settle (led value) (hfault value) after with
        ⟨result, hgives, hled⟩ | ⟨fault, hlookup, hgives, hled⟩
      · exact .inl ⟨result, after, hgives, congrArg (EStateM.Result.ok · after) hled⟩
      · exact .inr (.inl ⟨fault, after, hlookup, hgives,
          congrArg (EStateM.Result.ok · after) hled⟩)

end Evaluation

/-! ## Documents that were parsed -/

/-- The slot of the binding that a statement is. -/
def Statement.slot? : Statement → Option Slot
  | .global name _ _ => some (.global (Key.canonical name))
  | .block name _ _ => some (.item (Key.canonical name))
  | .metadata _ _ _ | .gather _ => none

/-- An operand stands in the body of a binding that is pending, or in metadata.  Evaluation comes
to no other operands: a binding is pending before its body is evaluated. -/
inductive Scope.Reads (scope : Scope) (pending : List Slot) (operand : Operand) : Prop
  | global {name : String} {bound : ValueExpr × TextRange} (hpending : .global name ∈ pending)
      (hbound : Entries.get? name scope.globals = some bound)
      (hoperand : operand ∈ bound.1.operands)
  | item {name : String} {bound : List Member × TextRange} (hpending : .item name ∈ pending)
      (hbound : Entries.get? name scope.items = some bound)
      (hoperand : operand ∈ Member.operandsOfAll bound.1)
  | metadata {bound : String × ValueExpr × TextRange} (hbound : bound ∈ scope.metadata)
      (hoperand : operand ∈ bound.2.1.operands)

/-- A flaw is told as a reference that leads nowhere: its code is that of an unresolved
reference or an unknown alias, and its range that of the reference. -/
def Flaw.IsOwn (source : Source) (operand : Operand) (flaw : Flaw) : Prop :=
  ∃ d, (flaw.failure source).diagnostic? = some d ∧ d.range = operand.range ∧
    (d.code = DiagnosticSpec.unresolvedReference.code ∨
      d.code = DiagnosticSpec.unknownAlias.code)

/-- The fault of a reference that leads nowhere is its own. -/
theorem Flaw.isOwn_of_isLookup {fault : EvaluationFault} (h : fault.IsLookup) (source : Source)
    (operand : Operand) : (Flaw.fault fault operand.range).IsOwn source operand := by
  refine ⟨source.diagnose fault.complaint operand.range, ?_, rfl, ?_⟩
  · rw [failure_of_isLookup h]
    rfl
  · cases fault with
    | unresolved | undefinedMember | missingKey => exact .inl rfl
    | unknownHead => exact .inr rfl
    | unknownSystemKey | unavailable | incomparable | badPattern => exact h.elim

/-- What is told as a reference that leads nowhere is a fault at its range. -/
theorem Flaw.IsOwn.exists_fault {source : Source} {operand : Operand} {flaw : Flaw}
    (h : flaw.IsOwn source operand) : ∃ fault, flaw = .fault fault operand.range := by
  obtain ⟨d, hd, hrange, hcode⟩ := h
  cases flaw with
  | fault fault range =>
    obtain ⟨complaint, rfl⟩ := exists_diagnose hd
    exact ⟨fault, congrArg _ hrange⟩
  | cycle chain range =>
    cases hd
    have hunresolved :
        DiagnosticSpec.referenceCycle.code ≠ DiagnosticSpec.unresolvedReference.code := by decide
    have hunknown : DiagnosticSpec.referenceCycle.code ≠ DiagnosticSpec.unknownAlias.code := by
      decide
    exact hcode.elim (fun h => absurd h hunresolved) fun h => absurd h hunknown

namespace Scope

variable {source : Source} {services : Services} {document : Document} {aliases : Entries Config}
  {pending : List Slot} {operand : Operand}

/-- The bindings of a document that was parsed lie inside their statements. -/
theorem nested_ofDocument (hparse : source.parse = .ok document) :
    (ofDocument source services document aliases).Nested := by
  have hnested := (Source.nested_of_parse hparse).1
  constructor
  case globals =>
    intro name bound hbound
    obtain ⟨spelled, hstatement, -⟩ := exists_of_mem_globalsOf (Entries.mem_of_get? hbound)
    obtain ⟨hvalue, hinside⟩ := hnested _ hstatement
    exact ⟨hvalue, hinside.within _ List.mem_cons_self⟩
  case items =>
    intro name bound hbound child hchild
    obtain ⟨spelled, hstatement, -⟩ := exists_of_mem_itemsOf (Entries.mem_of_get? hbound)
    obtain ⟨hchildren, hinside⟩ := hnested _ hstatement
    exact ⟨hchildren child hchild, hinside.within _ (List.mem_map_of_mem hchild)⟩

/-- The range of a slot is that of a statement. -/
theorem exists_of_range? {slot : Slot} {outer : TextRange}
    (h : (ofDocument source services document aliases).range? slot = some outer) :
    ∃ statement ∈ document, statement.slot? = some slot ∧ statement.range = outer := by
  cases slot with
  | global name =>
    obtain ⟨bound, hbound, rfl⟩ := Option.map_eq_some_iff.1 h
    obtain ⟨spelled, hstatement, rfl⟩ := exists_of_mem_globalsOf (Entries.mem_of_get? hbound)
    exact ⟨_, hstatement, rfl, rfl⟩
  | item name =>
    obtain ⟨bound, hbound, rfl⟩ := Option.map_eq_some_iff.1 h
    obtain ⟨spelled, hstatement, rfl⟩ := exists_of_mem_itemsOf (Entries.mem_of_get? hbound)
    exact ⟨_, hstatement, rfl, rfl⟩

/-- An operand that is read stands in a statement whose binding is pending, if it is one. -/
theorem Reads.exists_statement
    (h : (ofDocument source services document aliases).Reads pending operand) :
    ∃ statement ∈ document, operand ∈ statement.operands ∧
      ∀ slot, statement.slot? = some slot → slot ∈ pending := by
  cases h with
  | global hpending hbound hoperand =>
    obtain ⟨spelled, hstatement, rfl⟩ := exists_of_mem_globalsOf (Entries.mem_of_get? hbound)
    refine ⟨_, hstatement, hoperand, ?_⟩
    rintro _ ⟨⟩
    exact hpending
  | item hpending hbound hoperand =>
    obtain ⟨spelled, hstatement, rfl⟩ := exists_of_mem_itemsOf (Entries.mem_of_get? hbound)
    refine ⟨_, hstatement, hoperand, ?_⟩
    rintro _ ⟨⟩
    exact hpending
  | metadata hbound hoperand =>
    obtain ⟨spelled, hstatement, -⟩ := exists_of_mem_metadataOf hbound
    exact ⟨_, hstatement, hoperand, nofun⟩

/-- A fault inside a statement whose binding is not pending is not told as that of an operand
that is read: the operand stands in another statement. -/
theorem Reads.not_isOwn (hparse : source.parse = .ok document)
    (h : (ofDocument source services document aliases).Reads pending operand)
    (href : operand.IsReference) {flaw : Flaw}
    (hbeyond : flaw.Beyond (ofDocument source services document aliases) pending) :
    ¬ flaw.IsOwn source operand := by
  intro hown
  obtain ⟨fault, rfl⟩ := hown.exists_fault
  obtain ⟨slot, outer, hnew, hrange, hwithin⟩ := hbeyond
  obtain ⟨statement, hstatement, hoperand, hpending⟩ := h.exists_statement
  obtain ⟨other, hother, hslot, rfl⟩ := exists_of_range? hrange
  obtain ⟨hinside, hnonempty⟩ := Source.reference_within hparse hstatement hoperand href
  obtain rfl := Source.eq_of_within hparse hother hstatement hnonempty hwithin hinside
  exact hnew (hpending slot hslot)

end Scope

namespace Evaluation

/-- Probing a reference agrees with evaluating it, in whatever state of a document that was
parsed it is evaluated.  If it comes to a value, probing it finds that value.  If it fails with
the code of an unresolved reference or an unknown alias at its own range, probing it finds
nothing, and the condition that asks for it does not hold.  Every other failure stops the
probing as well. -/
theorem probe_agrees {source : Source} {document : Document} (hparse : source.parse = .ok document)
    (services : Services) (aliases : Entries Config) {pending : List Slot} {operand : Operand}
    (hreads : (Scope.ofDocument source services document aliases).Reads pending operand)
    (href : operand.IsReference) (fuel : Nat) (siblings : Siblings) (memory : Memory) :
    let scope := Scope.ofDocument source services document aliases
    let effects := effects scope (forceWith scope fuel pending)
    (∀ value after, operandValue scope effects siblings operand memory = .ok value after →
      probe scope effects siblings operand memory = .ok (some value) after) ∧
    ∀ flaw after, operandValue scope effects siblings operand memory = .error flaw after →
      (flaw.IsOwn source operand →
        probe scope effects siblings operand memory = .ok none after ∧
        ∀ range, holds scope effects siblings (.presence operand range) memory =
          .ok false after) ∧
      (¬ flaw.IsOwn source operand →
        probe scope effects siblings operand memory = .error flaw after) := by
  intro scope effects
  rcases @probe_cases scope (forceWith scope fuel pending) siblings operand href memory with
    ⟨result, last, hvalue, hfound⟩ | ⟨fault, last, hlookup, hvalue, hfound⟩ |
      ⟨slot, stop, last, hslot, hforce, hvalue, hfound⟩
  · refine ⟨fun value after h => ?_, fun flaw after h => ?_⟩
    · cases hvalue.symm.trans h
      exact hfound
    · cases hvalue.symm.trans h
  · refine ⟨fun value after h => ?_, fun flaw after h => ?_⟩
    · cases hvalue.symm.trans h
    · cases hvalue.symm.trans h
      refine ⟨fun _ => ⟨hfound, fun range => ?_⟩, fun hother => ?_⟩
      · exact bind_eq_ok_iff.2 ⟨none, last, hfound, rfl⟩
      · exact absurd (Flaw.isOwn_of_isLookup hlookup source operand) hother
  · refine ⟨fun value after h => ?_, fun flaw after h => ?_⟩
    · cases hvalue.symm.trans h
    · cases hvalue.symm.trans h
      have hbeyond : stop.Beyond scope pending :=
        forceWith_raises (Scope.nested_ofDocument hparse) fuel pending hslot operand.range memory
          stop last hforce
      exact ⟨fun hown => absurd hown (hreads.not_isOwn hparse href hbeyond), fun _ => hfound⟩

/-- The reference that the first conditional global binding of a document asks for. -/
def asked : Document → Option Operand
  | [] => none
  | .global _ (.conditional (.presence operand _) _ _ _) _ :: _ => some operand
  | _ :: statements => asked statements

/-- A condition that asks for a key that an item does not have, while the binding around it is
pending. -/
theorem probe_agrees_missing :
    let source := Source.ofText "a:\n  b 1\nend\nx if (a.c) true else false\n"
    let services := Services.ofStore []
    ∃ document operand flaw after, source.parse = .ok document ∧ asked document = some operand ∧
      let scope := Scope.ofDocument source services document []
      let effects := effects scope (forceWith scope 2 [.global "x"])
      scope.Reads [.global "x"] operand ∧ operand.IsReference ∧
      operandValue scope effects none operand (.fresh .fresh) = .error flaw after ∧
      flaw.IsOwn source operand ∧
      probe scope effects none operand (.fresh .fresh) = .ok none after := by
  intro source services
  have hrun : source.parse.toOption.bind (fun document => (asked document).map fun operand =>
      let scope := Scope.ofDocument source services document []
      let effects := effects scope (forceWith scope 2 [.global "x"])
      (Entries.get? "x" scope.globals).any (operand ∈ ·.1.operands) &&
      match operand, operandValue scope effects none operand (.fresh .fresh) with
      | .path .., .error (.fault (.missingKey ..) range) _ => range = operand.range
      | _, _ => false) = some true := by
    decide +kernel
  obtain ⟨document, hsome, hrun⟩ := Option.bind_eq_some_iff.1 hrun
  obtain ⟨operand, hasked, hrun⟩ := Option.map_eq_some_iff.1 hrun
  obtain ⟨hbound, hrun⟩ := Bool.and_eq_true_iff.1 hrun
  have hparse : source.parse = .ok document := by
    cases h : source.parse with
    | error failure =>
      rw [h] at hsome
      cases hsome
    | ok parsed =>
      rw [h] at hsome
      cases hsome
      rfl
  have hreads : (Scope.ofDocument source services document []).Reads [.global "x"] operand := by
    obtain ⟨bound, hget, hoperand⟩ := (Option.any_eq_true _ _).1 hbound
    exact .global List.mem_cons_self hget (of_decide_eq_true hoperand)
  split at hrun
  case h_2 => cases hrun
  case h_1 head next rest place segments walked key range after _ hvalue =>
    obtain rfl : range = place := of_decide_eq_true hrun
    let fault : EvaluationFault := .missingKey segments walked key
    have hown : (Flaw.fault fault range).IsOwn source (.path head next rest range) :=
      Flaw.isOwn_of_isLookup (show fault.IsLookup from trivial) source (.path head next rest range)
    obtain ⟨-, hfails⟩ := probe_agrees hparse services [] hreads trivial 2 none (.fresh .fresh)
    exact ⟨document, _, _, after, hparse, hasked, hreads, trivial, hvalue, hown,
      ((hfails _ after hvalue).1 hown).1⟩

end Evaluation

end Rune
