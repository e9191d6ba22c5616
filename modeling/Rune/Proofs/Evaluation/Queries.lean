import Rune.Proofs.Config.Descent
import Rune.Proofs.Evaluation.CallByName

/-!
# Rune - references and queries

A dotted reference goes down the value of a binding, or that of a member of a gathered
configuration, while the document is evaluated.  A query goes down the same value when the
configuration is there.  Both come to the same value, or neither of them comes to any.

Main results:

- Structure {lit}`Config.Answers`: a query comes to what a reference leads to.
- Structure {lit}`Evaluation.Matches`: a reference agrees with a query wherever it is evaluated
  outside of blocks.
- Theorem {lit}`Evaluation.Matches.of_settles`: it does so if plain evaluation of the reference
  comes to what the query is about.
-/

namespace Rune

/-- A failure is about a reference that leads nowhere. -/
def Failure.IsUnresolved (failure : Failure) : Prop :=
  failure.diagnostic?.map (·.code) = some DiagnosticSpec.unresolvedReference.code

/-! ## What a query comes to -/

/-- A query comes to what a reference leads to: to the value, or to nothing if a member or a
key is missing. -/
structure Config.Answers (config : Config) (space : Namespace) (path : String)
    (led : Except EvaluationFault Value) : Prop where
  find_eq : config.find space path = .ok led.toOption
  fault : ∀ fault, led = .error fault →
    fault.IsLookup ∧ fault.complaint.spec = DiagnosticSpec.unresolvedReference

namespace Evaluation

/-- What a dotted reference leads to in a gathered configuration. -/
def memberLed (config : Config) (head next : String) (rest : List String) :
    Except EvaluationFault Value :=
  match config.member? next with
  | some value => descend (head :: next :: rest) [head, next] rest value
  | none => .error (.undefinedMember (head :: next :: rest) head next)

end Evaluation

namespace Config

open Evaluation

variable {config : Config} {head next : String} {rest : List String}

/-- A query in a gathered configuration comes to what a reference to its members leads to. -/
theorem answers_member (hnames : ∀ name ∈ next :: rest, IsIdentifier name) :
    config.Answers (config.home next) (".".intercalate (next :: rest))
      (memberLed config head next rest) := by
  have hfind := config.find_intercalate (config.home next) hnames
    (head :: next :: rest) [head, next]
  rw [← member?_eq] at hfind
  unfold memberLed
  cases hmember : config.member? next with
  | none =>
    rw [hmember] at hfind
    exact ⟨hfind, by rintro _ ⟨⟩; exact ⟨trivial, rfl⟩⟩
  | some value =>
    rw [hmember] at hfind
    refine ⟨hfind, fun fault hfault => ?_⟩
    obtain ⟨reached, key, rfl⟩ := descend_eq_error hfault
    exact ⟨trivial, rfl⟩

/-- A query comes to what a reference to a binding leads to. -/
theorem answers_own {space : Namespace} (hnames : ∀ name ∈ head :: next :: rest, IsIdentifier name)
    {value : Value}
    (hvalue : Entries.get? (Key.canonical head) (config.values space) = some value) :
    config.Answers space (".".intercalate (head :: next :: rest))
      (descend (head :: next :: rest) [head] (next :: rest) value) := by
  have hfind := config.find_intercalate space hnames (head :: next :: rest) [head]
  rw [hvalue] at hfind
  refine ⟨hfind, fun fault hfault => ?_⟩
  obtain ⟨reached, key, rfl⟩ := descend_eq_error hfault
  exact ⟨trivial, rfl⟩

end Config

namespace Evaluation

/-! ## References and queries that agree -/

/-- The result of a reference agrees with a query: both come to the same value, or the
reference is unresolved and the query not found. -/
structure Agree (source : Source) (result : EStateM.Result Flaw Memory Value)
    (query : Except Failure Value) : Prop where
  value_iff : ∀ value, (∃ after, result = .ok value after) ↔ query = .ok value
  unresolved_iff :
    (∃ flaw after, result = .error flaw after ∧ (flaw.failure source).IsUnresolved) ↔
      ∃ diagnostic path, query = .error (.queryNotFound diagnostic path)

/-- The outcome of a reference at a range. -/
def outcomeAt (range : TextRange) : Except EvaluationFault Value → Outcome Flaw Value
  | .ok value => .value value
  | .error fault => .failure (.fault fault range)

section

variable {scope : Scope} {config : Config} {space : Namespace} {path : String}
  {led : Except EvaluationFault Value} {range : TextRange}

/-- A result that follows the plain outcome of a reference agrees with the query, unless it is
a cycle. -/
theorem agree_of_agrees {deep : Nat → Prop} {result : EStateM.Result Flaw Memory Value}
    {q : Nat → Outcome Flaw Value} (source : Source) (hanswers : config.Answers space path led)
    (hsettles : Settles q (outcomeAt range led))
    (h : Agrees (Memory.Faithful scope) Flaw.IsCycle deep result q) :
    Agree source result (config.value space path) ∨
      (∃ flaw after, result = .error flaw after ∧ flaw.IsCycle) ∧ ∃ depth, ¬ deep depth := by
  cases h with
  | value _ hvalue =>
    cases led with
    | error fault => cases hsettles.unique hvalue
    | ok value =>
      obtain rfl := Outcome.value.inj (hsettles.unique hvalue)
      have hquery := Config.value_eq_ok_iff.2 hanswers.find_eq
      refine .inl ⟨fun other => ?_, iff_of_false ?_ ?_⟩
      · rw [hquery]
        constructor
        · rintro ⟨_, h⟩
          cases h
          rfl
        · intro h
          cases h
          exact ⟨_, rfl⟩
      · rintro ⟨_, _, h, -⟩
        cases h
      · rintro ⟨_, _, h⟩
        rw [hquery] at h
        cases h
  | failure _ _ hflaw =>
    cases led with
    | ok value => cases hsettles.unique hflaw
    | error fault =>
      obtain rfl := Outcome.failure.inj (hsettles.unique hflaw)
      have hquery := Config.value_eq_queryNotFound_iff.2 hanswers.find_eq
      obtain ⟨hlookup, hspec⟩ := hanswers.fault fault rfl
      refine .inl ⟨fun other => iff_of_false ?_ ?_, iff_of_true ⟨_, _, rfl, ?_⟩ hquery⟩
      · rintro ⟨_, h⟩
        cases h
      · obtain ⟨_, _, hquery⟩ := hquery
        rw [hquery]
        exact nofun
      · rw [Flaw.failure_of_isLookup hlookup]
        exact congrArg (fun spec : DiagnosticSpec => some spec.code) hspec
  | recurs _ hcycle hdeep =>
    refine .inr ⟨⟨_, _, rfl, hcycle⟩, ?_⟩
    obtain ⟨depth, hdepth⟩ := hsettles.exists_eq
    refine ⟨depth, fun h => ?_⟩
    rw [hdeep depth h] at hdepth
    cases led <;> cases hdepth

end

/-- An operand agrees with a query wherever it is evaluated outside of blocks, and so does a
global that is bound to it.  While bindings are being evaluated it may also depend on one of
them. -/
structure Matches (scope : Scope) (operand : Operand) (query : Except Failure Value) : Prop where
  anywhere : ∀ fuel pending memory, memory.Faithful scope →
    let result := operandValue scope (effects scope (forceWith scope fuel pending)) none operand
      memory
    Agree scope.source result query ∨ ∃ flaw after, result = .error flaw after ∧ flaw.IsCycle
  top : ∀ memory, memory.Faithful scope →
    Agree scope.source (operandValue scope (topEffects scope) none operand memory) query
  binding : ∀ name whole, Entries.get? name scope.globals = some (.operand operand, whole) →
    ∀ place memory, memory.Faithful scope →
      Agree scope.source (forceSlot scope (.global name) place memory) query
  global : ∀ name whole, Entries.get? name scope.globals = some (.operand operand, whole) →
    ∀ memory config after, memory.Faithful scope → scope.evaluate memory = .ok config after →
      ∀ value, Entries.get? name config.globals = some value ↔ query = .ok value

section

variable {scope : Scope} {config : Config} {space : Namespace} {path : String}
  {operand : Operand} {led : Except EvaluationFault Value} {range : TextRange}

open ByName in
/-- An operand agrees with a query if its plain evaluation comes to what the query comes to. -/
theorem Matches.of_settles (hnodup : (Entries.keys scope.globals).Nodup)
    (hanswers : config.Answers space path led)
    (hsettles : Settles (fun depth => operandValue scope (effectsAt scope depth) none operand)
      (outcomeAt range led)) : Matches scope operand (config.value space path) := by
  have hcall (name : String) (whole : TextRange)
      (hbound : Entries.get? name scope.globals = some (.operand operand, whole)) :
      Settles (fun depth => slotValue scope depth (.global name)) (outcomeAt range led) := by
    refine hsettles.call rfl fun depth => ?_
    simp only [slotValue, bindingValue, hbound, Evaluation.value]
    rfl
  have hbinds (name : String) (whole : TextRange)
      (hbound : Entries.get? name scope.globals = some (.operand operand, whole)) :
      scope.Binds (.global name) := by
    simp [Scope.Binds, Entries.contains, hbound]
  constructor
  case anywhere =>
    intro fuel pending memory hmemory
    have follows := (effects_parametric fun slot _ => forceWith_tracks scope fuel pending
      slot).operandValue none operand memory hmemory
    exact (agree_of_agrees scope.source hanswers hsettles follows).imp_right And.left
  case top =>
    intro memory hmemory
    have follows := (effects_parametric fun slot hslot =>
      forceSlot_tracks hslot).operandValue none operand memory hmemory
    refine (agree_of_agrees scope.source hanswers hsettles follows).resolve_right ?_
    rintro ⟨-, depth, hdepth⟩
    exact hdepth trivial
  case binding =>
    intro name whole hbound place memory hmemory
    have follows := forceSlot_tracks (hbinds name whole hbound) place memory hmemory
    have hcalls := hcall name whole hbound
    refine (agree_of_agrees scope.source hanswers hcalls follows).resolve_right ?_
    rintro ⟨-, depth, hdepth⟩
    exact hdepth trivial
  case global =>
    intro name whole hbound memory config' after hmemory hrun value
    have performed := scope.evaluate_performs memory hmemory
    rw [hrun] at performed
    obtain ⟨-, -, hdescribes⟩ := performed
    rw [hdescribes.get?_globals hnodup (hbinds name whole hbound), Config.value_eq_ok_iff,
      hanswers.find_eq]
    have hcall := hcall name whole hbound
    constructor
    · intro hyields
      have heq := hcall.unique hyields.settles
      cases led with
      | error fault => cases heq
      | ok found => exact congrArg Except.ok (congrArg some (Outcome.value.inj heq))
    · intro hfound
      cases led with
      | error fault => cases hfound
      | ok found =>
        obtain rfl := Option.some.inj (Except.ok.inj hfound)
        exact hcall.exists_eq

end

end Evaluation

end Rune
