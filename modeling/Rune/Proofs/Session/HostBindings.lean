import Rune.Proofs.Evaluation.Force
import Rune.Proofs.Failure
import Rune.Proofs.Session.Redrafting
import Rune.Proofs.Tree.HostBindings

/-!
# Rune - facts of the host in both spellings

A binding to a reference and one to a string that is nothing but the reference come to the
same text, or both fail for the same reason, if no hyphen stands in the name.  A string with
a hyphen in the name is not read as a reference, and comes to its own characters.

Main results:

- Definition {lit}`HostSpace.answer` is what the host says to a name.
- Theorems {lit}`Session.resolveText_of_value` and {lit}`Session.resolveText_of_evaluationFault`:
  what a text with one binding comes to.
- Theorem {lit}`Session.resolveText_bindings_agree_iff`: when the two bindings agree.
-/

namespace Rune

/-- What the host says to a name: a text, nothing for a variable that is not set, or why
there is no answer. -/
def HostSpace.answer (services : Services) (resources : Resources) (name : String) :
    HostSpace → Except EvaluationFault (Option String)
  | env => .ok (services.environment name)
  | sys =>
    match SystemKey.ofName? name with
    | none => .error (.unknownSystemKey name)
    | some known =>
      match (resources.fact services.system known.name).1 with
      | some text => .ok (some text)
      | none => .error (.unavailable name)

/-- The value of a variable or fact: null if it is not set. -/
def Value.ofAnswer : Option String → Value
  | some text => .string text
  | none => .null

/-! ## What an operand comes to -/

namespace Evaluation

variable {scope : Scope} {operand : Operand} {resources : Resources}

/-- An operand that refers to no bindings comes to a value, or to a fault at a range, wherever
it is evaluated with some resources. -/
def ComesTo (scope : Scope) (resources : Resources) (operand : Operand)
    (outcome : Except (EvaluationFault × TextRange) Value) : Prop :=
  ∀ force memory, memory.resources = resources → ∃ after,
    operandValue scope (effects scope force) none operand memory =
      match outcome with
      | .ok value => .ok value after
      | .error (fault, range) => .error (.fault fault range) after

/-- A fact is the answer to its key, or there is a fault at the range. -/
theorem fact_eq (force : Slot → TextRange → Eval Value) (key : String) (range : TextRange)
    (memory : Memory) :
    ∃ after, fact (effects scope force) key range memory =
      match HostSpace.sys.answer scope.services memory.resources key with
      | .ok answer => .ok (answer.getD "") after
      | .error fault => .error (.fault fault range) after := by
  unfold fact HostSpace.answer
  cases SystemKey.ofName? key with
  | none => exact ⟨memory, rfl⟩
  | some known =>
    simp only [effects, ask, bind, EStateM.bind]
    generalize memory.resources.fact scope.services.system known.name = result
    obtain ⟨answer, resources⟩ := result
    cases answer <;> exact ⟨_, rfl⟩

/-- There is no fact without a text. -/
theorem answer_sys_ne_none {services : Services} {name : String} :
    HostSpace.sys.answer services resources name ≠ .ok none := by
  intro h
  unfold HostSpace.answer at h
  dsimp only at h
  split at h
  · cases h
  · split at h <;> cases h

/-- A reference to the host comes to its answer. -/
theorem comesTo_host (space : HostSpace) (name : String) (range : TextRange)
    (answer : Except EvaluationFault (Option String)) :
    space.answer scope.services resources name = answer →
      ComesTo scope resources (.host (space.ref range name))
        (match answer with
          | .ok answer => .ok (.ofAnswer answer)
          | .error fault => .error (fault, range)) := by
  rintro rfl force memory rfl
  cases space with
  | env =>
    refine ⟨memory, ?_⟩
    cases hvalue : scope.services.environment name <;>
      simp [operandValue, HostSpace.ref, hostValue, HostSpace.answer, Value.ofAnswer, hvalue, pure,
        EStateM.pure]
  | sys =>
    obtain ⟨after, hfact⟩ := @fact_eq scope force name range memory
    refine ⟨after, ?_⟩
    simp only [operandValue, HostSpace.ref, hostValue, bind, EStateM.bind, hfact]
    cases hanswer : HostSpace.sys.answer scope.services memory.resources name with
    | error fault => rfl
    | ok answer =>
      cases answer with
      | none => exact absurd hanswer answer_sys_ne_none
      | some text => rfl

/-- A string that is nothing but a reference comes to the text of its answer. -/
theorem comesTo_interpolated (space : HostSpace) (name : String) (range : TextRange)
    (answer : Except EvaluationFault (Option String)) :
    space.answer scope.services resources name = answer →
      ComesTo scope resources (.interpolated [.ref (space.ref range name)] range)
        (match answer with
          | .ok answer => .ok (.string (answer.getD ""))
          | .error fault => .error (fault, range)) := by
  rintro rfl force memory rfl
  cases space with
  | env =>
    refine ⟨memory, ?_⟩
    simp [operandValue, pieceTexts, HostSpace.ref, hostText, HostSpace.answer, bind, EStateM.bind,
      pure, EStateM.pure]
  | sys =>
    obtain ⟨after, hfact⟩ := @fact_eq scope force name range memory
    refine ⟨after, ?_⟩
    simp only [operandValue, pieceTexts, HostSpace.ref, hostText, bind, EStateM.bind, hfact]
    cases HostSpace.sys.answer scope.services memory.resources name with
    | error fault => rfl
    | ok answer => simp [pure, EStateM.pure]

/-- A literal comes to itself. -/
theorem comesTo_literal (text : String) (range : TextRange) :
    ComesTo scope resources (.literal (.text text) range) (.ok (.string text)) :=
  fun _ memory _ => ⟨memory, rfl⟩

/-! ## A document with one binding -/

/-- The scope of a document with one binding of `x`, which gathers nothing. -/
abbrev oneBinding (source : Source) (services : Services) (operand : Operand) (range : TextRange) :
    Scope :=
  .ofDocument source services [.global "x" (.operand operand) range] []

variable {source : Source} {services : Services} {range : TextRange}

/-- What a reference to a binding does while `x` is being evaluated. -/
abbrev whileBinding (source : Source) (services : Services) (operand : Operand)
    (range : TextRange) : Effects Eval :=
  effects (oneBinding source services operand range)
    (forceWith (oneBinding source services operand range) 1 [.global "x"])

/-- The binding is evaluated by evaluating its operand. -/
theorem evaluateSlot_oneBinding (memory : Memory) :
    evaluateSlot (oneBinding source services operand range) 1 [] (.global "x") memory =
      match operandValue (oneBinding source services operand range)
        (whileBinding source services operand range) none operand memory with
      | .ok value after => .ok value (after.remember (.global "x") value)
      | .error flaw after => .error flaw after := by
  have hvalue : bindingValue (oneBinding source services operand range)
      (whileBinding source services operand range) (.global "x") =
        operandValue (oneBinding source services operand range)
          (whileBinding source services operand range) none operand := rfl
  unfold evaluateSlot
  rw [List.nil_append, hvalue]
  simp only [bind, EStateM.bind]
  cases (operandValue (oneBinding source services operand range)
    (whileBinding source services operand range) none operand : Eval Value) memory <;> rfl

/-- The document is evaluated by evaluating its binding. -/
theorem evaluate_oneBinding {memory : Memory} (hmemory : memory.globals = []) :
    (oneBinding source services operand range).evaluate memory =
      match evaluateSlot (oneBinding source services operand range) 1 [] (.global "x")
        (memory.record ⟨.globals, ["x"]⟩ (source.locate range)) with
      | .ok value after => .ok
        { source := source
          globals := [("x", value)]
          items := []
          metadata := []
          locations := Entries.merge [] after.locations } after
      | .error flaw after => .error flaw after := by
  have hnew :
      (memory.record ⟨.globals, ["x"]⟩ (source.locate range)).value? (.global "x") = none := by
    rw [Memory.value?_record, Memory.value?, hmemory]
    rfl
  have hforce : forceSlot (oneBinding source services operand range) (.global "x") range
      (memory.record ⟨.globals, ["x"]⟩ (source.locate range)) =
        evaluateSlot (oneBinding source services operand range) 1 [] (.global "x")
          (memory.record ⟨.globals, ["x"]⟩ (source.locate range)) :=
    forceWith_anew hnew List.not_mem_nil 1 range
  have hglobals : globalValues (oneBinding source services operand range)
      (oneBinding source services operand range).globals memory =
      match forceSlot (oneBinding source services operand range) (.global "x") range
        (memory.record ⟨.globals, ["x"]⟩ (source.locate range)) with
      | .ok value after => .ok [("x", value)] after
      | .error flaw after => .error flaw after := by
    have hrecord : record (oneBinding source services operand range) .globals ["x"] range memory =
        .ok () (memory.record ⟨.globals, ["x"]⟩ (source.locate range)) := rfl
    change globalValues _ [("x", .operand operand, range)] memory = _
    simp only [globalValues, bind, EStateM.bind, hrecord]
    cases (forceSlot (oneBinding source services operand range) (.global "x") range)
      (memory.record ⟨.globals, ["x"]⟩ (source.locate range)) <;> rfl
  rw [← hforce]
  unfold Scope.evaluate
  simp only [bind, EStateM.bind, hglobals]
  cases (forceSlot (oneBinding source services operand range) (.global "x") range)
    (memory.record ⟨.globals, ["x"]⟩ (source.locate range)) <;> rfl

/-- If the operand comes to a value, the document binds it. -/
theorem evaluate_of_value {value : Value}
    (h : ComesTo (oneBinding source services operand range) resources operand (.ok value)) :
    ∃ config after, (oneBinding source services operand range).evaluate (.fresh resources) =
      .ok config after ∧ Entries.get? "x" config.globals = some value := by
  obtain ⟨after, hoperand⟩ := h (forceWith (oneBinding source services operand range) 1
    [.global "x"]) ((Memory.fresh resources).record ⟨.globals, ["x"]⟩ (source.locate range)) rfl
  rw [evaluate_oneBinding rfl, evaluateSlot_oneBinding, hoperand]
  exact ⟨_, _, rfl, rfl⟩

/-- If the operand comes to a fault, the document fails with it. -/
theorem evaluate_of_fault {fault : EvaluationFault} {place : TextRange}
    (h : ComesTo (oneBinding source services operand range) resources operand
      (.error (fault, place))) :
    ∃ after, (oneBinding source services operand range).evaluate (.fresh resources) =
      .error (.fault fault place) after := by
  obtain ⟨after, hoperand⟩ := h (forceWith (oneBinding source services operand range) 1
    [.global "x"]) ((Memory.fresh resources).record ⟨.globals, ["x"]⟩ (source.locate range)) rfl
  rw [evaluate_oneBinding rfl, evaluateSlot_oneBinding, hoperand]
  exact ⟨_, rfl⟩

end Evaluation

/-! ## A text with one binding -/

namespace Session

open Evaluation

variable {services : Services} {text : String} {operand : Operand} {range place : TextRange}
  {session : Session}

/-- A text cannot be resolved where there is no directory to gather files from. -/
theorem resolveText_of_base {document : Document}
    (hparse : (Source.ofText text).parse = .ok document) {fault : Fault}
    (hbase : services.base = .error fault) :
    resolveText services none text session = .error (.fault fault) session := by
  rw [resolveText_none, resolve_of_parse hparse]
  unfold resolveDocument
  simp only [directoryOf, hbase, bind, EStateM.bind, liftM, monadLift, MonadLift.monadLift]
  rfl

variable (hparse : (Source.ofText text).parse = .ok [.global "x" (.operand operand) range])
  {base : String} (hbase : services.base = .ok base)

include hparse hbase

/-- A text with one binding whose operand comes to a value binds it. -/
theorem resolveText_of_value {value : Value} (h : ComesTo
      (oneBinding (.ofText text) services operand range) session.resources operand (.ok value)) :
    ∃ config after, resolveText services none text session = .ok config after ∧
      Entries.get? "x" config.globals = some value := by
  have hcollects : Collects services none (.ofText text) [.global "x" (.operand operand) range]
      session [] (session.entered none) := ⟨base, hbase, rfl⟩
  obtain ⟨config, memory, hevaluate, hvalue⟩ := evaluate_of_value h
  obtain ⟨after, hresolve⟩ := hcollects.resolveDocument_eq_ok hevaluate
  obtain ⟨event, hfinish⟩ := finish_eq config after
  refine ⟨config, after.noted event, ?_, hvalue⟩
  rw [resolveText_none, resolve_of_parse hparse]
  exact bind_eq_ok_iff.mpr ⟨config, after, hresolve, hfinish⟩

/-- A text with one binding whose operand comes to a fault fails with it. -/
theorem resolveText_of_evaluationFault {fault : EvaluationFault} (h : ComesTo
      (oneBinding (.ofText text) services operand range) session.resources operand
      (.error (fault, place))) :
    ∃ after, resolveText services none text session =
      .error ((Flaw.fault fault place).failure (.ofText text)) after := by
  have hcollects : Collects services none (.ofText text) [.global "x" (.operand operand) range]
      session [] (session.entered none) := ⟨base, hbase, rfl⟩
  obtain ⟨memory, hevaluate⟩ := evaluate_of_fault h
  obtain ⟨after, hresolve⟩ := hcollects.resolveDocument_eq_error hevaluate
  refine ⟨after, ?_⟩
  rw [resolveText_none, resolve_of_parse hparse]
  simp only [bind, EStateM.bind, hresolve]

omit hparse hbase

/-! ## The two bindings -/

/-- Two resolutions agree on `x`: both bind it to one text, or the first one binds it to null
and the second one to the empty text, or they fail for reasons of one code. -/
inductive AgreeOnX : EStateM.Result Failure Session Config →
    EStateM.Result Failure Session Config → Prop
  | text {config config' : Config} {after after' : Session} {text : String}
      (h : Entries.get? "x" config.globals = some (.string text))
      (h' : Entries.get? "x" config'.globals = some (.string text)) :
    AgreeOnX (.ok config after) (.ok config' after')
  | unset {config config' : Config} {after after' : Session}
      (h : Entries.get? "x" config.globals = some .null)
      (h' : Entries.get? "x" config'.globals = some (.string "")) :
    AgreeOnX (.ok config after) (.ok config' after')
  | failure {failure failure' : Failure} {after after' : Session}
      (h : failure.Alike Diagnostic.SameCode failure') :
    AgreeOnX (.error failure after) (.error failure' after')

/-- The host has one kind of failure for each reason not to answer. -/
theorem alike_of_answer {space : HostSpace} {resources : Resources} {name : String}
    {fault : EvaluationFault} (h : space.answer services resources name = .error fault)
    (source source' : Source) (place place' : TextRange) :
    ((Flaw.fault fault place).failure source).Alike Diagnostic.SameCode
      ((Flaw.fault fault place').failure source') := by
  unfold HostSpace.answer at h
  cases space with
  | env => cases h
  | sys =>
    dsimp only at h
    split at h
    · cases h
      exact .unresolved rfl
    · split at h <;> cases h
      exact .unresolved rfl

/-- Without a hyphen the two bindings come to the same. -/
theorem resolveText_bindings_agree {name : String} (h : IsIdentifier name)
    (hhyphen : '-' ∉ name.toList) (space : HostSpace) {base : String}
    (hbase : services.base = .ok base) (session : Session) :
    AgreeOnX (resolveText services none (space.plainBinding name) session)
      (resolveText services none (space.stringBinding name) session) := by
  obtain ⟨place, range, hplain⟩ := Source.parse_plainBinding h space none
  obtain ⟨place', range', hstring⟩ := Source.parse_stringBinding h space none
  rw [HostSpace.inString, if_neg hhyphen] at hstring
  cases hanswer : space.answer services session.resources name with
  | ok answer =>
    obtain ⟨config, after, hresolve, hvalue⟩ :=
      resolveText_of_value hplain hbase (comesTo_host space name place (.ok answer) hanswer)
    obtain ⟨config', after', hresolve', hvalue'⟩ :=
      resolveText_of_value hstring hbase
        (comesTo_interpolated space name place' (.ok answer) hanswer)
    rw [hresolve, hresolve']
    cases answer with
    | some text => exact .text hvalue hvalue'
    | none => exact .unset hvalue hvalue'
  | error fault =>
    obtain ⟨after, hresolve⟩ :=
      resolveText_of_evaluationFault hplain hbase
        (comesTo_host space name place (.error fault) hanswer)
    obtain ⟨after', hresolve'⟩ :=
      resolveText_of_evaluationFault hstring hbase
        (comesTo_interpolated space name place' (.error fault) hanswer)
    rw [hresolve, hresolve']
    exact .failure (alike_of_answer hanswer _ _ _ _)

/-- With a hyphen the string comes to its own characters. -/
theorem resolveText_stringBinding_of_hyphen {name : String} (h : IsIdentifier name)
    (hhyphen : '-' ∈ name.toList) (space : HostSpace) {base : String}
    (hbase : services.base = .ok base) (session : Session) :
    ∃ config after, resolveText services none (space.stringBinding name) session =
      .ok config after ∧ Entries.get? "x" config.globals = some (.string (space.braced name)) := by
  obtain ⟨place, range, hparse⟩ := Source.parse_stringBinding h space none
  rw [HostSpace.inString, if_pos hhyphen] at hparse
  exact resolveText_of_value hparse hbase (comesTo_literal _ _)

/-- A binding to a reference and one to a string that is nothing but the reference agree,
whatever the name, exactly if no hyphen stands in the name, or no text can be resolved at
all, or the answer happens to be the characters of the string. -/
theorem resolveText_bindings_agree_iff {name : String} (h : IsIdentifier name) (space : HostSpace)
    (services : Services) (session : Session) :
    AgreeOnX (resolveText services none (space.plainBinding name) session)
        (resolveText services none (space.stringBinding name) session) ↔
      '-' ∉ name.toList ∨ (∃ fault, services.base = .error fault) ∨
        ∃ config after, resolveText services none (space.plainBinding name) session =
          .ok config after ∧
            Entries.get? "x" config.globals = some (.string (space.braced name)) := by
  cases hbase : services.base with
  | error fault =>
    obtain ⟨_, _, hplain⟩ := Source.parse_plainBinding h space none
    obtain ⟨_, _, hstring⟩ := Source.parse_stringBinding h space none
    rw [resolveText_of_base hplain hbase, resolveText_of_base hstring hbase]
    exact iff_of_true (.failure (.fault fault)) (.inr (.inl ⟨fault, rfl⟩))
  | ok base =>
    by_cases hhyphen : '-' ∈ name.toList
    · obtain ⟨config', after', hresolve', hvalue'⟩ :=
        resolveText_stringBinding_of_hyphen h hhyphen space hbase session
      rw [hresolve']
      constructor
      · intro hagree
        generalize hresolve : resolveText services none (space.plainBinding name) session = result
          at hagree
        cases hagree with
        | text hvalue hsame =>
          rw [hvalue'] at hsame
          obtain rfl := Value.string.inj (Option.some.inj hsame)
          exact .inr (.inr ⟨_, _, rfl, hvalue⟩)
        | unset _ hempty =>
          rw [hvalue'] at hempty
          have hnone := congrArg String.toList (Value.string.inj (Option.some.inj hempty))
          simp [HostSpace.braced] at hnone
      · rintro (hnone | ⟨fault, hfault⟩ | ⟨config, after, hresolve, hvalue⟩)
        · exact absurd hhyphen hnone
        · cases hfault
        · rw [hresolve]
          exact .text hvalue hvalue'
    · exact iff_of_true (resolveText_bindings_agree h hhyphen space hbase session) (.inl hhyphen)

/-- A variable that is set. -/
theorem resolveText_bindings_agree_iff_home :
    let services := { Services.ofStore [] with
      environment := fun name => if name = "HOME" then some "/root" else none }
    IsIdentifier "HOME" ∧ AgreeOnX (resolveText services none "x $env.HOME" fresh)
      (resolveText services none "x \"$\x7benv.HOME\x7d\"" fresh) := by
  intro services
  have hname : IsIdentifier "HOME" := isIdentifier_of_tokens (by decide +kernel)
  exact ⟨hname, (resolveText_bindings_agree_iff hname .env services fresh).mpr (.inl (by decide))⟩

/-- A fact whose key has a hyphen: the reference comes to the fact, and the string to its own
characters. -/
theorem resolveText_bindings_disagree :
    let services := { Services.ofStore [] with
      system := fun key => if key = "kernel_version" then some "6.1" else none }
    IsIdentifier "kernel-version" ∧
      ¬AgreeOnX (resolveText services none "x $sys.kernel-version" fresh)
        (resolveText services none "x \"$\x7bsys.kernel-version\x7d\"" fresh) := by
  intro services
  have hplain : ((success? (resolveText services none "x $sys.kernel-version" fresh)).bind
      fun result => (Entries.get? "x" result.1.globals).map Value.text) = some "6.1" := by
    decide +kernel
  have hstring : ((success? (resolveText services none
      "x \"$\x7bsys.kernel-version\x7d\"" fresh)).bind
        fun result => (Entries.get? "x" result.1.globals).map Value.text) =
        some "$\x7bsys.kernel-version\x7d" := by
    decide +kernel
  refine ⟨isIdentifier_of_tokens (by decide +kernel), fun hagree => ?_⟩
  generalize resolveText services none "x $sys.kernel-version" fresh = plain at hagree hplain
  generalize resolveText services none "x \"$\x7bsys.kernel-version\x7d\"" fresh = string
    at hagree hstring
  cases hagree with
  | text h h' =>
    simp [success?, h, Value.text] at hplain
    simp [success?, h', Value.text, hplain] at hstring
  | unset h _ => simp [success?, h, Value.text] at hplain
  | failure => simp [success?] at hplain

end Session

end Rune
