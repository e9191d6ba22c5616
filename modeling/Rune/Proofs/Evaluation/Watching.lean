import Rune.Proofs.Evaluation.Force
import Rune.Proofs.Session.Ledger
import Rune.Proofs.SideBySide

/-!
# Rune - evaluation that is watched

An evaluation can be watched without being changed: whenever a raw string is evaluated, its
text is written down, with the pattern that it was evaluated to and with the place of that
pattern among the patterns that were read.  Patterns are kept where they were put, so that
the place tells which of them it is.

Main results:

- Definition {lit}`Watched.evaluate` evaluates a document while it is watched.
- Structure {lit}`Watch.Shows` is the invariant: the memory is that of the evaluation that is
  not watched, its resources were consulted only, and the patterns that were written down
  are still in their places.
- Theorem {lit}`Watched.evaluate_shows`: it holds of all documents.
-/

namespace Rune

/-! ## Watched evaluation -/

/-- The place of the pattern with a given source, or the place behind all patterns, where it
is put if there is none. -/
def PatternCache.place (cache : PatternCache) (source : String) : Nat :=
  cache.patterns.findIdx (·.source = source)

/-- A raw string that was evaluated: its text, the place of its pattern among the patterns
that were read, and its value. -/
structure Issue where
  source : String
  place : Nat
  value : Value

/-- The state of an evaluation that is watched. -/
structure Watch where
  memory : Memory
  issues : List Issue

/-- An evaluation that is watched. -/
abbrev Watched := EStateM Flaw Watch

namespace Watched

/-- An evaluation in which no raw string is evaluated. -/
def lift {α : Type} (x : Eval α) : Watched α := fun watch =>
  match x watch.memory with
  | .ok a memory => .ok a { watch with memory := memory }
  | .error flaw memory => .error flaw { watch with memory := memory }

/-- Read a pattern, and write down which one it is. -/
def compile (source : String) (range : TextRange) : Watched Value := do
  let before ← get
  let value ← lift (Evaluation.compile source range)
  let issue := ⟨source, before.memory.resources.patterns.place source, value⟩
  modify fun watch => { watch with issues := watch.issues ++ [issue] }
  return value

variable (scope : Scope)

/-- The effects of a watched evaluation that refers to top-level bindings by {lit}`force`. -/
def effects (force : Slot → TextRange → Watched Value) : Effects Watched where
  fail fault range := lift (Evaluation.fail fault range)
  record space path range := lift (Evaluation.record scope space path range)
  compile := compile
  ask key := lift (Evaluation.ask scope key)
  force := force

/-- The value of a top-level binding: as it is remembered, or evaluated now. -/
def forceWith : Nat → List Slot → Slot → TextRange → Watched Value
  | 0, pending, slot, range => throw (.cycle (Evaluation.chain pending slot) range)
  | fuel + 1, pending, slot, range => do
    match (← get).memory.value? slot with
    | some known => return known
    | none =>
      lift (Evaluation.recordSlot scope slot)
      if slot ∈ pending then throw (.cycle (Evaluation.chain pending slot) range)
      let result ←
        Evaluation.bindingValue scope (effects scope (forceWith fuel (pending ++ [slot]))) slot
      lift (modify (·.remember slot result))
      return result

/-- The value of a top-level binding while no other one is being evaluated. -/
def forceSlot : Slot → TextRange → Watched Value := forceWith scope (scope.size + 1) []

/-- The values of global bindings. -/
def globalValues : Entries (ValueExpr × TextRange) → Watched (Entries Value)
  | [] => return []
  | (name, _, range) :: bindings => do
    lift (Evaluation.record scope .globals [name] range)
    let result ← forceSlot scope (.global name) range
    return (name, result) :: (← globalValues bindings)

/-- The values of metadata, after those given so far. -/
def metadataValues (given : Entries Value) :
    List (String × ValueExpr × TextRange) → Watched (Entries Value)
  | [] => return given
  | (key, expr, range) :: bindings => do
    let result ← Evaluation.value scope (effects scope (forceSlot scope)) none expr
    lift (Evaluation.record scope .metadata [key] range)
    metadataValues (Entries.insert key result given) bindings

/-- The values of items. -/
def itemValues : Entries (List Member × TextRange) → Watched (Entries Value)
  | [] => return []
  | (name, _, range) :: bindings => do
    let result ← forceSlot scope (.item name) range
    return (name, result) :: (← itemValues bindings)

/-- The configuration of a document. -/
def evaluate : Watched Config := do
  let globals ← globalValues scope scope.globals
  let metadata ← metadataValues scope [] scope.metadata
  let items ← itemValues scope scope.items
  let watch ← get
  return {
    source := scope.source
    globals := scope.withIncluded .globals globals
    items := scope.withIncluded .items items
    metadata := metadata
    locations := Entries.merge scope.includedLocations watch.memory.locations }

end Watched

/-! ## What a watch shows -/

/-- The pattern that was written down is in its place. -/
def Issue.Stands (cache : PatternCache) (issue : Issue) : Prop :=
  ∃ p, cache.patterns[issue.place]? = some p ∧ p.source = issue.source ∧ issue.value = .pattern p

namespace Issue.Stands

variable {issue : Issue} {before after : Resources}

/-- Patterns stay in their places. -/
theorem keeps (h : issue.Stands before.patterns) (hkeeps : before.Keeps after) :
    issue.Stands after.patterns := by
  obtain ⟨p, hp, hsource, hvalue⟩ := h
  obtain ⟨more, hmore⟩ := hkeeps.patterns
  have hlt := (List.getElem?_eq_some_iff.mp hp).1
  refine ⟨p, ?_, hsource, hvalue⟩
  rw [← hmore, List.getElem?_append_left hlt]
  exact hp

/-- A pattern that is asked for stands in its place afterwards. -/
theorem of_compile {source : String} {p : Pattern} (h : before.compile source = .ok (p, after)) :
    Stands after.patterns ⟨source, before.patterns.place source, .pattern p⟩ := by
  have hplace (patterns : List Pattern) : patterns.find? (·.source = source) =
      patterns[patterns.findIdx (·.source = source)]? := by
    induction patterns with
    | nil => rfl
    | cons q patterns ih => by_cases hq : q.source = source <;> simp [List.findIdx_cons, hq, ih]
  obtain ⟨hfind, rfl⟩ | ⟨hfind, hsource, rfl⟩ := Resources.compile_eq_ok h
  · have hsource : p.source = source := by simpa using List.find?_some hfind
    exact ⟨p, (hplace _).symm.trans hfind, hsource, rfl⟩
  · have hlength : before.patterns.place source = before.patterns.patterns.length :=
      List.findIdx_eq_length_of_false fun q hq => by
        simpa using List.find?_eq_none.mp hfind q hq
    exact ⟨p, by simp [hlength, Resources.note], hsource, rfl⟩

/-- The pattern was read, and only once. -/
theorem count_eq_one {resources : Resources} (h : issue.Stands resources.patterns)
    (hledger : resources.Ledger) :
    (resources.history.filterMap Event.pattern?).count issue.source = 1 := by
  obtain ⟨p, hp, hsource, -⟩ := h
  rw [hledger.sources_eq]
  refine List.count_eq_one_of_mem hledger.sources_nodup ?_
  rw [← hsource]
  exact List.mem_map_of_mem (List.mem_of_getElem? hp)

/-- There is only one pattern of a text. -/
theorem unique {issue' : Issue} {resources : Resources} (h : issue.Stands resources.patterns)
    (h' : issue'.Stands resources.patterns) (hledger : resources.Ledger)
    (hsource : issue.source = issue'.source) : issue = issue' := by
  obtain ⟨p, hp, hpsource, hpvalue⟩ := h
  obtain ⟨q, hq, hqsource, hqvalue⟩ := h'
  have hplace : issue.place = issue'.place := by
    have hlt := (List.getElem?_eq_some_iff.mp hp).1
    refine (List.getElem?_inj (by simpa using hlt) hledger.sources_nodup).mp ?_
    simp [hp, hq, hpsource, hqsource, hsource]
  obtain rfl : p = q := by
    rw [hplace, hq] at hp
    exact (Option.some.inj hp).symm
  obtain ⟨source, place, value⟩ := issue
  obtain ⟨source', place', value'⟩ := issue'
  simp_all

end Issue.Stands

/-- A watch shows what a memory is: it is the same memory, its resources came about from given
ones by consulting them, and the patterns that were written down are in their places. -/
structure Watch.Shows (system : String → Option String) (given : Resources) (watch : Watch)
    (memory : Memory) : Prop where
  memory_eq : watch.memory = memory
  consulted : Resources.Consulted system given memory.resources
  stands : ∀ issue ∈ watch.issues, issue.Stands memory.resources.patterns

namespace Watched

/-- A watched evaluation does what one does that is not watched, and shows it. -/
abbrev Watches (system : String → Option String) (given : Resources) {α : Type} (x : Watched α)
    (y : Eval α) : Prop :=
  SideBySide (Watch.Shows system given) (· = ·) (· = ·) x y

/-- An evaluation consults the resources, and does nothing else to them. -/
def Consulting (system : String → Option String) {α : Type} (x : Eval α) : Prop :=
  ∀ memory, match x memory with
    | .ok _ after | .error _ after => Resources.Consulted system memory.resources after.resources

section

variable {system : String → Option String} {given : Resources} {α : Type}

/-- An evaluation that consults the resources can be watched. -/
theorem lift_watches {x : Eval α} (h : Consulting system x) :
    Watches system given (lift x) x := by
  rintro watch memory ⟨rfl, hconsulted, hstands⟩
  have hx := h watch.memory
  have hshows {after : Memory}
      (hafter : Resources.Consulted system watch.memory.resources after.resources) :
      Watch.Shows system given { watch with memory := after } after :=
    ⟨rfl, hconsulted.trans hafter,
      fun issue hissue => (hstands issue hissue).keeps hafter.proceeded.keeps⟩
  unfold lift
  generalize x watch.memory = result at hx ⊢
  cases result with
  | ok a after => exact .ok rfl (hshows hx)
  | error flaw after => exact .error rfl (hshows hx)

/-- A pattern that is read is written down. -/
theorem compile_watches (source : String) (range : TextRange) :
    Watches system given (compile source range) (Evaluation.compile source range) := by
  rintro watch memory ⟨rfl, hconsulted, hstands⟩
  simp only [compile, Evaluation.compile, lift, bind, EStateM.bind, get_eq]
  cases hcompile : watch.memory.resources.compile source with
  | error fault => exact .error rfl ⟨rfl, hconsulted, hstands⟩
  | ok result =>
    obtain ⟨p, after⟩ := result
    have hstep : Resources.Consults system watch.memory.resources after := .pattern hcompile
    refine .ok rfl ⟨rfl, hconsulted.tail hstep, fun issue hissue => ?_⟩
    obtain hissue | hissue := List.mem_append.mp hissue
    · exact (hstands issue hissue).keeps (.of_consults hstep)
    · obtain rfl := List.mem_singleton.mp hissue
      exact .of_compile hcompile

end

/-! ## Expressions -/

section

variable {scope : Scope} {given : Resources}

theorem fail_consulting {system : String → Option String} {α : Type} (flaw : Flaw) :
    Consulting system (throw flaw : Eval α) := fun _ => .refl

theorem record_consulting (space : Namespace) (path : List String) (range : TextRange) :
    Consulting scope.services.system (Evaluation.record scope space path range) := fun _ => .refl

theorem ask_consulting (key : SystemKey) :
    Consulting scope.services.system (Evaluation.ask scope key.name) :=
  fun memory => .single (.fact memory.resources key)

/-- Effects can be watched if references can. -/
theorem effects_parametric {force : Slot → TextRange → Watched Value}
    {force' : Slot → TextRange → Eval Value}
    (hforce : ∀ slot, scope.Binds slot → ∀ range,
      Watches scope.services.system given (force slot range) (force' slot range)) :
    Parametric scope (fun {_} x y => Watches scope.services.system given x (y ()))
      (effects scope force) (fun _ => Evaluation.effects scope force') where
  pure _ := .pure rfl
  bind hx hf := hx.bind fun a _ heq => heq ▸ hf a
  fail _ _ := lift_watches (fail_consulting _)
  record space path range := lift_watches (record_consulting space path range)
  compile := compile_watches
  ask key := lift_watches (ask_consulting key)
  force slot range hslot := hforce slot hslot range

/-- References can be watched. -/
theorem forceWith_watches (fuel : Nat) (pending : List Slot) (slot : Slot) (range : TextRange) :
    Watches scope.services.system given (forceWith scope fuel pending slot range)
      (Evaluation.forceWith scope fuel pending slot range) := by
  induction fuel generalizing pending slot range with
  | zero => exact .throw rfl
  | succ fuel ih =>
    rw [forceWith, Evaluation.forceWith]
    refine SideBySide.get.bind fun watch memory hshows => ?_
    rw [hshows.memory_eq]
    cases memory.value? slot with
    | some known => exact .pure rfl
    | none =>
      have hrecord : Consulting scope.services.system (Evaluation.recordSlot scope slot) := by
        intro memory
        rw [Evaluation.recordSlot_eq]
        simp only [Memory.resources_noted]
        exact .refl
      have hremember (result : Value) : Consulting scope.services.system
          (modify (·.remember slot result) : Eval Unit) := by
        intro memory
        change Relation.ReflTransGen _ _ (memory.remember slot result).resources
        rw [Memory.resources_remember]
      have hresult := (@effects_parametric scope given _ _ fun other _ range =>
        ih (pending ++ [slot]) other range).bindingValue slot
      have hcycle (flaw : Flaw) : SideBySide (Watch.Shows scope.services.system given) (· = ·)
          (fun (_ _ : PUnit) => False) (throw flaw) (throw flaw) := .throw rfl
      refine (lift_watches hrecord).bind fun _ _ _ => .ite ?_ ?_
      · exact (hcycle _).bind fun _ _ h => h.elim
      · refine hresult.bind fun result _ heq => ?_
        cases heq
        exact (lift_watches (hremember result)).bind fun _ _ _ => .pure rfl

theorem forceSlot_watches (slot : Slot) (range : TextRange) :
    Watches scope.services.system given (forceSlot scope slot range)
      (Evaluation.forceSlot scope slot range) :=
  forceWith_watches _ _ _ _

/-! ## Documents -/

theorem globalValues_watches (bindings : Entries (ValueExpr × TextRange)) :
    Watches scope.services.system given (globalValues scope bindings)
      (Evaluation.globalValues scope bindings) := by
  induction bindings with
  | nil => exact .pure rfl
  | cons bound bindings ih =>
    refine (lift_watches (record_consulting _ _ _)).bind fun _ _ _ =>
      (forceSlot_watches _ _).bind fun result _ heq => ih.bind fun rest _ heq' => ?_
    cases heq
    cases heq'
    exact .pure rfl

theorem metadataValues_watches (fields : Entries Value)
    (bindings : List (String × ValueExpr × TextRange)) :
    Watches scope.services.system given (metadataValues scope fields bindings)
      (Evaluation.metadataValues scope fields bindings) := by
  induction bindings generalizing fields with
  | nil => exact .pure rfl
  | cons bound bindings ih =>
    have hvalue := (@effects_parametric scope given _ _ fun slot _ range =>
      forceSlot_watches slot range).value none bound.2.1
    refine hvalue.bind fun result _ heq => ?_
    cases heq
    exact (lift_watches (record_consulting _ _ _)).bind fun _ _ _ => ih _

theorem itemValues_watches (bindings : Entries (List Member × TextRange)) :
    Watches scope.services.system given (itemValues scope bindings)
      (Evaluation.itemValues scope bindings) := by
  induction bindings with
  | nil => exact .pure rfl
  | cons bound bindings ih =>
    refine (forceSlot_watches _ _).bind fun result _ heq => ih.bind fun rest _ heq' => ?_
    cases heq
    cases heq'
    exact .pure rfl

/-- Evaluating a document while it is watched does what its evaluation does, and shows it. -/
theorem evaluate_shows (scope : Scope) (given : Resources) :
    Watches scope.services.system given (evaluate scope) scope.evaluate := by
  refine (globalValues_watches scope.globals).bind fun globals _ hglobals =>
    (metadataValues_watches [] scope.metadata).bind fun metadata _ hmetadata =>
      (itemValues_watches scope.items).bind fun items _ hitems =>
        SideBySide.get.bind fun watch memory hshows => ?_
  cases hglobals
  cases hmetadata
  cases hitems
  rw [hshows.memory_eq]
  exact .pure rfl

end

/-- What a watch comes to. -/
def watchOf {α : Type} : EStateM.Result Flaw Watch α → Watch
  | .ok _ watch | .error _ watch => watch

end Watched

/-- The raw strings that are evaluated with a document, in their order. -/
def Scope.issues (scope : Scope) (resources : Resources) : List Issue :=
  (Watched.watchOf (Watched.evaluate scope ⟨.fresh resources, []⟩)).issues

namespace Scope

/-- Evaluating a document consults the resources, and the patterns of its raw strings are in
their places afterwards. -/
theorem evaluate_stands (scope : Scope) (resources : Resources) :
    match scope.evaluate (.fresh resources) with
    | .ok _ after | .error _ after =>
      Resources.Consulted scope.services.system resources after.resources ∧
        ∀ issue ∈ scope.issues resources, issue.Stands after.resources.patterns := by
  have hshows := Watched.evaluate_shows scope resources ⟨.fresh resources, []⟩ (.fresh resources)
    ⟨rfl, .refl, by simp⟩
  unfold issues
  generalize Watched.evaluate scope ⟨.fresh resources, []⟩ = watched at hshows ⊢
  generalize scope.evaluate (.fresh resources) = result at hshows ⊢
  cases hshows with
  | ok _ h => exact ⟨h.consulted, h.stands⟩
  | error _ h => exact ⟨h.consulted, h.stands⟩

end Scope

end Rune
