import Rune.Proofs.Evaluation.CallByName
import Rune.Proofs.Evaluation.Redrafting

/-!
# Rune - probing a name

A document is probed by one more global, the probe, which is bound to a name.  Where the
document neither binds nor mentions the probe, all of its bindings keep their values, so that
the probe finds what the name stands for: a binding of the document, or else one of a
configuration that is included.

Main results:

- Structure {lit}`Scope.Probes`: a scope is another one with a probe.
- Theorem {lit}`Scope.Probes.yields`: the other bindings yield the same values.
- Theorems {lit}`Scope.Probes.evaluate_found`, {lit}`Scope.Probes.evaluate_unresolved` and
  {lit}`Scope.Probes.evaluate_self`: what the probe finds.
-/

namespace Rune

/-- A second scope has a probe in addition, a global that is bound to a name.  The first one
neither binds nor mentions it. -/
structure Scope.Probes (key name : String) (scope scope' : Scope) : Prop where
  services : scope'.services = scope.services
  aliases : scope'.aliases = scope.aliases
  includes : scope'.includes = scope.includes
  unbound : scope.slot? key = none
  unmentioned : scope.MentionsOnly (· ≠ .name key)
  probe : ∃ range range',
    Entries.get? key scope'.globals = some (.operand (.name name range), range')
  globals : ∀ other, other ≠ key →
    (Entries.get? other scope'.globals).map (·.1.unplaced) =
      (Entries.get? other scope.globals).map (·.1.unplaced)
  items : ∀ other,
    (Entries.get? other scope'.items).map (fun bound => Member.unplacedAll bound.1) =
      (Entries.get? other scope.items).map fun bound => Member.unplacedAll bound.1
  metadata : scope'.metadata.map (fun bound => bound.2.1.unplaced) =
    scope.metadata.map fun bound => bound.2.1.unplaced

namespace Scope

/-- What a document has no binding for is neither a global nor an item. -/
theorem slot?_eq_none_iff {scope : Scope} {key : String} : scope.slot? key = none ↔
    Entries.get? key scope.globals = none ∧ Entries.get? key scope.items = none := by
  unfold slot? Entries.contains
  cases Entries.get? key scope.globals <;> cases Entries.get? key scope.items <;> simp

namespace Probes

open ByName

variable {scope scope' : Scope} {key name : String} (h : scope.Probes key name scope')
include h

/-- Another name stands for the same things. -/
theorem slot?_eq {other : String} (hother : other ≠ key) :
    scope'.slot? other = scope.slot? other := by
  unfold slot?
  rw [Entries.contains_eq_of_map_eq (h.globals other hother),
    Entries.contains_eq_of_map_eq (h.items other)]

theorem included?_eq (other : String) : scope'.included? other = scope.included? other := by
  rw [included?, included?, h.includes]

/-- What the document mentions stands for the same things. -/
theorem agreesOn : scope.AgreesOn (· ≠ .name key) scope' where
  services := h.services
  alias? _ _ := by rw [h.aliases]
  slot? _ hother := h.slot?_eq fun heq => hother (congrArg Mention.name heq)
  included? other _ := h.included?_eq other

/-! ## The other bindings -/

section

variable {services : Services} {call call' : Slot → Outcome Unit Value}
  (hcall : ∀ slot value, call slot = .value value → call' slot = .value value)
include hcall

/-- An expression of the document yields the same value with the probe, if calls do. -/
theorem value_carry {expr expr' : ValueExpr} (halike : expr'.unplaced = expr.unplaced)
    (hexpr : ∀ mention ∈ expr.mentions, mention ≠ .name key) {result : Value}
    (hvalue : Evaluation.value scope (Bare.effects services call) none expr = .value result) :
    Evaluation.value scope' (Bare.effects services call') none expr' = .value result := by
  rw [← Bare.value_unplaced (.refl scope'), halike, Bare.value_unplaced (.refl scope')]
  exact ((Bare.grow_parametric hcall).congruentOn h.agreesOn).value none expr hexpr result hvalue

/-- So do the members of a block of the document. -/
theorem members_carry {path : List String} {children children' : List Member}
    (halike : Member.unplacedAll children' = Member.unplacedAll children)
    (hchildren : ∀ mention ∈ Member.mentionsOfAll children, mention ≠ .name key)
    {result : Entries Value}
    (hvalue : Evaluation.members scope (Bare.effects services call) path [] children =
      .value result) :
    Evaluation.members scope' (Bare.effects services call') path [] children' = .value result := by
  rw [← Bare.members_unplaced (.refl scope') path path, halike,
    Bare.members_unplaced (.refl scope') path path]
  exact ((Bare.grow_parametric hcall).congruentOn h.agreesOn).members (fun _ _ _ _ hrun => hrun)
    path [] children hchildren result hvalue

end

/-- The bindings of the document yield the same values at every depth. -/
theorem slotValue (depth : Nat) : ∀ slot value, Bare.slotValue scope depth slot = .value value →
    Bare.slotValue scope' depth slot = .value value := by
  induction depth with
  | zero => exact fun _ _ hvalue => nomatch hvalue
  | succ depth ih =>
    intro slot value hvalue
    rw [Bare.slotValue, h.services]
    rw [Bare.slotValue] at hvalue
    unfold Evaluation.bindingValue at hvalue ⊢
    cases slot with
    | global other =>
      dsimp only at hvalue ⊢
      cases hbound : Entries.get? other scope.globals with
      | none =>
        rw [hbound] at hvalue
        cases hvalue
      | some bound =>
        have hother : other ≠ key := by
          rintro rfl
          rw [(slot?_eq_none_iff.1 h.unbound).1] at hbound
          cases hbound
        obtain ⟨bound', hbound', halike⟩ :=
          Entries.exists_get?_of_map_eq (h.globals other hother) hbound
        rw [hbound] at hvalue
        rw [hbound']
        exact h.value_carry ih halike (h.unmentioned.globals other bound hbound) hvalue
    | item other =>
      dsimp only at hvalue ⊢
      cases hbound : Entries.get? other scope.items with
      | none =>
        rw [hbound] at hvalue
        cases hvalue
      | some bound =>
        obtain ⟨bound', hbound', halike⟩ := Entries.exists_get?_of_map_eq (h.items other) hbound
        rw [hbound] at hvalue
        rw [hbound']
        obtain ⟨fields, hfields, hresult⟩ := Outcome.bind_eq_value_iff.1 hvalue
        exact Outcome.bind_eq_value_iff.2 ⟨fields,
          h.members_carry ih halike (h.unmentioned.items other bound hbound) hfields, hresult⟩

/-- The bindings of the document yield the same values with the probe. -/
theorem yields {slot : Slot} {value : Value} (hvalue : Yields scope (.slot slot) value) :
    Yields scope' (.slot slot) value := by
  obtain ⟨depth, hvalue⟩ := Bare.yields_iff.1 hvalue
  exact Bare.yields_iff.2 ⟨depth, h.slotValue depth slot value hvalue⟩

/-- So does its metadata. -/
theorem yields_metadata {expr expr' : ValueExpr} (halike : expr'.unplaced = expr.unplaced)
    (hexpr : ∀ mention ∈ expr.mentions, mention ≠ .name key) {value : Value}
    (hvalue : Yields scope (.metadata expr) value) : Yields scope' (.metadata expr') value := by
  obtain ⟨depth, hvalue⟩ := Bare.yields_iff.1 hvalue
  refine Bare.yields_iff.2 ⟨depth, ?_⟩
  rw [Bare.outcome, Bare.effectsAt, h.services]
  exact h.value_carry (h.slotValue depth) halike hexpr hvalue

/-- Where all tasks of the document yield values, so do all tasks with the probe, except for
the probe itself. -/
theorem yields_all (hall : ∀ task ∈ scope.tasks, ∃ value, Yields scope task value) :
    ∀ task ∈ scope'.tasks,
      task = .slot (.global key) ∨ ∃ value, Yields scope' task value := by
  rw [forall_mem_tasks] at hall ⊢
  obtain ⟨hglobals, hmetadata, hitems⟩ := hall
  refine ⟨?_, ?_, ?_⟩
  · rintro ⟨other, bound'⟩ hmem
    by_cases hother : other = key
    · exact .inl (by rw [hother])
    · have hcontains : Entries.contains other scope'.globals :=
        Entries.contains_iff_mem_keys.2 (List.mem_map_of_mem (f := (·.1)) hmem)
      rw [Entries.contains_eq_of_map_eq (h.globals other hother)] at hcontains
      obtain ⟨bound, hbound⟩ := Option.isSome_iff_exists.1 hcontains
      obtain ⟨value, hvalue⟩ := hglobals _ (Entries.mem_of_get? hbound)
      exact .inr ⟨value, h.yields hvalue⟩
  · intro bound' hmem
    have hmem' := List.mem_map_of_mem (f := fun bound => bound.2.1.unplaced) hmem
    rw [h.metadata] at hmem'
    obtain ⟨bound, hbound, halike⟩ := List.mem_map.1 hmem'
    obtain ⟨value, hvalue⟩ := hmetadata bound hbound
    exact .inr ⟨value, h.yields_metadata halike.symm (h.unmentioned.metadata bound hbound) hvalue⟩
  · rintro ⟨other, bound'⟩ hmem
    have hcontains : Entries.contains other scope'.items :=
      Entries.contains_iff_mem_keys.2 (List.mem_map_of_mem (f := (·.1)) hmem)
    rw [Entries.contains_eq_of_map_eq (h.items other)] at hcontains
    obtain ⟨bound, hbound⟩ := Option.isSome_iff_exists.1 hcontains
    obtain ⟨value, hvalue⟩ := hitems _ (Entries.mem_of_get? hbound)
    exact .inr ⟨value, h.yields hvalue⟩

/-- The probe is one of the tasks. -/
theorem probe_mem_tasks : .slot (.global key) ∈ scope'.tasks := by
  obtain ⟨range, range', hprobe⟩ := h.probe
  exact slot_mem_tasks (by simp [Binds, Entries.contains, hprobe])

/-! ## What the probe finds -/

/-- The probe is what its name stands for. -/
theorem exists_outcome : ∃ range, ∀ depth, outcome scope' (depth + 1) (.slot (.global key)) =
    Evaluation.nameValue scope' (effectsAt scope' depth) none name range := by
  obtain ⟨range, range', hprobe⟩ := h.probe
  refine ⟨range, fun depth => ?_⟩
  simp only [outcome, ByName.slotValue, Evaluation.bindingValue, hprobe, Evaluation.value,
    Evaluation.operandValue, effectsAt]

/-- The probe yields the value of a binding of the document. -/
theorem probe_of_slot (hname : Key.canonical name ≠ key) {slot : Slot}
    (hslot : scope.slot? (Key.canonical name) = some slot) {value : Value}
    (hvalue : Yields scope (.slot slot) value) : Yields scope' (.slot (.global key)) value := by
  obtain ⟨range, houtcome⟩ := h.exists_outcome
  obtain ⟨depth, hvalue⟩ := h.yields hvalue
  refine ⟨depth + 1, ?_⟩
  rw [houtcome]
  simp only [Evaluation.nameValue, Evaluation.sibling?, Option.bind_none, h.slot?_eq hname, hslot]
  exact hvalue

/-- Where the document has no such binding, the probe yields what is included. -/
theorem probe_of_included (hname : Key.canonical name ≠ key)
    (hslot : scope.slot? (Key.canonical name) = none) {value : Value}
    (hvalue : scope.included? (Key.canonical name) = some value) :
    Yields scope' (.slot (.global key)) value := by
  obtain ⟨range, houtcome⟩ := h.exists_outcome
  refine ⟨1, ?_⟩
  rw [houtcome]
  simp only [Evaluation.nameValue, Evaluation.sibling?, Option.bind_none, h.slot?_eq hname, hslot,
    h.included?_eq, hvalue]
  rfl

/-- Where nothing is included either, the probe is unresolved. -/
theorem probe_unresolved (hname : Key.canonical name ≠ key)
    (hslot : scope.slot? (Key.canonical name) = none)
    (hincluded : scope.included? (Key.canonical name) = none) :
    ∃ range, Fails scope' (.slot (.global key)) (.fault (.unresolved name) range) := by
  obtain ⟨range, houtcome⟩ := h.exists_outcome
  refine ⟨range, 1, ?_⟩
  rw [houtcome]
  simp only [Evaluation.nameValue, Evaluation.sibling?, Option.bind_none, h.slot?_eq hname, hslot,
    h.included?_eq, hincluded]
  rfl

/-- A probe of its own name recurs without bound. -/
theorem probe_recurs (hname : Key.canonical name = key) : Recurs scope' (.slot (.global key)) := by
  obtain ⟨range, houtcome⟩ := h.exists_outcome
  have hslot : scope'.slot? (Key.canonical name) = some (.global key) := by
    obtain ⟨range, range', hprobe⟩ := h.probe
    rw [hname]
    unfold slot? Entries.contains
    simp [hprobe]
  intro depth
  induction depth with
  | zero => rfl
  | succ depth ih =>
    rw [houtcome]
    simp only [Evaluation.nameValue, Evaluation.sibling?, Option.bind_none, hslot]
    exact ih

/-! ## Documents -/

section

variable (hall : ∀ task ∈ scope.tasks, ∃ value, Yields scope task value) {memory : Memory}
  (hmemory : memory.Faithful scope')
include hall hmemory

/-- A probe that yields a value has it in the configuration. -/
theorem evaluate_found (hnodup : (Entries.keys scope'.globals).Nodup) {value : Value}
    (hvalue : Yields scope' (.slot (.global key)) value) :
    ∃ config after, scope'.evaluate memory = .ok config after ∧
      Entries.get? key config.globals = some value := by
  have hall' : ∀ task ∈ scope'.tasks, ∃ value, Yields scope' task value := by
    intro task htask
    rcases h.yields_all hall task htask with rfl | hother
    · exact ⟨value, hvalue⟩
    · exact hother
  obtain ⟨config, after, hrun, hdescribes⟩ := evaluate_of_yields hall' hmemory
  obtain ⟨range, range', hprobe⟩ := h.probe
  have hcontains : Entries.contains key scope'.globals := by
    rw [Entries.contains, hprobe]
    rfl
  exact ⟨config, after, hrun, (hdescribes.get?_globals hnodup hcontains value).2 hvalue⟩

/-- A probe that yields no value stops the evaluation. -/
theorem evaluate_stops (hvalue : ∀ value, ¬ Yields scope' (.slot (.global key)) value) :
    ∃ flaw after, scope'.evaluate memory = .error flaw after ∧
      Stops scope' flaw (.slot (.global key)) := by
  have performed := scope'.evaluate_performs memory hmemory
  cases hrun : scope'.evaluate memory with
  | ok config after =>
    rw [hrun] at performed
    obtain ⟨value, hyields⟩ := performed.2.1 _ h.probe_mem_tasks
    exact absurd hyields (hvalue value)
  | error flaw after =>
    rw [hrun] at performed
    obtain ⟨before, task, rest, htasks, -, hstops⟩ := performed
    rcases h.yields_all hall task (by simp [htasks]) with rfl | ⟨value, hyields⟩
    · exact ⟨flaw, after, rfl, hstops⟩
    · exact absurd hyields (hstops.not_yields value)

/-- A probe of a name that stands for nothing is unresolved. -/
theorem evaluate_unresolved (hname : Key.canonical name ≠ key)
    (hslot : scope.slot? (Key.canonical name) = none)
    (hincluded : scope.included? (Key.canonical name) = none) :
    ∃ range after, scope'.evaluate memory = .error (.fault (.unresolved name) range) after := by
  obtain ⟨range, hfails⟩ := h.probe_unresolved hname hslot hincluded
  obtain ⟨flaw, after, hrun, hstops⟩ := h.evaluate_stops hall hmemory hfails.not_yields
  rcases hstops with ⟨-, hrecurs⟩ | ⟨-, hfails'⟩
  · exact absurd hfails (hrecurs.not_fails _)
  · obtain rfl := hfails.unique hfails'
    exact ⟨range, after, hrun⟩

/-- A probe of its own name is a cycle. -/
theorem evaluate_self (hname : Key.canonical name = key) :
    ∃ chain range after, scope'.evaluate memory = .error (.cycle chain range) after := by
  have hrecurs := h.probe_recurs hname
  obtain ⟨flaw, after, hrun, hstops⟩ := h.evaluate_stops hall hmemory hrecurs.not_yields
  rcases hstops with ⟨hcycle, -⟩ | ⟨-, hfails⟩
  · cases flaw with
    | cycle chain range => exact ⟨chain, range, after, hrun⟩
    | fault cause range => exact hcycle.elim
  · exact absurd hfails (hrecurs.not_fails flaw)

end

end Probes

end Scope

end Rune
