import Rune.Proofs.Evaluation.Tracking

/-!
# Rune - what a task comes to

Plain evaluation of a task gives a value, it fails, or it recurs without bound, and
only one of these.

Main results:

- Theorem {lit}`ByName.outcome_cases`: there is no fourth possibility.
- Theorem {lit}`ByName.settles_of_outcome`: the outcome at one depth is the only one.
- Theorem {lit}`ByName.First.meet`: there is only one first task that yields no value.
-/

namespace Rune

/-- What is followed gives a value, or it fails, or it recurs without bound. -/
theorem Tracks.cases {scope : Scope} {α : Type} {x : Eval α} {q : Nat → Outcome Flaw α}
    (h : Tracks scope (fun _ => True) x q) :
    (∃ value, Settles q (.value value)) ∨
      (∃ flaw, ¬ flaw.IsCycle ∧ Settles q (.failure flaw)) ∨ ∀ depth, q depth = .tooDeep := by
  have result := h _ (Memory.faithful_fresh (Resources.truthful_fresh _))
  generalize x (.fresh .fresh) = after at result
  cases result with
  | value _ hvalue => exact .inl ⟨_, hvalue⟩
  | failure _ hother hflaw => exact .inr (.inl ⟨_, hother, hflaw⟩)
  | recurs _ _ hdeep => exact .inr (.inr fun depth => hdeep depth trivial)

/-- A binding of a document is one of its tasks. -/
theorem Scope.slot_mem_tasks {scope : Scope} {slot : Slot} (h : scope.Binds slot) :
    .slot slot ∈ scope.tasks := by
  rw [← mem_slots_iff, slots, List.mem_append] at h
  rcases h with hglobal | hitem
  · obtain ⟨bound, hbound, rfl⟩ := List.mem_map.1 hglobal
    exact List.mem_append_left _ (List.mem_append_left _
      (List.mem_map_of_mem (f := fun bound => Task.slot (.global bound.1)) hbound))
  · obtain ⟨bound, hbound, rfl⟩ := List.mem_map.1 hitem
    exact List.mem_append_right _
      (List.mem_map_of_mem (f := fun bound => Task.slot (.item bound.1)) hbound)

namespace ByName

variable {scope : Scope} {task : Task}

/-- A slot without a binding fails at once. -/
theorem slotValue_of_unbound {slot : Slot} (h : ¬ scope.Binds slot) :
    Settles (fun depth => slotValue scope depth slot)
      (.failure (.fault (.unresolved slot.name) (.empty 0))) := by
  refine Settles.call (Settles.const _) rfl fun depth => ?_
  cases slot <;> simp_all [slotValue, Evaluation.bindingValue, Scope.Binds, Entries.contains,
    effects, Slot.name]

/-- A task comes to a value, or it fails, or it recurs without bound. -/
theorem outcome_cases (scope : Scope) (task : Task) :
    (∃ value, Settles (fun depth => outcome scope depth task) (.value value)) ∨
      (∃ flaw, ¬ flaw.IsCycle ∧ Settles (fun depth => outcome scope depth task) (.failure flaw)) ∨
      Recurs scope task := by
  cases task with
  | metadata expr =>
    exact (Evaluation.value_tracks scope expr).cases
  | slot slot =>
    by_cases hslot : scope.Binds slot
    · exact (Evaluation.forceSlot_tracks hslot (.empty 0)).cases
    · exact .inr (.inl ⟨_, id, slotValue_of_unbound hslot⟩)

/-- An outcome at one depth is what the outcomes come to. -/
theorem settles_of_outcome {depth : Nat} {o : Outcome Flaw Value}
    (h : outcome scope depth task = o) (ho : o ≠ .tooDeep) :
    Settles (fun depth => outcome scope depth task) o := by
  have hne : outcome scope depth task ≠ .tooDeep := h ▸ ho
  rcases outcome_cases scope task with ⟨value, hvalue⟩ | ⟨flaw, -, hflaw⟩ | hrecurs
  · rw [← h, hvalue.eq_of_ne_tooDeep hne]
    exact hvalue
  · rw [← h, hflaw.eq_of_ne_tooDeep hne]
    exact hflaw
  · exact absurd (hrecurs depth) hne

/-- A task comes to the value that it yields. -/
theorem Yields.settles {value : Value} (h : Yields scope task value) :
    Settles (fun depth => outcome scope depth task) (.value value) := by
  obtain ⟨depth, h⟩ := h
  exact settles_of_outcome h (by simp)

/-- A task yields one value at most. -/
theorem Yields.unique {value other : Value} (h : Yields scope task value)
    (h' : Yields scope task other) : value = other :=
  Outcome.value.inj (h.settles.unique h'.settles)

/-- A task that fails comes to a failure, and not because of a cycle. -/
theorem Fails.settles {flaw : Flaw} (h : Fails scope task flaw) :
    ¬ flaw.IsCycle ∧ Settles (fun depth => outcome scope depth task) (.failure flaw) := by
  obtain ⟨depth, h⟩ := h
  have hflaw := settles_of_outcome h (by simp)
  refine ⟨?_, hflaw⟩
  rcases outcome_cases scope task with ⟨value, hvalue⟩ | ⟨other, hother, hsettles⟩ | hrecurs
  · cases hvalue.unique hflaw
  · cases hsettles.unique hflaw
    exact hother
  · rw [hrecurs depth] at h
    cases h

/-- A task fails because of one flaw at most. -/
theorem Fails.unique {flaw other : Flaw} (h : Fails scope task flaw)
    (h' : Fails scope task other) : flaw = other :=
  Outcome.failure.inj (h.settles.2.unique h'.settles.2)

/-- A task that yields a value does not fail. -/
theorem Fails.not_yields {flaw : Flaw} (h : Fails scope task flaw) (value : Value) :
    ¬ Yields scope task value := by
  intro hvalue
  cases h.settles.2.unique hvalue.settles

/-- A task that yields a value does not recur without bound. -/
theorem Recurs.not_yields (h : Recurs scope task) (value : Value) :
    ¬ Yields scope task value := by
  rintro ⟨depth, hvalue⟩
  rw [h depth] at hvalue
  cases hvalue

/-- A task that fails does not recur without bound. -/
theorem Recurs.not_fails (h : Recurs scope task) (flaw : Flaw) : ¬ Fails scope task flaw := by
  rintro ⟨depth, hflaw⟩
  rw [h depth] at hflaw
  cases hflaw

/-! ## The first task without a value -/

namespace First

variable {tasks : List Task} {p q : Task → Prop}

/-- A weaker property. -/
theorem mono (h : First scope tasks p) (hpq : ∀ task, p task → q task) : First scope tasks q := by
  obtain ⟨before, task, after, htasks, hbefore, htask⟩ := h
  exact ⟨before, task, after, htasks, hbefore, hpq task htask⟩

/-- More tasks to come do not matter. -/
theorem append (h : First scope tasks p) (more : List Task) : First scope (tasks ++ more) p := by
  obtain ⟨before, task, after, rfl, hbefore, htask⟩ := h
  exact ⟨before, task, after ++ more, by simp, hbefore, htask⟩

/-- Tasks before that yield values do not matter. -/
theorem prepend (h : First scope tasks p) {earlier : List Task}
    (hearlier : ∀ task ∈ earlier, ∃ value, Yields scope task value) :
    First scope (earlier ++ tasks) p := by
  obtain ⟨before, task, after, rfl, hbefore, htask⟩ := h
  refine ⟨earlier ++ before, task, after, by simp, ?_, htask⟩
  intro other hother
  rcases List.mem_append.1 hother with hother | hother
  · exact hearlier other hother
  · exact hbefore other hother

/-- The first of several tasks is the one, or else it yields a value and the one comes
after it. -/
theorem cons_iff : First scope (task :: tasks) p ↔
    p task ∨ (∃ value, Yields scope task value) ∧ First scope tasks p := by
  constructor
  · rintro ⟨before, other, after, htasks, hbefore, hother⟩
    cases before with
    | nil =>
      obtain ⟨rfl, rfl⟩ := List.cons.inj htasks
      exact .inl hother
    | cons earlier before =>
      obtain ⟨rfl, rfl⟩ := List.cons.inj htasks
      obtain ⟨hearlier, hbefore⟩ := List.forall_mem_cons.1 hbefore
      exact .inr ⟨hearlier, before, other, after, rfl, hbefore, hother⟩
  · rintro (htask | ⟨hvalue, before, other, after, rfl, hbefore, hother⟩)
    · exact ⟨[], task, tasks, rfl, by simp, htask⟩
    · exact ⟨task :: before, other, after, rfl, List.forall_mem_cons.2 ⟨hvalue, hbefore⟩, hother⟩

/-- There is only one first task that yields no value. -/
theorem meet (hp : First scope tasks p) (hq : First scope tasks q)
    (noValue : ∀ task value, p task → ¬ Yields scope task value)
    (noValue' : ∀ task value, q task → ¬ Yields scope task value) :
    ∃ task ∈ tasks, p task ∧ q task := by
  induction tasks with
  | nil =>
    obtain ⟨before, task, after, h, -⟩ := hp
    simp at h
  | cons task tasks ih =>
    rcases cons_iff.1 hp with hp | ⟨⟨value, hvalue⟩, hp⟩
    · rcases cons_iff.1 hq with hq | ⟨⟨value, hvalue⟩, -⟩
      · exact ⟨task, List.mem_cons_self, hp, hq⟩
      · exact absurd hvalue (noValue task value hp)
    · rcases cons_iff.1 hq with hq | ⟨-, hq⟩
      · exact absurd hvalue (noValue' task value hq)
      · obtain ⟨other, hother, both⟩ := ih hp hq
        exact ⟨other, List.mem_cons_of_mem _ hother, both⟩

end First

/-- What stops an evaluation: the task fails because of the flaw or, if the flaw is a
cycle, it recurs without bound. -/
def Stops (scope : Scope) (flaw : Flaw) (task : Task) : Prop :=
  flaw.IsCycle ∧ Recurs scope task ∨ ¬ flaw.IsCycle ∧ Fails scope task flaw

theorem Stops.not_yields {flaw : Flaw} (h : Stops scope flaw task) (value : Value) :
    ¬ Yields scope task value := by
  rcases h with ⟨-, h⟩ | ⟨-, h⟩
  · exact h.not_yields value
  · exact h.not_yields value

end ByName

end Rune
