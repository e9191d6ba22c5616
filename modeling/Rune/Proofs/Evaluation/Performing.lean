import Rune.Proofs.Evaluation.Tasks
import Mathlib.Data.List.Forall2

/-!
# Rune - performing the tasks of a document

A document is evaluated by performing its tasks in their order, up to the first one
that does not yield a value.

Main results:

- Definition {lit}`ByName.Performs` says that an evaluation performs tasks.
- Theorem {lit}`Scope.evaluate_performs`: evaluating a document performs its tasks, and
  the entries of the configuration are what they yield.
-/

namespace Rune

namespace ByName

/-- Entries are what the tasks of bindings yield, binding by binding. -/
def Fills {β : Type} (scope : Scope) (task : String × β → Task) (bindings : List (String × β))
    (entries : Entries Value) : Prop :=
  List.Forall₂ (fun bound entry => entry.1 = bound.1 ∧ Yields scope (task bound) entry.2)
    bindings entries

namespace Fills

variable {β : Type} {scope : Scope} {task : String × β → Task} {bindings : List (String × β)}
  {entries : Entries Value}

/-- The keys are those of the bindings. -/
theorem keys_eq (h : Fills scope task bindings entries) :
    Entries.keys entries = Entries.keys bindings :=
  Entries.keys_eq_of_forall₂ h

/-- An entry is found exactly where a binding is, and it is what that one yields. -/
theorem get?_iff (h : Fills scope task bindings entries) (key : String) (value : Value) :
    Entries.get? key entries = some value ↔
      ∃ bound, Entries.get? key bindings = some bound ∧ Yields scope (task (key, bound)) value := by
  induction h with
  | nil => simp [Entries.get?]
  | @cons bound entry bindings entries hentry _ ih =>
    obtain ⟨name, bound⟩ := bound
    obtain ⟨other, known⟩ := entry
    obtain ⟨rfl, hknown⟩ := hentry
    by_cases hkey : other = key
    · subst hkey
      simp only [Entries.get?, if_true, Option.some.injEq, exists_eq_left']
      constructor
      · rintro rfl
        exact hknown
      · intro hvalue
        exact hknown.unique hvalue
    · simpa [Entries.get?, hkey] using ih

/-- The same read backwards. -/
theorem reverse (h : Fills scope task bindings entries) :
    Fills scope task bindings.reverse entries.reverse :=
  List.rel_reverse h

end Fills

/-! ## Performing tasks -/

/-- An evaluation performs tasks: either all of them yield values and it has a result
for which the postcondition holds, or it stops in the first one that does not. -/
def Performs (scope : Scope) (tasks : List Task) {α : Type} (x : Eval α) (post : α → Prop) :
    Prop :=
  ∀ memory, memory.Faithful scope →
    match x memory with
    | .ok a after =>
      after.Faithful scope ∧ (∀ task ∈ tasks, ∃ value, Yields scope task value) ∧ post a
    | .error flaw _ => First scope tasks (Stops scope flaw)

variable {scope : Scope}

namespace Performs

variable {α β : Type}

/-- A value without computation performs no task. -/
theorem pure {a : α} {post : α → Prop} (h : post a) : Performs scope [] (pure a) post :=
  fun _ hmemory => ⟨hmemory, by simp, h⟩

/-- Reading the memory performs no task. -/
theorem get : Performs scope [] (get : Eval Memory) (fun _ => True) :=
  fun _ hmemory => ⟨hmemory, by simp, trivial⟩

/-- Recording a location performs no task. -/
theorem record (space : Namespace) (path : List String) (range : TextRange) :
    Performs scope [] (Evaluation.record scope space path range) (fun _ => True) :=
  fun _ hmemory =>
    ⟨hmemory.of_eq (fun slot => Memory.value?_record _ _ _ slot) rfl, by simp, trivial⟩

/-- One task after another. -/
theorem bind {tasks more : List Task} {x : Eval α} {f : α → Eval β} {mid : α → Prop}
    {post : β → Prop} (hx : Performs scope tasks x mid)
    (hf : ∀ a, mid a → Performs scope more (f a) post) :
    Performs scope (tasks ++ more) (x >>= f) post := by
  intro memory hmemory
  have first := hx memory hmemory
  simp only [Bind.bind, EStateM.bind]
  generalize x memory = result at first ⊢
  cases result with
  | error flaw after => exact first.append more
  | ok a after =>
    obtain ⟨hafter, htasks, hmid⟩ := first
    have rest := hf a hmid after hafter
    dsimp only
    generalize f a after = result at rest ⊢
    cases result with
    | error flaw last => exact rest.prepend htasks
    | ok b last =>
      obtain ⟨hlast, hmore, hpost⟩ := rest
      refine ⟨hlast, fun task htask => ?_, hpost⟩
      rcases List.mem_append.1 htask with htask | htask
      · exact htasks task htask
      · exact hmore task htask

/-- A weaker postcondition. -/
theorem mono {tasks : List Task} {x : Eval α} {post weaker : α → Prop}
    (hx : Performs scope tasks x post) (h : ∀ a, post a → weaker a) :
    Performs scope tasks x weaker := by
  intro memory hmemory
  have result := hx memory hmemory
  generalize x memory = after at result ⊢
  cases after with
  | error flaw after => exact result
  | ok a after => exact ⟨result.1, result.2.1, h a result.2.2⟩

/-- What is made of a result performs no further task. -/
theorem map {tasks : List Task} {x : Eval α} {f : α → β} {mid : α → Prop} {post : β → Prop}
    (hx : Performs scope tasks x mid) (h : ∀ a, mid a → post (f a)) :
    Performs scope tasks (x >>= fun a => Pure.pure (f a)) post := by
  rw [← List.append_nil tasks]
  exact hx.bind fun a ha => pure (h a ha)

/-- What follows the plain outcomes of a task performs it. -/
theorem of_tracks (task : Task) {x : Eval Value}
    (h : Tracks scope (fun _ => True) x (fun depth => outcome scope depth task)) :
    Performs scope [task] x (Yields scope task) := by
  intro memory hmemory
  have result := h memory hmemory
  generalize x memory = after at result ⊢
  cases result with
  | value hafter hvalue =>
    refine ⟨hafter, fun other hother => ?_, hvalue.exists_eq⟩
    obtain rfl := List.mem_singleton.1 hother
    exact ⟨_, hvalue.exists_eq⟩
  | failure _ hother hflaw =>
    exact ⟨[], task, [], rfl, by simp, .inr ⟨hother, hflaw.exists_eq⟩⟩
  | recurs _ hcycle hdeep =>
    exact ⟨[], task, [], rfl, by simp, .inl ⟨hcycle, fun depth => hdeep depth trivial⟩⟩

end Performs

end ByName

/-! ## Documents -/

namespace Evaluation

open ByName

variable {scope : Scope}

theorem globalValues_performs (bindings : Entries (ValueExpr × TextRange))
    (hbinds : ∀ bound ∈ bindings, scope.Binds (.global bound.1)) :
    Performs scope (bindings.map fun bound => .slot (.global bound.1))
      (globalValues scope bindings)
      (Fills scope (fun bound => .slot (.global bound.1)) bindings) := by
  induction bindings with
  | nil => exact .pure .nil
  | cons bound bindings ih =>
    obtain ⟨name, expr, range⟩ := bound
    have htask := Performs.of_tracks (.slot (.global name))
      (forceSlot_tracks (hbinds _ List.mem_cons_self) range)
    have hrest := ih fun other hother => hbinds other (List.mem_cons_of_mem _ hother)
    exact (Performs.record _ _ _).bind fun _ _ => htask.bind fun value hvalue =>
      hrest.map fun rest hfills => .cons ⟨rfl, hvalue⟩ hfills

theorem itemValues_performs (bindings : Entries (List Member × TextRange))
    (hbinds : ∀ bound ∈ bindings, scope.Binds (.item bound.1)) :
    Performs scope (bindings.map fun bound => .slot (.item bound.1))
      (itemValues scope bindings)
      (Fills scope (fun bound => .slot (.item bound.1)) bindings) := by
  induction bindings with
  | nil => exact .pure .nil
  | cons bound bindings ih =>
    obtain ⟨name, children, range⟩ := bound
    have htask := Performs.of_tracks (.slot (.item name))
      (forceSlot_tracks (hbinds _ List.mem_cons_self) range)
    have hrest := ih fun other hother => hbinds other (List.mem_cons_of_mem _ hother)
    exact htask.bind fun value hvalue =>
      hrest.map fun rest hfills => .cons ⟨rfl, hvalue⟩ hfills

theorem metadataValues_performs (given : Entries Value)
    (bindings : List (String × ValueExpr × TextRange)) :
    Performs scope (bindings.map fun bound => .metadata bound.2.1)
      (metadataValues scope given bindings)
      (fun result => ∃ entries, Fills scope (fun bound => .metadata bound.2.1) bindings entries ∧
        result = Entries.merge given entries) := by
  induction bindings generalizing given with
  | nil => exact .pure ⟨[], .nil, rfl⟩
  | cons bound bindings ih =>
    obtain ⟨key, expr, range⟩ := bound
    have htask := Performs.of_tracks (.metadata expr) (value_tracks scope expr)
    refine htask.bind fun value hvalue => (Performs.record _ _ _).bind fun _ _ =>
      (ih (Entries.insert key value given)).mono fun result hresult => ?_
    obtain ⟨entries, hfills, rfl⟩ := hresult
    exact ⟨(key, value) :: entries, .cons ⟨rfl, hvalue⟩ hfills, rfl⟩

end Evaluation

namespace ByName

/-- What the configuration of a document holds: what its bindings yield, after what is
included. -/
structure Describes (scope : Scope) (config : Config) : Prop where
  globals : ∃ own, Fills scope (fun bound => .slot (.global bound.1)) scope.globals own ∧
    config.globals = scope.withIncluded .globals own
  items : ∃ own, Fills scope (fun bound => .slot (.item bound.1)) scope.items own ∧
    config.items = scope.withIncluded .items own
  metadata : ∃ own, Fills scope (fun bound => .metadata bound.2.1) scope.metadata own ∧
    config.metadata = Entries.ofList own

end ByName

open ByName Evaluation in
/-- Evaluating a document performs its tasks. -/
theorem Scope.evaluate_performs (scope : Scope) :
    Performs scope scope.tasks scope.evaluate (Describes scope) := by
  have hglobals := globalValues_performs scope.globals fun bound h =>
    Entries.contains_iff_mem_keys.2 (List.mem_map_of_mem h)
  have hitems := itemValues_performs scope.items fun bound h =>
    Entries.contains_iff_mem_keys.2 (List.mem_map_of_mem h)
  rw [tasks, List.append_assoc]
  refine hglobals.bind fun globals hglobals =>
    (metadataValues_performs [] scope.metadata).bind fun metadata hmetadata => ?_
  rw [← List.append_nil (scope.items.map _)]
  refine hitems.bind fun items hitems => Performs.get.map fun memory _ => ?_
  exact ⟨⟨globals, hglobals, rfl⟩, ⟨items, hitems, rfl⟩, hmetadata⟩

end Rune
