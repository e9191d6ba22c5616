import Rune.Proofs.Evaluation.Mirroring
import Rune.Proofs.Evaluation.Tracking
import Rune.Proofs.Session.Ledger

/-!
# Rune - evaluation from any state

An evaluation can be taken up from any memory, and while any bindings are being evaluated.  What
it comes to can be told without a memory that changes: a reference takes the value that the
memory had at the beginning, or it calls the binding, and a binding that was being evaluated at
the beginning and has no value never comes to one.  So it does not matter what was evaluated
since then, and evaluations can change places.

Main results:

- Definition {lit}`ByName.slotValueFrom` is the value of a top-level binding, taken up from a state.
- Structure {lit}`Memory.Extends` is the invariant: what was found out since then is what such
  calls come to.
- Theorem {lit}`Evaluation.forceWith_resumes`: a reference follows the calls.
- Theorem {lit}`Follows.swap`: two evaluations come to the same values in either order, or they
  fail in either order.
-/

namespace Rune

/-! ## Computations that change places -/

section Exchange

variable {ε σ α β : Type}

/-- Two runs give the same answer, or both of them fail. -/
inductive SameAnswer : EStateM.Result ε σ α → EStateM.Result ε σ α → Prop
  | answer {a : α} {s s' : σ} : SameAnswer (.ok a s) (.ok a s')
  | error {error error' : ε} {s s' : σ} : SameAnswer (.error error s) (.error error' s')

namespace SameAnswer

/-- What one run answers the other one answers. -/
theorem eq_ok {result result' : EStateM.Result ε σ α} (h : SameAnswer result result') {a : α}
    {s : σ} (hresult : result = .ok a s) : ∃ s', result' = .ok a s' := by
  subst hresult
  cases h
  exact ⟨_, rfl⟩

/-- Computations that give the same answer, and go on alike from that answer. -/
theorem bind {x y : EStateM ε σ α} {f g : α → EStateM ε σ β} {s s' : σ}
    (hxy : SameAnswer (x s) (y s')) (hfg : ∀ a t t', SameAnswer (f a t) (g a t')) :
    SameAnswer ((x >>= f) s) ((y >>= g) s') := by
  simp only [Bind.bind, EStateM.bind]
  generalize x s = result at hxy
  generalize y s' = result' at hxy
  cases hxy with
  | answer => exact hfg _ _ _
  | error => exact .error

end SameAnswer

/-- The answers of two computations, the first one made first. -/
def inOrder (x : EStateM ε σ α) (y : EStateM ε σ β) : EStateM ε σ (α × β) := do
  let a ← x
  let b ← y
  return (a, b)

/-- The answers of two computations, the second one made first. -/
def inReverse (x : EStateM ε σ α) (y : EStateM ε σ β) : EStateM ε σ (α × β) := do
  let b ← y
  let a ← x
  return (a, b)

theorem inOrder_eq_ok_iff {x : EStateM ε σ α} {y : EStateM ε σ β} {s after : σ} {a : α} {b : β} :
    inOrder x y s = .ok (a, b) after ↔ ∃ mid, x s = .ok a mid ∧ y mid = .ok b after := by
  simp only [inOrder, bind_eq_ok_iff]
  constructor
  · rintro ⟨_, mid, hx, _, _, hy, ⟨⟩⟩
    exact ⟨mid, hx, hy⟩
  · rintro ⟨mid, hx, hy⟩
    exact ⟨a, mid, hx, b, after, hy, rfl⟩

theorem inReverse_eq_ok_iff {x : EStateM ε σ α} {y : EStateM ε σ β} {s after : σ} {a : α} {b : β} :
    inReverse x y s = .ok (a, b) after ↔ ∃ mid, y s = .ok b mid ∧ x mid = .ok a after := by
  simp only [inReverse, bind_eq_ok_iff]
  constructor
  · rintro ⟨_, mid, hy, _, _, hx, ⟨⟩⟩
    exact ⟨mid, hy, hx⟩
  · rintro ⟨mid, hy, hx⟩
    exact ⟨b, mid, hy, a, after, hx, rfl⟩

variable {Sound : σ → Prop} {Recurs : ε → Prop} {deep : Nat → Prop}

/-- Two results that agree with the same outcomes give the same answer. -/
theorem Agrees.sameAnswer {result result' : EStateM.Result ε σ α} {q : Nat → Outcome ε α}
    (h : Agrees Sound Recurs deep result q) (h' : Agrees Sound Recurs deep result' q)
    (hdeep : ∀ n, deep n) : SameAnswer result result' := by
  cases h with
  | value hsound hq =>
    obtain ⟨s', rfl⟩ := h'.eq_ok hdeep hq
    exact .answer
  | failure hsound hother hq =>
    cases h' with
    | value _ hq' => cases hq.unique hq'
    | failure => exact .error
    | recurs => exact .error
  | recurs hsound hrecurs hback =>
    cases h' with
    | value _ hq' =>
      obtain ⟨n, hn⟩ := hq'.exists_eq
      rw [hback n (hdeep n)] at hn
      cases hn
    | failure => exact .error
    | recurs => exact .error

namespace Follows

variable {x : EStateM ε σ α} {q : Nat → Outcome ε α} {y : EStateM ε σ β} {r : Nat → Outcome ε β}

/-- What a computation that follows outcomes answers and leaves behind. -/
theorem of_ok (hx : Follows Sound Recurs deep x q) {s after : σ} (hs : Sound s) {a : α}
    (h : x s = .ok a after) : Sound after ∧ Settles q (.value a) := by
  have result := hx s hs
  rw [h] at result
  cases result with
  | value hsound hq => exact ⟨hsound, hq⟩

/-- Two computations that succeed one after the other succeed the other way round: each of them
follows its outcomes from wherever the other one leads. -/
theorem exchange (hx : Follows Sound Recurs deep x q) (hy : Follows Sound Recurs deep y r)
    (hdeep : ∀ n, deep n) {s mid after : σ} (hs : Sound s) {a : α} {b : β}
    (hfirst : x s = .ok a mid) (hsecond : y mid = .ok b after) :
    ∃ mid' after', y s = .ok b mid' ∧ x mid' = .ok a after' := by
  obtain ⟨hmid, hq⟩ := hx.of_ok hs hfirst
  obtain ⟨-, hr⟩ := hy.of_ok hmid hsecond
  obtain ⟨mid', hsecond'⟩ := (hy s hs).eq_ok hdeep hr
  obtain ⟨hmid', -⟩ := hy.of_ok hs hsecond'
  obtain ⟨after', hfirst'⟩ := (hx mid' hmid').eq_ok hdeep hq
  exact ⟨mid', after', hsecond', hfirst'⟩

/-- Two computations that follow outcomes can change places. -/
theorem swap (hx : Follows Sound Recurs deep x q) (hy : Follows Sound Recurs deep y r)
    (hdeep : ∀ n, deep n) {s : σ} (hs : Sound s) :
    SameAnswer (inOrder x y s) (inReverse x y s) := by
  cases horder : inOrder x y s with
  | ok pair after =>
    obtain ⟨mid, hfirst, hsecond⟩ := inOrder_eq_ok_iff.1 horder
    obtain ⟨mid', after', hsecond', hfirst'⟩ := hx.exchange hy hdeep hs hfirst hsecond
    rw [inReverse_eq_ok_iff.2 ⟨mid', hsecond', hfirst'⟩]
    exact .answer
  | error error after =>
    cases hreverse : inReverse x y s with
    | error => exact .error
    | ok pair after =>
      obtain ⟨mid, hsecond, hfirst⟩ := inReverse_eq_ok_iff.1 hreverse
      obtain ⟨mid', after', hfirst', hsecond'⟩ := hy.exchange hx hdeep hs hsecond hfirst
      rw [inOrder_eq_ok_iff.2 ⟨mid', hfirst', hsecond'⟩] at horder
      cases horder

end Follows

end Exchange

namespace ByName

variable (scope : Scope) (base : Memory) (pending : List Slot)

/-- The effects of an evaluation that is taken up from a memory: the system answers as it does
from there. -/
def effectsFrom (call : Slot → Outcome Flaw Value) : Effects (Outcome Flaw) :=
  { effects scope call with
    ask := fun key => .value (base.resources.fact scope.services.system key).1 }

/-- The value of a top-level binding, where calls nest at most {lit}`depth` deep.  A value in the
memory is taken as it is, and the bindings that are being evaluated never come to a value. -/
def slotValueFrom : Nat → Slot → Outcome Flaw Value
  | 0, _ => .tooDeep
  | depth + 1, slot =>
    match base.value? slot with
    | some known => .value known
    | none =>
      if slot ∈ pending then .tooDeep
      else Evaluation.bindingValue scope (effectsFrom scope base (slotValueFrom depth)) slot

variable {scope base pending} {slot : Slot}

theorem slotValueFrom_of_known {value : Value} (h : base.value? slot = some value) :
    Settles (fun depth => slotValueFrom scope base pending depth slot) (.value value) :=
  (Settles.const _).call rfl fun depth => by rw [slotValueFrom, h]

theorem slotValueFrom_of_pending (h : base.value? slot = none) (hpending : slot ∈ pending)
    (depth : Nat) : slotValueFrom scope base pending depth slot = .tooDeep := by
  cases depth with
  | zero => rfl
  | succ depth => rw [slotValueFrom, h, if_pos hpending]

theorem slotValueFrom_of_new (h : base.value? slot = none) (hpending : slot ∉ pending)
    (depth : Nat) : slotValueFrom scope base pending (depth + 1) slot =
      Evaluation.bindingValue scope
        (effectsFrom scope base (slotValueFrom scope base pending depth)) slot := by
  rw [slotValueFrom, h, if_neg hpending]

end ByName

/-! ## What is found out afterwards -/

/-- The answer to a key is the one that is remembered, or else the system's. -/
theorem Resources.fact_fst (system : String → Option String) (key : String)
    (resources : Resources) : (resources.fact system key).1 =
      (Entries.get? key resources.facts).getD (system key) := by
  obtain ⟨known, hget, heq⟩ | ⟨hget, heq⟩ := Resources.fact_cases system key resources
  · rw [heq, hget]
    rfl
  · rw [heq, hget]
    rfl

/-- Asking for one fact does not change the answer to another one. -/
theorem Resources.fact_fact (system : String → Option String) (key other : String)
    (resources : Resources) :
    ((resources.fact system key).2.fact system other).1 = (resources.fact system other).1 := by
  obtain ⟨known, -, heq⟩ | ⟨hget, heq⟩ := Resources.fact_cases system key resources
  · rw [heq]
  · rw [heq, Resources.fact_fst, Resources.fact_fst]
    simp only [Resources.note, Entries.get?_append]
    by_cases hother : other = key
    · subst hother
      simp [hget, Entries.get?]
    · simp [Entries.get?, Ne.symm hother]

/-- A memory goes on from another one: what that one has it has too, what it has besides is what
the bindings come to from there, and the system answers as from there. -/
structure Memory.Extends (scope : Scope) (pending : List Slot) (base memory : Memory) :
    Prop where
  kept : ∀ slot value, base.value? slot = some value → memory.value? slot = some value
  settles : ∀ slot value, memory.value? slot = some value →
    Settles (fun depth => ByName.slotValueFrom scope base pending depth slot) (.value value)
  answers : ∀ key, (memory.resources.fact scope.services.system key).1 =
    (base.resources.fact scope.services.system key).1

namespace Memory.Extends

variable {scope : Scope} {base memory : Memory} {pending : List Slot}

theorem refl (scope : Scope) (base : Memory) (pending : List Slot) :
    Extends scope pending base base :=
  ⟨fun _ _ h => h, fun _ _ => ByName.slotValueFrom_of_known, fun _ => rfl⟩

/-- Values and facts alone matter. -/
theorem of_eq (h : Extends scope pending base memory) {after : Memory}
    (hvalue : ∀ slot, after.value? slot = memory.value? slot)
    (hfacts : after.resources.facts = memory.resources.facts) :
    Extends scope pending base after := by
  refine ⟨fun slot value hslot => ?_, fun slot value hslot => ?_, fun key => ?_⟩
  · rw [hvalue]
    exact h.kept slot value hslot
  · rw [hvalue] at hslot
    exact h.settles slot value hslot
  · rw [← h.answers, Resources.fact_fst, Resources.fact_fst, hfacts]

/-- Remembering what a binding comes to that was not known. -/
theorem remember (h : Extends scope pending base memory) {slot : Slot} {value : Value}
    (hnew : base.value? slot = none)
    (hvalue : Settles (fun depth => ByName.slotValueFrom scope base pending depth slot)
      (.value value)) : Extends scope pending base (memory.remember slot value) := by
  refine ⟨fun other known hknown => ?_, fun other known hknown => ?_, by simpa using h.answers⟩
  · have hother : other ≠ slot := by
      rintro rfl
      rw [hnew] at hknown
      cases hknown
    rw [value?_remember_of_ne hother]
    exact h.kept other known hknown
  · by_cases hother : other = slot
    · subst hother
      rw [value?_remember_self] at hknown
      cases hknown
      exact hvalue
    · rw [value?_remember_of_ne hother] at hknown
      exact h.settles other known hknown

end Memory.Extends

/-! ## Following the calls -/

/-- An evaluation follows outcomes from every memory that goes on from a given one. -/
abbrev Resumes (scope : Scope) (base : Memory) (pending : List Slot) (deep : Nat → Prop)
    {α : Type} (x : Eval α) (q : Nat → Outcome Flaw α) : Prop :=
  Follows (Memory.Extends scope pending base) Flaw.IsCycle deep x q

namespace Evaluation

variable {scope : Scope} {base : Memory} {pending : List Slot} {deep : Nat → Prop}

theorem record_resumes (space : Namespace) (path : List String) (range : TextRange) :
    Resumes scope base pending deep (record scope space path range) (fun _ => .value ()) :=
  fun _ hmemory => .value (hmemory.of_eq (fun slot => Memory.value?_record _ _ _ slot) rfl)
    (Settles.const _)

theorem compile_resumes (source : String) (range : TextRange) :
    Resumes scope base pending deep (compile source range)
      (fun _ => ByName.compile source range) := by
  intro memory hmemory
  unfold compile ByName.compile
  cases hread : Pattern.read source with
  | ok pattern =>
    obtain ⟨after, hcompile, hfacts⟩ := Resources.compile_of_read hread memory.resources
    rw [hcompile]
    refine .value (hmemory.of_eq (fun slot => ?_) hfacts) (Settles.const _)
    cases slot <;> rfl
  | error reason =>
    rw [Resources.compile_of_read_error hread]
    exact .failure hmemory id (Settles.const _)

theorem ask_resumes (key : String) :
    Resumes scope base pending deep (ask scope key)
      (fun _ => .value (base.resources.fact scope.services.system key).1) := by
  intro memory hmemory
  unfold ask
  dsimp only
  rw [hmemory.answers key]
  refine .value ⟨fun slot value hslot => ?_, fun slot value hslot => ?_, fun other => ?_⟩
    (Settles.const _)
  · have hkept := hmemory.kept slot value hslot
    cases slot <;> exact hkept
  · refine hmemory.settles slot value ?_
    cases slot <;> exact hslot
  · exact (Resources.fact_fact _ key other _).trans (hmemory.answers other)

/-- If references follow calls, then so does all of evaluation. -/
theorem effects_resumes {force : Slot → TextRange → Eval Value}
    (hforce : ∀ slot, scope.Binds slot → ∀ range, Resumes scope base pending deep
      (force slot range) (fun depth => ByName.slotValueFrom scope base pending depth slot)) :
    Parametric scope (fun {_} x y => Resumes scope base pending deep x y) (effects scope force)
      (fun depth => ByName.effectsFrom scope base
        (ByName.slotValueFrom scope base pending depth)) where
  pure := Follows.pure
  bind := Follows.bind
  fail _ _ := fun _ hmemory => .failure hmemory id (Settles.const _)
  record := record_resumes
  compile := compile_resumes
  ask key := ask_resumes key.name
  force slot range hslot := hforce slot hslot range

/-- A reference follows the calls of its binding, from any memory and while any bindings are being
evaluated, as long as the fuel lasts. -/
theorem forceWith_resumes (hadmits : scope.Admits pending) {fuel : Nat}
    (hfuel : scope.size < fuel + pending.length) (base : Memory) {slot : Slot}
    (hslot : scope.Binds slot) (range : TextRange) :
    Resumes scope base pending (fun _ => True) (forceWith scope fuel pending slot range)
      (fun depth => ByName.slotValueFrom scope base pending depth slot) := by
  -- Meanwhile this holds as long as the bindings that were begun since then are too deep.
  let call (slot : Slot) (depth : Nat) := ByName.slotValueFrom scope base pending depth slot
  suffices h : ∀ since, pending = pending ++ since → ∀ range,
      Resumes scope base pending (TooDeepUpTo call since) (forceWith scope fuel pending slot range)
        (call slot) from
    (h [] (by simp) range).of_deep fun n _ => by simp [TooDeepUpTo]
  refine forceWith_induction (P := fun now slot force => ∀ since, now = pending ++ since →
    ∀ range, Resumes scope base pending (TooDeepUpTo call since) (force range) (call slot)) ?_
    hadmits.nodup hadmits.binds hfuel hslot
  rintro fuel now slot - ih since rfl range memory hmemory
  cases hknown : memory.value? slot with
  | some value =>
    rw [forceWith_known hknown]
    exact .value hmemory (hmemory.settles slot value hknown)
  | none =>
    have hnoted : Memory.Extends scope pending base (memory.noted scope slot) :=
      hmemory.of_eq (by simp) (by simp)
    have hbase : base.value? slot = none := by
      refine Option.eq_none_iff_forall_ne_some.2 fun value hvalue => ?_
      rw [hmemory.kept slot value hvalue] at hknown
      cases hknown
    by_cases hnow : slot ∈ pending ++ since
    · rw [forceWith_pending hknown hnow]
      refine .recurs hnoted trivial fun n hn => ?_
      rcases List.mem_append.1 hnow with hpending | hsince
      · exact ByName.slotValueFrom_of_pending hbase hpending n
      · exact hn n (Nat.le_refl n) slot hsince
    · rw [forceWith_anew hknown hnow]
      have hpending : slot ∉ pending := fun h => hnow (List.mem_append_left _ h)
      have hcall (n : Nat) : call slot (n + 1) = bindingValue scope (ByName.effectsFrom scope base
          (ByName.slotValueFrom scope base pending n)) slot :=
        ByName.slotValueFrom_of_new hbase hpending n
      have body := (effects_resumes fun other hother range =>
        ih hnow other hother (since ++ [slot]) (List.append_assoc _ _ _) range).bindingValue
          slot _ hnoted
      simp only [evaluateSlot, bind, EStateM.bind]
      generalize bindingValue scope
        (effects scope (forceWith scope fuel (pending ++ since ++ [slot]))) slot
        (memory.noted scope slot) = result at body ⊢
      cases body with
      | value hafter hvalue =>
        have hsettles : Settles (call slot) _ := hvalue.call rfl hcall
        exact .value (hafter.remember hbase hsettles) hsettles
      | failure hafter hother hflaw => exact .failure hafter hother (hflaw.call rfl hcall)
      | recurs hafter hcycle hback =>
        exact .recurs hafter hcycle (tooDeep_of_comes_back rfl hcall hback)

/-- All of evaluation follows the calls. -/
theorem effects_resume (hadmits : scope.Admits pending) {fuel : Nat}
    (hfuel : scope.size < fuel + pending.length) (base : Memory) :
    Parametric scope (fun {_} x y => Resumes scope base pending (fun _ => True) x y)
      (effects scope (forceWith scope fuel pending))
      (fun depth => ByName.effectsFrom scope base
        (ByName.slotValueFrom scope base pending depth)) :=
  effects_resumes fun _ hslot range => forceWith_resumes hadmits hfuel base hslot range

end Evaluation

end Rune
