/-!
# Rune - outcomes of bounded recursion

A recursion without memory may never end.  Cut off where calls nest deeper than a
given depth, it always has an outcome, and the outcomes at growing depths say what
the recursion does: it gives a value, it fails, or it nests deeper than every bound.

A computation on a state that remembers what it did follows such a recursion when
it gives the same value or fails in the same way.  Where it finds that it would come
back to something that it is just doing, the recursion nests without bound.

Main results:

- Definition {lit}`Settles` says what outcomes at growing depths come to, and
  {lit}`Follows` relates a computation on a state to them.
- Theorem {lit}`Settles.unique`: outcomes come to one thing at most.
- Theorem {lit}`tooDeep_of_comes_back`: what comes back to itself nests without bound.
- Definition {lit}`weightAt` weighs the calls that have a value at a depth, with the theorem
  {lit}`weightAt_add_le`: a call that has one only at a second depth adds its weight.
- Theorems {lit}`Follows.pure` and {lit}`Follows.bind`: computations that follow
  outcomes can be put together.
-/

namespace Rune

/-- What a recursion comes to when its calls may nest only so deep. -/
inductive Outcome (ε α : Type) where
  | value (a : α)
  | failure (error : ε)
  | tooDeep

namespace Outcome

variable {ε α β : Type}

/-- Go on with a value. -/
def bind (o : Outcome ε α) (f : α → Outcome ε β) : Outcome ε β :=
  match o with
  | .value a => f a
  | .failure error => .failure error
  | .tooDeep => .tooDeep

instance : Monad (Outcome ε) where
  pure := .value
  bind := bind

@[simp] theorem pure_eq (a : α) : (pure a : Outcome ε α) = .value a := rfl

@[simp] theorem value_bind (a : α) (f : α → Outcome ε β) : (Outcome.value a >>= f) = f a := rfl

@[simp] theorem failure_bind (error : ε) (f : α → Outcome ε β) :
    (Outcome.failure error >>= f) = .failure error := rfl

@[simp] theorem tooDeep_bind (f : α → Outcome ε β) :
    ((.tooDeep : Outcome ε α) >>= f) = .tooDeep := rfl

theorem bind_eq_value_iff {o : Outcome ε α} {f : α → Outcome ε β} {b : β} :
    o >>= f = .value b ↔ ∃ a, o = .value a ∧ f a = .value b := by
  cases o <;> simp

end Outcome

/-! ## Growing depths -/

variable {ε σ α β : Type}

/-- The outcomes at growing depths come to an outcome: it is reached at some depth
and kept from there on, and below that depth the calls nest too deep. -/
structure Settles (q : Nat → Outcome ε α) (o : Outcome ε α) : Prop where
  tooDeep_or_eq : ∀ n, q n = .tooDeep ∨ q n = o
  reached : ∃ depth, ∀ n, depth ≤ n → q n = o

namespace Settles

variable {q : Nat → Outcome ε α} {o : Outcome ε α}

/-- One and the same outcome at all depths. -/
theorem const (o : Outcome ε α) : Settles (fun _ => o) o :=
  ⟨fun _ => .inr rfl, 0, fun _ _ => rfl⟩

/-- An outcome that is come to is the outcome at some depth. -/
theorem exists_eq (h : Settles q o) : ∃ n, q n = o := by
  obtain ⟨depth, hdepth⟩ := h.reached
  exact ⟨depth, hdepth depth (Nat.le_refl _)⟩

/-- Outcomes come to one thing at most. -/
theorem unique (h : Settles q o) {o' : Outcome ε α} (h' : Settles q o') : o = o' := by
  obtain ⟨depth, hdepth⟩ := h.reached
  obtain ⟨depth', hdepth'⟩ := h'.reached
  rw [← hdepth (max depth depth') (Nat.le_max_left _ _), ← hdepth' _ (Nat.le_max_right _ _)]

/-- An outcome at any depth that is not too deep is what the outcomes come to. -/
theorem eq_of_ne_tooDeep (h : Settles q o) {n : Nat} (hn : q n ≠ .tooDeep) : q n = o :=
  (h.tooDeep_or_eq n).resolve_left hn

/-- Going on with a value that is come to. -/
theorem bind_value {a : α} (h : Settles q (.value a)) {f : Nat → α → Outcome ε β}
    {o : Outcome ε β} (hf : Settles (fun n => f n a) o) :
    Settles (fun n => q n >>= f n) o := by
  refine ⟨fun n => ?_, ?_⟩
  · rcases h.tooDeep_or_eq n with hn | hn
    · simp [hn]
    · simpa [hn] using hf.tooDeep_or_eq n
  · obtain ⟨depth, hdepth⟩ := h.reached
    obtain ⟨depth', hdepth'⟩ := hf.reached
    refine ⟨max depth depth', fun n hn => ?_⟩
    rw [hdepth n (Nat.le_trans (Nat.le_max_left _ _) hn), Outcome.value_bind]
    exact hdepth' n (Nat.le_trans (Nat.le_max_right _ _) hn)

/-- A failure that is come to is not gone on with. -/
theorem bind_failure {error : ε} (h : Settles q (.failure error))
    (f : Nat → α → Outcome ε β) : Settles (fun n => q n >>= f n) (.failure error) := by
  refine ⟨fun n => ?_, ?_⟩
  · rcases h.tooDeep_or_eq n with hn | hn <;> simp [hn]
  · obtain ⟨depth, hdepth⟩ := h.reached
    exact ⟨depth, fun n hn => by simp [hdepth n hn]⟩

/-- What a call comes to is what its body comes to, one level below. -/
theorem call {body : Nat → Outcome ε α} (h : Settles body o) (zero : q 0 = .tooDeep)
    (succ : ∀ n, q (n + 1) = body n) : Settles q o := by
  refine ⟨fun n => ?_, ?_⟩
  · cases n with
    | zero => exact .inl zero
    | succ n =>
      rw [succ]
      exact h.tooDeep_or_eq n
  · obtain ⟨depth, hdepth⟩ := h.reached
    refine ⟨depth + 1, fun n hn => ?_⟩
    cases n with
    | zero => omega
    | succ n =>
      rw [succ]
      exact hdepth n (by omega)

end Settles

/-- The depths at which calls that are being made nest too deep, there and at every
smaller depth. -/
def TooDeepUpTo {κ : Type} (call : κ → Nat → Outcome ε α) (pending : List κ) (n : Nat) : Prop :=
  ∀ k ≤ n, ∀ key ∈ pending, call key k = .tooDeep

/-- A call whose body needs the call itself nests without bound, as long as the calls
around it do.  The induction is on the depth: at the next one the body meets itself
at the one before. -/
theorem tooDeep_of_comes_back {κ : Type} {call : κ → Nat → Outcome ε α} {pending : List κ}
    {key : κ} {body : Nat → Outcome ε α} (zero : call key 0 = .tooDeep)
    (succ : ∀ n, call key (n + 1) = body n)
    (back : ∀ n, TooDeepUpTo call (pending ++ [key]) n → body n = .tooDeep) :
    ∀ n, TooDeepUpTo call pending n → call key n = .tooDeep := by
  intro n
  induction n using Nat.strongRecOn with
  | _ n ih =>
    intro hpending
    cases n with
    | zero => exact zero
    | succ n =>
      rw [succ]
      apply back
      intro k hk other hother
      rcases List.mem_append.1 hother with hother | hother
      · exact hpending k (by omega) other hother
      · obtain rfl := List.mem_singleton.1 hother
        exact ih k (by omega) fun k' hk' => hpending k' (by omega)

/-! ## Calls that have a value -/

section

variable {κ : Type} (call : κ → Nat → Outcome ε α) (weight : κ → Nat)

/-- The weight of a call that has a value at a depth. -/
def weightOf (depth : Nat) (key : κ) : Nat :=
  match call key depth with
  | .value _ => weight key
  | .failure _ | .tooDeep => 0

/-- The weight of the calls that have a value at a depth. -/
def weightAt (depth : Nat) : List κ → Nat
  | [] => 0
  | key :: keys => weightOf call weight depth key + weightAt depth keys

/-- The calls that have a value weigh at most as much as all of them. -/
theorem weightAt_le (depth : Nat) (keys : List κ) :
    weightAt call weight depth keys ≤ (keys.map weight).foldr (· + ·) 0 := by
  induction keys with
  | nil => exact Nat.le_refl 0
  | cons key keys ih =>
    refine Nat.add_le_add ?_ ih
    unfold weightOf
    split <;> simp

variable {call} {depth depth' : Nat} {keys : List κ}
  (hmono : ∀ key value, call key depth = .value value → call key depth' = .value value)
include hmono

theorem weightOf_mono (key : κ) :
    weightOf call weight depth key ≤ weightOf call weight depth' key := by
  unfold weightOf
  cases h : call key depth with
  | value value => simp [hmono key value h]
  | failure | tooDeep => exact Nat.zero_le _

/-- Where more calls have a value, they weigh more. -/
theorem weightAt_mono (keys : List κ) :
    weightAt call weight depth keys ≤ weightAt call weight depth' keys := by
  induction keys with
  | nil => exact Nat.le_refl 0
  | cons key keys ih => exact Nat.add_le_add (weightOf_mono weight hmono key) ih

/-- A call that has a value at the second depth only adds its weight. -/
theorem weightAt_add_le {key : κ} (hkey : key ∈ keys)
    (hnew : ∀ value, call key depth ≠ .value value) {value : α}
    (hvalue : call key depth' = .value value) :
    weightAt call weight depth keys + weight key ≤ weightAt call weight depth' keys := by
  induction keys with
  | nil => cases hkey
  | cons first keys ih =>
    rw [weightAt, weightAt]
    rcases List.mem_cons.1 hkey with rfl | hkey
    · have hzero : weightOf call weight depth key = 0 := by
        unfold weightOf
        split
        · exact absurd ‹_› (hnew _)
        · rfl
        · rfl
      have hall : weightOf call weight depth' key = weight key := by simp [weightOf, hvalue]
      have hrest := weightAt_mono weight hmono keys
      omega
    · have hfirst := weightOf_mono weight hmono first
      have hrest := ih hkey
      omega

end

/-! ## Computations on a state -/

/-- Reading the state leaves it as it is. -/
theorem get_eq (s : σ) : (get : EStateM ε σ σ) s = .ok s s := rfl

/-- Two computations, one after the other, succeed if both of them do. -/
theorem bind_eq_ok_iff {x : EStateM ε σ α} {f : α → EStateM ε σ β} {s after : σ} {b : β} :
    (x >>= f) s = .ok b after ↔ ∃ a mid, x s = .ok a mid ∧ f a mid = .ok b after := by
  simp only [Bind.bind, EStateM.bind]
  constructor
  · intro h
    cases hx : x s with
    | error error mid =>
      rw [hx] at h
      cases h
    | ok a mid =>
      rw [hx] at h
      exact ⟨a, mid, rfl, h⟩
  · rintro ⟨a, mid, hx, h⟩
    rw [hx]
    exact h

section Follows

variable (Sound : σ → Prop) (Recurs : ε → Prop) (deep : Nat → Prop)

/-- How the result of a computation on a state agrees with outcomes at growing
depths.  The errors in {lit}`Recurs` report a call that came back to itself; then the
outcomes are too deep wherever the calls that are being made are. -/
inductive Agrees : EStateM.Result ε σ α → (Nat → Outcome ε α) → Prop
  | value {a : α} {s : σ} {q : Nat → Outcome ε α} :
      Sound s → Settles q (.value a) → Agrees (.ok a s) q
  | failure {error : ε} {s : σ} {q : Nat → Outcome ε α} :
      Sound s → ¬ Recurs error → Settles q (.failure error) → Agrees (.error error s) q
  | recurs {error : ε} {s : σ} {q : Nat → Outcome ε α} :
      Sound s → Recurs error → (∀ n, deep n → q n = .tooDeep) → Agrees (.error error s) q

/-- A computation on a state follows outcomes at growing depths, from every sound
state. -/
def Follows (x : EStateM ε σ α) (q : Nat → Outcome ε α) : Prop :=
  ∀ s, Sound s → Agrees Sound Recurs deep (x s) q

variable {Sound Recurs deep}

/-- Where an outcome is a value, that is the result. -/
theorem Agrees.ok_of_eq {result : EStateM.Result ε σ α} {q : Nat → Outcome ε α}
    (h : Agrees Sound Recurs deep result q) (hdeep : ∀ n, deep n) {n : Nat} {a : α}
    (hq : q n = .value a) : ∃ s, result = .ok a s ∧ Sound s := by
  cases h with
  | @value a' s _ hs hq' =>
    have heq := hq'.eq_of_ne_tooDeep (n := n) (by simp [hq])
    rw [hq] at heq
    cases heq
    exact ⟨s, rfl, hs⟩
  | failure _ _ hq' =>
    have heq := hq'.eq_of_ne_tooDeep (n := n) (by simp [hq])
    rw [hq] at heq
    cases heq
  | recurs _ _ hback =>
    rw [hback n (hdeep n)] at hq
    cases hq

/-- Where the outcomes come to a value, that is the result. -/
theorem Agrees.eq_ok {result : EStateM.Result ε σ α} {q : Nat → Outcome ε α}
    (h : Agrees Sound Recurs deep result q) (hdeep : ∀ n, deep n) {a : α}
    (hq : Settles q (.value a)) : ∃ s, result = .ok a s := by
  obtain ⟨n, hn⟩ := hq.exists_eq
  obtain ⟨s, hresult, -⟩ := h.ok_of_eq hdeep hn
  exact ⟨s, hresult⟩

namespace Follows

/-- Nothing is lost where fewer calls around are too deep. -/
theorem of_deep {deep' : Nat → Prop} {x : EStateM ε σ α} {q : Nat → Outcome ε α}
    (h : Follows Sound Recurs deep x q) (hdeep : ∀ n, deep' n → deep n) :
    Follows Sound Recurs deep' x q := by
  intro s hs
  have result := h s hs
  generalize x s = r at result ⊢
  cases result with
  | value hafter hq => exact .value hafter hq
  | failure hafter hother hq => exact .failure hafter hother hq
  | recurs hafter hback hq => exact .recurs hafter hback fun n hn => hq n (hdeep n hn)

/-- A value without computation. -/
theorem pure (a : α) : Follows Sound Recurs deep (pure a) (fun _ => pure a) :=
  fun _ hs => .value hs (Settles.const _)

/-- Computations one after another. -/
theorem bind {x : EStateM ε σ α} {q : Nat → Outcome ε α} {f : α → EStateM ε σ β}
    {g : Nat → α → Outcome ε β} (hx : Follows Sound Recurs deep x q)
    (hf : ∀ a, Follows Sound Recurs deep (f a) (fun n => g n a)) :
    Follows Sound Recurs deep (x >>= f) (fun n => q n >>= g n) := by
  intro s hs
  have step := hx s hs
  change Agrees Sound Recurs deep (EStateM.bind x f s) _
  rw [EStateM.bind]
  cases hrun : x s with
  | error error after =>
    rw [hrun] at step
    cases step with
    | failure hafter hother hq => exact .failure hafter hother (hq.bind_failure g)
    | recurs hafter hback hq =>
      exact .recurs hafter hback fun n hn => by simp [hq n hn]
  | ok a after =>
    rw [hrun] at step
    cases step with
    | value hafter hq =>
      have rest := hf a after hafter
      dsimp only
      generalize f a after = result at rest ⊢
      cases rest with
      | value hlast hg => exact .value hlast (hq.bind_value hg)
      | failure hlast hother hg => exact .failure hlast hother (hq.bind_value hg)
      | recurs hlast hback hg =>
        refine .recurs hlast hback fun n hn => ?_
        rcases hq.tooDeep_or_eq n with hn' | hn'
        · simp [hn']
        · simpa [hn'] using hg n hn

end Follows

end Follows

end Rune
