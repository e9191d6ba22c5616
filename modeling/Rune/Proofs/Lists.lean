import Mathlib.Data.List.Forall2

/-!
# Rune - lists related entry by entry

Two runs that go side by side leave lists whose entries correspond one by one.  What
holds of the entries of one list, alone or in their order, is carried to the other.

Main results:

- Theorem {lit}`List.Forall₂.forall_mem` carries a property of all entries, and
  {lit}`List.Forall₂.pairwise` one of their order.
- Theorem {lit}`List.Forall₂.concat_left`: what is related to a list with a last entry
  has a last entry.
- Theorem {lit}`List.mapM_eq_ok_iff`: the results of a computation are related to the
  entries that it was done for.
-/

namespace List.Forall₂

variable {α β : Type} {r : α → β → Prop} {xs : List α} {ys : List β}

/-- What holds of all entries of one list holds of all entries of the other. -/
theorem forall_mem {p : α → Prop} {q : β → Prop} (h : Forall₂ r xs ys)
    (hpq : ∀ x y, r x y → p x → q y) (hxs : ∀ x ∈ xs, p x) : ∀ y ∈ ys, q y := by
  induction h with
  | nil => exact nofun
  | cons hxy _ ih =>
    rw [forall_mem_cons] at hxs ⊢
    exact ⟨hpq _ _ hxy hxs.1, ih hxs.2⟩

/-- What holds of the entries of one list in their order holds of those of the other. -/
theorem pairwise {s : α → α → Prop} {t : β → β → Prop} (h : Forall₂ r xs ys)
    (hst : ∀ {x x' y y'}, r x y → r x' y' → s x x' → t y y') (hxs : xs.Pairwise s) :
    ys.Pairwise t := by
  induction h with
  | nil => exact .nil
  | cons hxy hrest ih =>
    rw [pairwise_cons] at hxs ⊢
    exact ⟨hrest.forall_mem (fun _ _ hr => hst hxy hr) hxs.1, ih hxs.2⟩

/-- Entries at one place are related, and so is what stands in for entries that are
missing. -/
theorem getD_getElem? {x : α} {y : β} (h : Forall₂ r xs ys) (hxy : r x y) (n : Nat) :
    r (xs[n]?.getD x) (ys[n]?.getD y) := by
  induction h generalizing n with
  | nil => simpa using hxy
  | cons hhead _ ih =>
    cases n with
    | zero => simpa using hhead
    | succ n => simpa using ih n

/-- What is related to a list with a last entry has a last entry. -/
theorem concat_left {x : α} (h : Forall₂ r (xs ++ [x]) ys) :
    ∃ ys' y, ys = ys' ++ [y] ∧ Forall₂ r xs ys' ∧ r x y := by
  induction xs generalizing ys with
  | nil =>
    cases h with
    | cons hxy hrest =>
      cases hrest
      exact ⟨[], _, rfl, .nil, hxy⟩
  | cons a xs ih =>
    cases h with
    | cons hab hrest =>
      obtain ⟨ys', y, rfl, hys, hxy⟩ := ih hrest
      exact ⟨_ :: ys', y, rfl, .cons hab hys, hxy⟩

/-- Where entries are related by a function, the lists are. -/
theorem eq_map {g : α → β} (h : Forall₂ r xs ys) (hg : ∀ x y, r x y → y = g x) :
    ys = xs.map g := by
  induction h with
  | nil => rfl
  | cons hxy _ ih => rw [hg _ _ hxy, ih]; rfl

end List.Forall₂

/-- A computation for every entry of a list succeeds where each of them does. -/
theorem List.mapM_eq_ok_iff {α β ε : Type} {f : α → Except ε β} {as : List α} {bs : List β} :
    as.mapM f = .ok bs ↔ Forall₂ (fun a b => f a = .ok b) as bs := by
  induction as generalizing bs with
  | nil => simp [pure, Except.pure, eq_comm]
  | cons a as ih =>
    rw [mapM_cons, forall₂_cons_left_iff]
    cases ha : f a with
    | error e => simp [bind, Except.bind]
    | ok b =>
      simp only [← ih]
      cases as.mapM f with
      | error e => simp [bind, Except.bind]
      | ok rest => simp [bind, Except.bind, pure, Except.pure, eq_comm]
