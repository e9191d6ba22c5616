/-!
# Rune - ordered entries

Objects, namespaces and tables are lists of keys with values in the order in
which the keys were first given.  Giving a key again changes its value and keeps its
place.

Main results:

- Definitions {lit}`Entries.insert` and {lit}`Entries.merge` add entries.
- Theorems {lit}`Entries.get?_insert_self` and {lit}`Entries.get?_insert_of_ne` say
  what a look-up finds afterwards.
-/

namespace Rune

/-- Keys with values, in order. -/
abbrev Entries (α : Type) := List (String × α)

namespace Entries

variable {κ α : Type} [DecidableEq κ]

/-- The value of a key. -/
def get? (key : κ) : List (κ × α) → Option α
  | [] => none
  | (k, v) :: rest => if k = key then some v else get? key rest

/-- Whether there is an entry for a key. -/
def contains (key : κ) (entries : List (κ × α)) : Bool := (get? key entries).isSome

/-- The keys, in order. -/
def keys (entries : List (κ × α)) : List κ := entries.map (·.1)

/-- Give a key a value: in its place if there is one, otherwise at the end. -/
def insert (key : κ) (value : α) : List (κ × α) → List (κ × α)
  | [] => [(key, value)]
  | (k, v) :: rest =>
    if k = key then (k, value) :: rest else (k, v) :: insert key value rest

/-- The entries of `a`, changed and extended by those of `b`. -/
def merge (a b : List (κ × α)) : List (κ × α) := b.foldl (fun m e => insert e.1 e.2 m) a

/-- Entries given one after another. -/
def ofList (entries : List (κ × α)) : List (κ × α) := merge [] entries

/-- A key that was given a value has it. -/
@[simp] theorem get?_insert_self (key : κ) (value : α) (entries : List (κ × α)) :
    get? key (insert key value entries) = some value := by
  induction entries with
  | nil => simp [insert, get?]
  | cons e rest ih =>
    obtain ⟨k, v⟩ := e
    by_cases h : k = key <;> simp [insert, get?, h, ih]

/-- Giving one key a value leaves the others alone. -/
theorem get?_insert_of_ne {key other : κ} (h : other ≠ key) (value : α)
    (entries : List (κ × α)) : get? other (insert key value entries) = get? other entries := by
  induction entries with
  | nil => simp [insert, get?, h.symm]
  | cons e rest ih =>
    obtain ⟨k, v⟩ := e
    by_cases hk : k = key
    · subst hk
      simp [insert, get?, h.symm]
    · simp only [insert, hk, if_false, get?, ih]

/-- A key that has a value is one of the keys. -/
theorem mem_keys_of_get? {key : κ} {value : α} {entries : List (κ × α)}
    (h : get? key entries = some value) : key ∈ keys entries := by
  induction entries with
  | nil => simp [get?] at h
  | cons e rest ih =>
    obtain ⟨k, v⟩ := e
    by_cases hk : k = key
    · simp [keys, hk]
    · simp only [get?, hk, if_false] at h
      have := ih h
      simp only [keys, List.map_cons, List.mem_cons]
      exact .inr this

/-- The keys after giving one a value: a new key stands at the end. -/
theorem keys_insert (key : κ) (value : α) (entries : List (κ × α)) :
    keys (insert key value entries) =
      if key ∈ keys entries then keys entries else keys entries ++ [key] := by
  induction entries with
  | nil => simp [insert, keys]
  | cons e rest ih =>
    obtain ⟨k, v⟩ := e
    by_cases hk : k = key
    · subst hk
      simp [insert, keys]
    · have hk' : ¬key = k := fun e => hk e.symm
      simp only [insert, hk, if_false]
      simp only [keys, List.map_cons, List.mem_cons, hk', false_or] at ih ⊢
      rw [ih]
      split <;> simp_all

end Entries

end Rune
