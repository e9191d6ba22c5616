import Rune.Value.Entries
import Mathlib.Data.List.Forall2

/-!
# Rune - theory of ordered entries

Giving entries one after another keeps the place of a key that is given again and
changes its value.

Main results:

- Theorems {lit}`Entries.get?_merge` and {lit}`Entries.get?_ofList`: the last value that
  a key was given counts.
- Theorem {lit}`Entries.keys_ofList`: keys stand in the order in which they were first
  given.
- Theorem {lit}`Entries.merge_append`: giving entries one after another, and then more.
- Theorems {lit}`Entries.Match.get?` and {lit}`Entries.Match.ofList`: entries with the same
  keys and related values.
- Theorem {lit}`Entries.Shuffled.map_get?`: looking up does not depend on the order, where no
  key is given twice.
-/

namespace Rune.Entries

variable {κ α : Type} [DecidableEq κ]

/-! ## Look-up -/

/-- A key without a value is put behind the others. -/
theorem insert_of_get?_eq_none {key : κ} {entries : List (κ × α)} (h : get? key entries = none)
    (value : α) : insert key value entries = entries ++ [(key, value)] := by
  induction entries with
  | nil => rfl
  | cons e entries ih =>
    by_cases hkey : e.1 = key
    · simp [get?, hkey] at h
    · simp only [get?, hkey, if_false] at h
      simp [insert, hkey, ih h]

/-- Looking up in one list after another. -/
theorem get?_append (key : κ) (a b : List (κ × α)) :
    get? key (a ++ b) = (get? key a).or (get? key b) := by
  induction a with
  | nil => simp [get?]
  | cons e a ih =>
    by_cases h : e.1 = key <;> simp [get?, h, ih]

/-- A key has a value exactly when it is one of the keys. -/
theorem contains_iff_mem_keys {key : κ} {entries : List (κ × α)} :
    contains key entries = true ↔ key ∈ keys entries := by
  induction entries with
  | nil => simp [contains, get?, keys]
  | cons e entries ih =>
    by_cases h : e.1 = key
    · simp [contains, get?, keys, h]
    · simpa [contains, get?, keys, h, Ne.symm h] using ih

/-- A key that is none of the keys has no value. -/
theorem get?_eq_none_iff {key : κ} {entries : List (κ × α)} :
    get? key entries = none ↔ key ∉ keys entries := by
  rw [← contains_iff_mem_keys]
  simp [contains]

/-- A value that is found stands in an entry. -/
theorem mem_of_get? {key : κ} {value : α} {entries : List (κ × α)}
    (h : get? key entries = some value) : (key, value) ∈ entries := by
  induction entries with
  | nil => simp [get?] at h
  | cons e entries ih =>
    by_cases hkey : e.1 = key
    · simp only [get?, hkey, if_true, Option.some.injEq] at h
      subst hkey h
      exact List.mem_cons_self
    · simp only [get?, hkey, if_false] at h
      exact List.mem_cons_of_mem _ (ih h)

/-- Where no key is given twice, every entry is found. -/
theorem get?_of_mem {key : κ} {value : α} {entries : List (κ × α)}
    (hnodup : (keys entries).Nodup) (h : (key, value) ∈ entries) :
    get? key entries = some value := by
  induction entries with
  | nil => simp at h
  | cons e entries ih =>
    simp only [keys, List.map_cons, List.nodup_cons] at hnodup
    rcases List.mem_cons.1 h with rfl | h
    · simp [get?]
    · have hne : e.1 ≠ key := fun heq => hnodup.1 (heq ▸ List.mem_map_of_mem (f := (·.1)) h)
      simp only [get?, hne, if_false]
      exact ih hnodup.2 h

/-- Where no key is given twice, the first and the last value of a key are one. -/
theorem get?_reverse {key : κ} {entries : List (κ × α)} (hnodup : (keys entries).Nodup) :
    get? key entries.reverse = get? key entries := by
  cases h : get? key entries with
  | none =>
    rw [get?_eq_none_iff] at h ⊢
    simpa [keys] using h
  | some value =>
    apply get?_of_mem
    · simpa only [keys, List.map_reverse] using (List.reverse_perm _).symm.nodup hnodup
    · simpa using mem_of_get? h

/-- Where no key is given twice, the entries found are those that there are. -/
theorem get?_eq_some_iff {key : κ} {value : α} {entries : List (κ × α)}
    (hnodup : (keys entries).Nodup) : get? key entries = some value ↔ (key, value) ∈ entries :=
  ⟨mem_of_get?, get?_of_mem hnodup⟩

/-- Where no key is given twice, the order of entries does not matter. -/
theorem get?_perm {as bs : List (κ × α)} (h : as.Perm bs) (hnodup : (keys as).Nodup) (key : κ) :
    get? key as = get? key bs := by
  ext value
  rw [get?_eq_some_iff hnodup, get?_eq_some_iff ((h.map _).nodup hnodup), h.mem_iff]

/-- Looking up among entries whose values were changed. -/
theorem get?_mapValues {β : Type} (f : α → β) (key : κ) (entries : List (κ × α)) :
    get? key (entries.map fun e => (e.1, f e.2)) = (get? key entries).map f := by
  induction entries with
  | nil => rfl
  | cons e entries ih =>
    by_cases h : e.1 = key <;> simp [get?, h, ih]

/-- Looking up among the entries whose keys pass a test. -/
theorem get?_filter (test : κ → Bool) (key : κ) (entries : List (κ × α)) :
    get? key (entries.filter (test ·.1)) = if test key then get? key entries else none := by
  induction entries with
  | nil => simp [get?]
  | cons e entries ih =>
    by_cases hkey : e.1 = key
    · subst hkey
      by_cases htest : test e.1 <;> simp_all [get?]
    · by_cases htest : test e.1 <;> simp [get?, hkey, htest, ih]

/-- Looking up among entries made of a list finds what the first element with that key
was made of. -/
theorem get?_map {β : Type} (key : κ) (keyOf : β → κ) (valueOf : β → α) (bs : List β) :
    get? key (bs.map fun b => (keyOf b, valueOf b)) =
      (bs.find? fun b => keyOf b = key).map valueOf := by
  induction bs with
  | nil => rfl
  | cons b bs ih =>
    by_cases h : keyOf b = key <;> simp [get?, h, ih]

/-! ## Giving entries one after another -/

theorem merge_append (a b c : List (κ × α)) : merge a (b ++ c) = merge (merge a b) c := by
  simp [merge, List.foldl_append]

/-- Giving the entries of several lists one after another. -/
theorem foldl_merge {β : Type} (entries : β → List (κ × α)) (given : List (κ × α)) (bs : List β) :
    bs.foldl (fun all b => merge all (entries b)) given = merge given (bs.flatMap entries) := by
  induction bs generalizing given with
  | nil => rfl
  | cons b bs ih => rw [List.foldl_cons, ih, List.flatMap_cons, merge_append]

/-- The last value that a key was given counts. -/
theorem get?_merge (key : κ) (a b : List (κ × α)) :
    get? key (merge a b) = (get? key b.reverse).or (get? key a) := by
  induction b generalizing a with
  | nil => simp [merge, get?]
  | cons e b ih =>
    have step : merge a (e :: b) = merge (insert e.1 e.2 a) b := rfl
    rw [step, ih, List.reverse_cons, get?_append, Option.or_assoc]
    by_cases h : e.1 = key
    · subst h
      simp [get?]
    · simp [get?, h, get?_insert_of_ne (Ne.symm h)]

/-- The last value that a key was given counts. -/
theorem get?_ofList (key : κ) (entries : List (κ × α)) :
    get? key (ofList entries) = get? key entries.reverse := by
  simp [ofList, get?_merge, get?]

/-- The last value that a key was given is changed with the others. -/
theorem map_get?_ofList {β : Type} (f : α → β) (key : κ) (entries : List (κ × α)) :
    (get? key (ofList entries)).map f =
      get? key (entries.map fun e => (e.1, f e.2)).reverse := by
  rw [get?_ofList, ← get?_mapValues, List.map_reverse]

/-- Where no key is given twice, giving entries one after another keeps them all. -/
theorem get?_ofList_of_nodup {entries : List (κ × α)} (hnodup : (keys entries).Nodup) (key : κ) :
    get? key (ofList entries) = get? key entries := by
  rw [get?_ofList, get?_reverse hnodup]

/-- New keys stand after the old ones, in the order in which they were first given. -/
theorem keys_merge (a b : List (κ × α)) :
    keys (merge a b) = keys a ++ ((keys b).filter (· ∉ keys a)).eraseDups := by
  induction b generalizing a with
  | nil => simp [merge, keys]
  | cons e b ih =>
    have step : merge a (e :: b) = merge (insert e.1 e.2 a) b := rfl
    have hkeys : keys (e :: b) = e.1 :: keys b := rfl
    rw [step, ih, keys_insert, hkeys]
    by_cases h : e.1 ∈ keys a
    · simp [h]
    · simp only [h, if_false, not_false_eq_true, decide_true, List.filter_cons_of_pos,
        List.eraseDups_cons, List.append_assoc, List.singleton_append, List.filter_filter]
      congr 3
      apply List.filter_congr
      intro key _
      simp only [List.mem_append, List.mem_singleton, not_or]
      by_cases hkey : key = e.1 <;> simp [hkey]

/-- Keys stand in the order in which they were first given. -/
theorem keys_ofList (entries : List (κ × α)) :
    keys (ofList entries) = (keys entries).eraseDups := by
  rw [ofList, keys_merge, List.filter_eq_self.2]
  · rfl
  · simp [keys]

/-- Giving a key a value makes it one of the keys. -/
theorem mem_keys_insert {key other : κ} {value : α} {entries : List (κ × α)} :
    other ∈ keys (insert key value entries) ↔ other = key ∨ other ∈ keys entries := by
  rw [keys_insert]
  split
  · rename_i hkey
    refine ⟨.inr, fun h => h.elim (fun heq => heq ▸ hkey) id⟩
  · simp [or_comm]

/-- Giving a key a value gives no key twice. -/
theorem nodup_keys_insert {key : κ} {value : α} {entries : List (κ × α)}
    (h : (keys entries).Nodup) : (keys (insert key value entries)).Nodup := by
  rw [keys_insert]
  split
  · exact h
  · rename_i hkey
    rw [List.nodup_append]
    refine ⟨h, by simp, ?_⟩
    intro other hother
    simp only [List.mem_singleton, forall_eq]
    rintro rfl
    exact hkey hother

/-- Entries given one after another give no key twice. -/
theorem nodup_keys_merge {a b : List (κ × α)} (h : (keys a).Nodup) :
    (keys (merge a b)).Nodup := by
  induction b generalizing a with
  | nil => exact h
  | cons e b ih => exact ih (nodup_keys_insert h)

/-- A list of entries gives no key twice. -/
theorem nodup_keys_ofList (entries : List (κ × α)) : (keys (ofList entries)).Nodup :=
  nodup_keys_merge List.nodup_nil

/-- Giving entries one after another makes up no entry. -/
theorem mem_of_mem_ofList {entry : κ × α} {entries : List (κ × α)} (h : entry ∈ ofList entries) :
    entry ∈ entries := by
  have hget := get?_of_mem (nodup_keys_ofList entries) h
  rw [get?_ofList] at hget
  exact List.mem_reverse.1 (mem_of_get? hget)

/-! ## Entries with related values -/

/-- The keys alone say which keys have a value. -/
theorem contains_eq_of_keys_eq {β : Type} {as : List (κ × α)} {bs : List (κ × β)}
    (h : keys bs = keys as) (key : κ) : contains key bs = contains key as := by
  rw [Bool.eq_iff_iff, contains_iff_mem_keys, contains_iff_mem_keys, h]

/-- A key has a value in both of two lists with the same keys, or in neither. -/
theorem get?_cases_of_keys_eq {β : Type} {as : List (κ × α)} {bs : List (κ × β)}
    (h : keys bs = keys as) (key : κ) :
    (get? key as = none ∧ get? key bs = none) ∨
      ∃ a b, get? key as = some a ∧ get? key bs = some b := by
  have hcontains := contains_eq_of_keys_eq h key
  simp only [contains] at hcontains
  cases ha : get? key as <;> cases hb : get? key bs <;> simp_all

omit [DecidableEq κ] in
/-- Lists of entries whose keys are equal one by one have the same keys. -/
theorem keys_eq_of_forall₂ {β : Type} {R : κ × α → κ × β → Prop} {as : List (κ × α)}
    {bs : List (κ × β)} (h : List.Forall₂ (fun a b => b.1 = a.1 ∧ R a b) as bs) :
    keys bs = keys as := by
  induction h with
  | nil => rfl
  | cons hentry _ ih =>
    simp only [keys, List.map_cons] at ih ⊢
    rw [hentry.1, ih]

/-- Entries with the same keys in the same order and with related values. -/
abbrev Match {κ α β : Type} (R : α → β → Prop) (as : List (κ × α)) (bs : List (κ × β)) : Prop :=
  List.Forall₂ (fun a b => b.1 = a.1 ∧ R a.2 b.2) as bs

namespace Match

variable {β : Type} {R : α → β → Prop} {as : List (κ × α)} {bs : List (κ × β)}

omit [DecidableEq κ] in
theorem keys_eq (h : Match R as bs) : keys bs = keys as := keys_eq_of_forall₂ h

/-- Where one list has a value, the other one has a related value. -/
theorem get? (h : Match R as bs) {key : κ} {a : α} (ha : Entries.get? key as = some a) :
    ∃ b, Entries.get? key bs = some b ∧ R a b := by
  induction h with
  | nil => cases ha
  | @cons entry entry' as bs hentry _ ih =>
    obtain ⟨hkey, hvalue⟩ := hentry
    by_cases heq : entry.1 = key
    · simp only [Entries.get?, heq, if_true, Option.some.injEq] at ha
      subst ha
      exact ⟨entry'.2, by simp [Entries.get?, hkey, heq], hvalue⟩
    · simp only [Entries.get?, heq, if_false] at ha
      simpa [Entries.get?, hkey, heq] using ih ha

/-- Giving a key related values. -/
theorem insert (h : Match R as bs) (key : κ) {a : α} {b : β} (hab : R a b) :
    Match R (Entries.insert key a as) (Entries.insert key b bs) := by
  induction h with
  | nil => exact .cons ⟨rfl, hab⟩ .nil
  | @cons entry entry' as bs hentry hrest ih =>
    obtain ⟨name, value⟩ := entry
    obtain ⟨name', value'⟩ := entry'
    obtain ⟨rfl, hvalue⟩ := hentry
    by_cases heq : name' = key
    · simp only [Entries.insert, heq, if_true]
      exact .cons ⟨rfl, hab⟩ hrest
    · simp only [Entries.insert, heq, if_false]
      exact .cons ⟨rfl, hvalue⟩ ih

/-- Giving related entries one after another. -/
theorem ofList (h : Match R as bs) : Match R (Entries.ofList as) (Entries.ofList bs) := by
  suffices all : ∀ {given given'}, Match R given given' →
      Match R (merge given as) (merge given' bs) from all .nil
  induction h with
  | nil => exact fun h => h
  | cons hentry _ ih =>
    obtain ⟨hkey, hvalue⟩ := hentry
    intro given given' hgiven
    simp only [merge, List.foldl_cons, hkey] at ih ⊢
    exact ih (hgiven.insert _ hvalue)

end Match

/-! ## Entries in another order -/

/-- Entries in another order, with values of which the same is made. -/
def Shuffled {κ α γ : Type} (f : α → γ) (as bs : List (κ × α)) : Prop :=
  (bs.map fun e => (e.1, f e.2)).Perm (as.map fun e => (e.1, f e.2))

namespace Shuffled

variable {γ : Type} {f : α → γ} {as bs : List (κ × α)}

omit [DecidableEq κ] in
/-- No key is given twice in any order. -/
theorem nodup_keys (h : Shuffled f as bs) (hnodup : (keys as).Nodup) : (keys bs).Nodup := by
  have hkeys := h.map Prod.fst
  simp only [List.map_map, Function.comp_def] at hkeys
  exact hkeys.symm.nodup hnodup

/-- Looking up does not depend on the order. -/
theorem map_get? (h : Shuffled f as bs) (hnodup : (keys as).Nodup) (key : κ) :
    (get? key bs).map f = (get? key as).map f := by
  rw [← get?_mapValues, ← get?_mapValues]
  refine get?_perm h ?_ key
  simpa only [keys, List.map_map, Function.comp_def] using h.nodup_keys hnodup

/-- Nor does it after giving entries one after another. -/
theorem map_get?_ofList (h : Shuffled f as bs) (hnodup : (keys as).Nodup) (key : κ) :
    (get? key (ofList bs)).map f = (get? key (ofList as)).map f := by
  rw [get?_ofList_of_nodup hnodup, get?_ofList_of_nodup (h.nodup_keys hnodup), h.map_get? hnodup]

end Shuffled

/-- What is found in one list of entries is found in another one, if the same is made of
what is found in both. -/
theorem exists_get?_of_map_eq {γ : Type} {f : α → γ} {as bs : List (κ × α)} {key : κ}
    (h : (get? key bs).map f = (get? key as).map f) {a : α} (ha : get? key as = some a) :
    ∃ b, get? key bs = some b ∧ f b = f a := by
  rw [ha, Option.map_some, Option.map_eq_some_iff] at h
  exact h

/-- Then the same keys have values. -/
theorem contains_eq_of_map_eq {γ : Type} {f : α → γ} {as bs : List (κ × α)} {key : κ}
    (h : (get? key bs).map f = (get? key as).map f) : contains key bs = contains key as := by
  simpa only [contains, Option.isSome_map] using congrArg Option.isSome h

end Rune.Entries
