import Rune.Session.Resources

/-!
# Rune - what resources remember

Resources save work, and answers do not depend on them: a pattern is determined by
its source, and a fact that is remembered is what the system answers.

Main results:

- Definition {lit}`Resources.Truthful`: the facts that are remembered are those that the
  system answers.
- Theorems {lit}`Resources.compile_of_read` and {lit}`Resources.compile_of_read_error`:
  reading a pattern gives what reading it anew gives.
- Theorems {lit}`Resources.Truthful.fact` and {lit}`Resources.Truthful.after_fact`:
  asking for a fact gives what the system answers and remembers nothing else.
-/

namespace Rune

/-- Reading the source of a pattern gives the pattern. -/
theorem Pattern.read_source (p : Pattern) : Pattern.read p.source = .ok p := by
  have h := p.read_eq
  unfold Pattern.read
  split
  · rename_i program hprogram
    exact congrArg _ (Pattern.ext_source rfl)
  · rename_i fault hfault
    rw [h] at hfault
    cases hfault

namespace PatternCache

/-- A pattern in a cache is what reading its source gives. -/
theorem read_of_find? {cache : PatternCache} {source : String} {p : Pattern}
    (h : cache.find? source = some p) : Pattern.read source = .ok p := by
  have hsource : p.source = source := by simpa using List.find?_some h
  rw [← hsource]
  exact p.read_source

end PatternCache

namespace Resources

/-- The facts that are remembered are those that the system answers. -/
def Truthful (system : String → Option String) (resources : Resources) : Prop :=
  ∀ key answer, Entries.get? key resources.facts = some answer → answer = system key

/-- Resources that remember nothing remember nothing false. -/
theorem truthful_fresh (system : String → Option String) : fresh.Truthful system := by
  intro key answer h
  simp [fresh, Entries.get?] at h

/-- Reading a pattern that can be read gives that pattern and changes no fact. -/
theorem compile_of_read {source : String} {p : Pattern} (h : Pattern.read source = .ok p)
    (resources : Resources) :
    ∃ after, resources.compile source = .ok (p, after) ∧ after.facts = resources.facts := by
  unfold compile PatternCache.compile
  cases hfind : resources.patterns.find? source with
  | some q =>
    have hq := PatternCache.read_of_find? hfind
    rw [h] at hq
    cases hq
    exact ⟨_, rfl, by split <;> rfl⟩
  | none =>
    simp only [h]
    exact ⟨_, rfl, by split <;> rfl⟩

/-- Reading a pattern that cannot be read fails for its own reason. -/
theorem compile_of_read_error {source : String} {fault : RegexFault}
    (h : Pattern.read source = .error fault) (resources : Resources) :
    resources.compile source = .error fault := by
  unfold compile PatternCache.compile
  cases hfind : resources.patterns.find? source with
  | some q =>
    rw [PatternCache.read_of_find? hfind] at h
    cases h
  | none =>
    simp only [h]
    rfl

namespace Truthful

variable {system : String → Option String} {resources : Resources}

/-- What was remembered is what the system answers. -/
theorem fact (h : resources.Truthful system) (key : String) :
    (resources.fact system key).1 = system key := by
  unfold Resources.fact
  cases hknown : Entries.get? key resources.facts with
  | some known => exact h key known hknown
  | none => rfl

/-- Asking for a fact remembers what the system answers. -/
theorem after_fact (h : resources.Truthful system) (key : String) :
    (resources.fact system key).2.Truthful system := by
  unfold Resources.fact
  cases hknown : Entries.get? key resources.facts with
  | some known => exact h
  | none =>
    intro other answer hother
    simp only [note] at hother
    by_cases hkey : other = key
    · subst hkey
      rw [Entries.get?_insert_self] at hother
      exact (Option.some.inj hother).symm
    · rw [Entries.get?_insert_of_ne hkey] at hother
      exact h other answer hother

/-- Truth depends on the facts alone. -/
theorem of_facts_eq (h : resources.Truthful system) {after : Resources}
    (hfacts : after.facts = resources.facts) : after.Truthful system := by
  intro key answer hkey
  rw [hfacts] at hkey
  exact h key answer hkey

end Truthful

end Resources

end Rune
