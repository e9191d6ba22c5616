import Rune.Pattern.Reader
import Rune.Pattern.Search

/-!
# Rune - patterns

A pattern is the source of a regular expression with the program that it was
read to.  The program is determined by the source, so two patterns are the same
when their sources are.

Main results:

- Definition {lit}`Pattern.read` reads a pattern.
- Theorem {lit}`Pattern.ext_source`: patterns with one source are equal.
-/

namespace Rune

/-- A regular expression that has been read. -/
structure Pattern where
  source : String
  program : Program
  read_eq : Regex.read source = .ok program

namespace Pattern

/-- Read a pattern. -/
def read (source : String) : Except RegexFault Pattern :=
  match h : Regex.read source with
  | .ok program => .ok ⟨source, program, h⟩
  | .error fault => .error fault

/-- Patterns with one source are equal. -/
theorem ext_source {p q : Pattern} (h : p.source = q.source) : p = q := by
  obtain ⟨s, a, ha⟩ := p
  obtain ⟨t, b, hb⟩ := q
  dsimp only at h
  subst h
  rw [ha] at hb
  cases hb
  rfl

instance : DecidableEq Pattern := fun p q =>
  if h : p.source = q.source then isTrue (ext_source h)
  else isFalse fun e => h (congrArg source e)

/-- What has been read keeps its source. -/
theorem source_of_read {source : String} {p : Pattern} (h : read source = .ok p) :
    p.source = source := by
  unfold read at h
  split at h <;> cases h
  rfl

/-- Whether a pattern matches somewhere in a text. -/
def matchesText (p : Pattern) (text : String) : Except Fault Bool := p.program.search text

end Pattern

end Rune
