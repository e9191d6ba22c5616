import Rune.Diagnostic.Basic
import Rune.Pattern.Basic

/-!
# Rune - the pattern cache

A cache remembers the patterns that were read and counts how often one was
asked for again.  Sources that cannot be read leave no trace.

Main results:

- Definition {lit}`PatternCache.compile` looks a pattern up or reads it.
- Theorem {lit}`PatternCache.source_of_compile`: the answer has the source that was
  asked for.
-/

namespace Rune

/-- The failure of an expression that cannot be read: a complaint about its
place, unless a number or a flag is at fault. -/
def RegexFault.failure (fault : RegexFault) (diagnose : Complaint → Diagnostic)
    (pattern : String) : Failure :=
  match fault.fault? with
  | some other => .fault other
  | none =>
    let reason := fault.message
    .badPattern (diagnose (.worded .badPattern s!"Invalid regex pattern: {reason}")) pattern

/-- The patterns read so far, in order, and the number of hits. -/
structure PatternCache where
  patterns : List Pattern
  hits : Nat

namespace PatternCache

/-- A cache without patterns. -/
def empty : PatternCache := ⟨[], 0⟩

/-- The number of patterns in a cache. -/
def size (cache : PatternCache) : Nat := cache.patterns.length

/-- The pattern with a given source, if it is in the cache. -/
def find? (cache : PatternCache) (source : String) : Option Pattern :=
  cache.patterns.find? (·.source = source)

/-- Whether the pattern with a given source is in the cache. -/
def contains (cache : PatternCache) (source : String) : Bool := (cache.find? source).isSome

/-- The pattern with a given source: from the cache, which counts a hit, or read
anew. -/
def compile (cache : PatternCache) (source : String) :
    Except RegexFault (Pattern × PatternCache) :=
  match cache.find? source with
  | some p => .ok (p, { cache with hits := cache.hits + 1 })
  | none =>
    match Pattern.read source with
    | .ok p => .ok (p, { cache with patterns := cache.patterns ++ [p] })
    | .error fault => .error fault

/-- The answer has the source that was asked for. -/
theorem source_of_compile {cache after : PatternCache} {source : String} {p : Pattern}
    (h : cache.compile source = .ok (p, after)) : p.source = source := by
  unfold compile at h
  split at h
  · rename_i q hq
    cases h
    have := List.find?_some hq
    simpa using this
  · split at h <;> cases h
    rename_i hq
    exact Pattern.source_of_read hq

end PatternCache

end Rune
