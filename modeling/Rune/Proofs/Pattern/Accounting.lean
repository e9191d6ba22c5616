import Mathlib.Data.Finset.Card
import Mathlib.Data.List.Induction
import Rune.Proofs.Outcome
import Rune.Proofs.Session.Resources

/-!
# Rune - accounting of the pattern cache

Patterns with one source are equal, so that equality does not tell whether a pattern was
made anew or taken from a cache.  Here the patterns that are made are numbered, which tells
them apart as things, and a cache keeps the numbered ones; without the numbers it is a
pattern cache.  A call that fails is a step as well, and says what it leaves behind.

Main results:

- Structure {lit}`Mint` is a cache of numbered patterns, with its step {lit}`Mint.compile`.
- Theorem {lit}`Mint.compile_erased`: without the numbers the step is that of the pattern
  cache.
- Structure {lit}`Mint.Accounts` is the invariant of all steps.
- Theorem {lit}`Mint.run_accounts`: after any calls the cache counts distinct sources and
  hits, and calls share a pattern if their sources are equal.
-/

namespace Rune

/-- The cache after a call. -/
def PatternCache.asked (cache : PatternCache) (source : String) : PatternCache :=
  match cache.compile source with
  | .ok (_, after) => after
  | .error _ => cache

/-- A pattern as a thing of its own: patterns that were made by different calls have
different numbers, even if they are equal. -/
structure Minted where
  pattern : Pattern
  number : Nat

/-- The patterns that were made so far and are kept, the number of hits, and the number of
patterns that were made. -/
structure Mint where
  patterns : List Minted
  hits : Nat
  made : Nat

namespace Mint

/-- A mint that has made nothing. -/
def empty : Mint := ⟨[], 0, 0⟩

/-- The pattern cache of a mint. -/
def cache (mint : Mint) : PatternCache := ⟨mint.patterns.map (·.pattern), mint.hits⟩

/-- The kept pattern with a given source. -/
def find? (mint : Mint) (source : String) : Option Minted :=
  mint.patterns.find? (·.pattern.source = source)

/-- The pattern with a given source: a kept one, which counts a hit, or one made anew, which
is kept. -/
def compile (source : String) : EStateM RegexFault Mint Minted := do
  let mint ← get
  match mint.find? source with
  | some minted =>
    set { mint with hits := mint.hits + 1 }
    return minted
  | none =>
    match Pattern.read source with
    | .error fault => throw fault
    | .ok pattern =>
      let minted : Minted := ⟨pattern, mint.made⟩
      set { mint with patterns := mint.patterns ++ [minted], made := mint.made + 1 }
      return minted

/-! ## One call -/

variable {mint : Mint} {source : String}

/-- What a call does: it takes a kept pattern and counts a hit, it keeps a pattern that it
makes, or it fails and does nothing. -/
inductive Step (mint : Mint) (source : String) : EStateM.Result RegexFault Mint Minted → Prop
  | hit {minted : Minted} : minted ∈ mint.patterns → minted.pattern.source = source →
      Pattern.read source = .ok minted.pattern →
      Step mint source (.ok minted { mint with hits := mint.hits + 1 })
  | new {pattern : Pattern} : (∀ minted ∈ mint.patterns, minted.pattern.source ≠ source) →
      pattern.source = source → Pattern.read source = .ok pattern →
      Step mint source (.ok ⟨pattern, mint.made⟩
        { mint with patterns := mint.patterns ++ [⟨pattern, mint.made⟩], made := mint.made + 1 })
  | failed {fault : RegexFault} : (∀ minted ∈ mint.patterns, minted.pattern.source ≠ source) →
      Pattern.read source = .error fault → Step mint source (.error fault mint)

theorem compile_step (mint : Mint) (source : String) : Step mint source (compile source mint) := by
  simp only [compile, bind, EStateM.bind, get_eq]
  cases hfind : mint.find? source with
  | some minted =>
    have hsource : minted.pattern.source = source := by simpa using List.find?_some hfind
    exact .hit (List.mem_of_find?_eq_some hfind) hsource (hsource ▸ minted.pattern.read_source)
  | none =>
    have hnew : ∀ minted ∈ mint.patterns, minted.pattern.source ≠ source := by
      simpa using List.find?_eq_none.1 hfind
    cases hread : Pattern.read source with
    | error fault => exact .failed hnew hread
    | ok pattern => exact .new hnew (Pattern.source_of_read hread) hread

/-- The kept pattern with a given source is found in the pattern cache. -/
theorem cache_find? (mint : Mint) (source : String) :
    mint.cache.find? source = (mint.find? source).map (·.pattern) := by
  simp only [cache, find?, PatternCache.find?, List.find?_map]
  rfl

/-- Without the numbers, a call is one to the pattern cache. -/
theorem compile_erased (mint : Mint) (source : String) :
    mint.cache.compile source =
      match compile source mint with
      | .ok minted after => .ok (minted.pattern, after.cache)
      | .error fault _ => .error fault := by
  simp only [compile, PatternCache.compile, cache_find?, bind, EStateM.bind, get_eq]
  cases mint.find? source with
  | some minted => rfl
  | none =>
    cases Pattern.read source with
    | error fault => rfl
    | ok pattern =>
      have hcache : (Mint.mk (mint.patterns ++ [⟨pattern, mint.made⟩]) mint.hits
          (mint.made + 1)).cache =
        { mint.cache with patterns := mint.cache.patterns ++ [pattern] } := by
        simp [cache]
      exact congrArg (fun after => Except.ok (pattern, after)) hcache.symm

/-! ## Many calls -/

/-- A call: the source that was asked for and the answer. -/
structure Call where
  source : String
  answer : Except RegexFault Minted

/-- The sources of the calls that succeeded. -/
def succeeded (calls : List Call) : List String :=
  calls.filterMap fun call => if call.answer.isOk then some call.source else none

/-- The calls made so far and the mint after them, after one more call.  The mint goes on
from what the call leaves behind, also if it fails. -/
def call (past : List Call × Mint) (source : String) : List Call × Mint :=
  match compile source past.2 with
  | .ok minted after => (past.1 ++ [⟨source, .ok minted⟩], after)
  | .error fault after => (past.1 ++ [⟨source, .error fault⟩], after)

/-- The calls for a list of sources, and the mint after them. -/
def run (sources : List String) : List Call × Mint := sources.foldl call ([], .empty)

theorem run_append_singleton (sources : List String) (source : String) :
    run (sources ++ [source]) = call (run sources) source := by
  simp [run]

@[simp] theorem succeeded_append_ok (calls : List Call) (source : String) (minted : Minted) :
    succeeded (calls ++ [⟨source, .ok minted⟩]) = succeeded calls ++ [source] := by
  simp [succeeded, Except.isOk, Except.toBool]

@[simp] theorem succeeded_append_error (calls : List Call) (source : String)
    (fault : RegexFault) : succeeded (calls ++ [⟨source, .error fault⟩]) = succeeded calls := by
  simp [succeeded, Except.isOk, Except.toBool]

/-- The books are in order: every kept pattern has a source and a number of its own, the kept
sources are those of the calls that succeeded, each of which was answered with the kept
pattern of its source, and all but the first calls for a source were hits. -/
structure Accounts (calls : List Call) (mint : Mint) : Prop where
  sources : (mint.patterns.map (·.pattern.source)).Nodup
  numbers : (mint.patterns.map (·.number)).Nodup
  made : ∀ minted ∈ mint.patterns, minted.number < mint.made
  mem_iff : ∀ source, (∃ minted ∈ mint.patterns, minted.pattern.source = source) ↔
    source ∈ succeeded calls
  hits : mint.hits + mint.patterns.length = (succeeded calls).length
  answers : ∀ call ∈ calls, call.answer.map (·.pattern) = Pattern.read call.source
  kept : ∀ call ∈ calls, ∀ minted, call.answer = .ok minted →
    minted ∈ mint.patterns ∧ minted.pattern.source = call.source

theorem Accounts.empty : Accounts [] .empty where
  sources := .nil
  numbers := .nil
  made := nofun
  mem_iff _ := by simp [Mint.empty, succeeded]
  hits := rfl
  answers := nofun
  kept := nofun

/-- One more call leaves the books in order. -/
theorem Accounts.call {past : List Call × Mint} (h : Accounts past.1 past.2) (source : String) :
    Accounts (call past source).1 (call past source).2 := by
  obtain ⟨calls, mint⟩ := past
  have hstep := compile_step mint source
  unfold Mint.call
  dsimp only at h ⊢
  generalize compile source mint = result at hstep ⊢
  cases hstep with
  | @hit minted hmem hsource hread =>
    refine ⟨h.sources, h.numbers, h.made, fun other => ?_, ?_, ?_, ?_⟩
    · simp only [succeeded_append_ok, List.mem_append, List.mem_singleton, ← h.mem_iff]
      exact ⟨.inl, fun hother => hother.elim id fun heq => ⟨minted, hmem, hsource.trans heq.symm⟩⟩
    · have hhits := h.hits
      simp only [succeeded_append_ok, List.length_append, List.length_singleton]
      omega
    · simpa [or_imp, forall_and, Except.map, hread] using h.answers
    · simpa [or_imp, forall_and, hmem, hsource] using h.kept
  | @new pattern hnew hsource hread =>
    subst hsource
    refine ⟨?_, ?_, ?_, fun other => ?_, ?_, ?_, ?_⟩
    · simpa [List.nodup_append, h.sources] using hnew
    · have hnumber : ∀ minted ∈ mint.patterns, minted.number ≠ mint.made :=
        fun minted hmem => (h.made minted hmem).ne
      simpa [List.nodup_append, h.numbers] using hnumber
    · simp only [List.mem_append, List.mem_singleton, or_imp, forall_and, forall_eq]
      exact ⟨fun minted hmem => Nat.lt_succ_of_lt (h.made minted hmem), Nat.lt_succ_self _⟩
    · simp only [succeeded_append_ok, List.mem_append, List.mem_singleton, or_and_right,
        exists_or, exists_eq_left, ← h.mem_iff, eq_comm]
    · have hhits := h.hits
      simp only [succeeded_append_ok, List.length_append, List.length_singleton]
      omega
    · simpa [or_imp, forall_and, Except.map, hread] using h.answers
    · intro call hcall minted hanswer
      rcases List.mem_append.1 hcall with hcall | hcall
      · obtain ⟨hmem, hcall⟩ := h.kept call hcall minted hanswer
        exact ⟨List.mem_append_left _ hmem, hcall⟩
      · cases List.mem_singleton.1 hcall
        cases hanswer
        exact ⟨List.mem_append_right _ (List.mem_singleton.2 rfl), rfl⟩
  | @failed fault hnew hread =>
    refine ⟨h.sources, h.numbers, h.made, fun other => ?_, ?_, ?_, ?_⟩
    · simpa using h.mem_iff other
    · simpa using h.hits
    · simpa [or_imp, forall_and, Except.map, hread] using h.answers
    · simpa [or_imp, forall_and] using h.kept

/-- The books are in order after any calls. -/
theorem accounts_run (sources : List String) : Accounts (run sources).1 (run sources).2 := by
  induction sources using List.reverseRecOn with
  | nil => exact .empty
  | append_singleton sources source ih =>
    rw [run_append_singleton]
    exact ih.call source

/-- The calls are those that were asked for. -/
theorem run_sources (sources : List String) : (run sources).1.map (·.source) = sources := by
  induction sources using List.reverseRecOn with
  | nil => rfl
  | append_singleton sources source ih =>
    rw [run_append_singleton]
    unfold call
    cases compile source (run sources).2 <;> simp [ih]

/-- Without the numbers, the mint after any calls is the pattern cache after them. -/
theorem run_cache (sources : List String) :
    (run sources).2.cache = sources.foldl PatternCache.asked .empty := by
  induction sources using List.reverseRecOn with
  | nil => rfl
  | append_singleton sources source ih =>
    rw [run_append_singleton, List.foldl_append, ← ih]
    have hstep := compile_step (run sources).2 source
    have herased := compile_erased (run sources).2 source
    unfold call
    simp only [List.foldl_cons, List.foldl_nil, PatternCache.asked, herased]
    generalize compile source (run sources).2 = result at hstep ⊢
    cases hstep <;> rfl

namespace Accounts

variable {calls : List Call} {mint : Mint}

/-- The cache keeps a pattern for each of the sources that succeeded. -/
theorem size_eq (h : Accounts calls mint) : mint.cache.size = (succeeded calls).toFinset.card := by
  have hsources : (mint.patterns.map (·.pattern.source)).toFinset = (succeeded calls).toFinset := by
    ext source
    simp [← h.mem_iff]
  rw [← hsources, List.toFinset_card_of_nodup h.sources]
  simp [cache, PatternCache.size]

/-- The sources in the cache are those that succeeded. -/
theorem contains_iff (h : Accounts calls mint) (source : String) :
    mint.cache.contains source ↔ source ∈ succeeded calls := by
  rw [← h.mem_iff, PatternCache.contains, cache_find?]
  simp [find?]

/-- Calls that succeeded have the same pattern if their sources are equal. -/
theorem number_eq_iff (h : Accounts calls mint) {call call' : Call} (hcall : call ∈ calls)
    (hcall' : call' ∈ calls) {minted minted' : Minted} (hanswer : call.answer = .ok minted)
    (hanswer' : call'.answer = .ok minted') :
    minted.number = minted'.number ↔ call.source = call'.source := by
  obtain ⟨hmem, hsource⟩ := h.kept call hcall minted hanswer
  obtain ⟨hmem', hsource'⟩ := h.kept call' hcall' minted' hanswer'
  rw [← hsource, ← hsource']
  constructor
  · intro hnumber
    rw [List.inj_on_of_nodup_map h.numbers hmem hmem' hnumber]
  · intro hsources
    rw [List.inj_on_of_nodup_map h.sources hmem hmem' hsources]

end Accounts

/-- After any calls to an empty cache: the answers are those of reading the sources.  The cache
is as large as there are different sources that succeeded; every further success was a hit;
and just these sources are in the cache.  Two calls that succeeded gave one and the same
pattern just if their sources are equal.  A call that fails leaves everything as it was. -/
theorem run_accounts (sources : List String) : ∃ calls mint, run sources = (calls, mint) ∧
    calls.map (·.source) = sources ∧
    (∀ call ∈ calls, call.answer.map (·.pattern) = Pattern.read call.source) ∧
    mint.cache = sources.foldl PatternCache.asked .empty ∧
    mint.cache.size = (succeeded calls).toFinset.card ∧
    mint.cache.size + mint.cache.hits = (succeeded calls).length ∧
    (∀ source, mint.cache.contains source ↔ source ∈ succeeded calls) ∧
    (∀ call ∈ calls, ∀ call' ∈ calls, ∀ minted minted', call.answer = .ok minted →
      call'.answer = .ok minted' → (minted.number = minted'.number ↔ call.source = call'.source)) ∧
    ∀ source fault after, compile source mint = .error fault after → after = mint := by
  have haccounts := accounts_run sources
  refine ⟨(run sources).1, (run sources).2, rfl, run_sources sources, haccounts.answers,
    run_cache sources, haccounts.size_eq, ?_, haccounts.contains_iff,
    fun call hcall call' hcall' minted minted' => ?_, ?_⟩
  · rw [Nat.add_comm, ← haccounts.hits]
    simp [cache, PatternCache.size]
  · exact haccounts.number_eq_iff hcall hcall'
  · intro source fault after hcompile
    have hstep := compile_step (run sources).2 source
    rw [hcompile] at hstep
    cases hstep
    rfl

end Mint

end Rune
