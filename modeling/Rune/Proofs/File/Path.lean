import Rune.File.Path

/-!
# Rune - canonical paths

A canonical path is its own canonical form, wherever it is looked at from: it begins
at the root, and walking along it passes every segment of it for good.

Main results:

- Definition {lit}`FilePath.Proper` says what a segment of a canonical path is, and
  {lit}`FilePath.rooted` makes a path of segments.
- Theorem {lit}`FilePath.split_join`: joined segments are found again.
- Theorem {lit}`FilePath.exists_normalize_eq`: canonical forms consist of proper segments.
- Theorem {lit}`FilePath.isCanonical_of_locate`: a path that was located is located where
  it is, from everywhere.
-/

namespace Rune.FilePath

/-! ## Splitting -/

/-- A segment holds characters of the path, and no slash. -/
theorem mem_split {chars segment : List Char} (h : segment ∈ split chars) {c : Char}
    (hc : c ∈ segment) : c ∈ chars ∧ c ≠ '/' := by
  induction chars generalizing segment with
  | nil =>
    obtain rfl : segment = [] := by simpa [split] using h
    simp at hc
  | cons d rest ih =>
    have later {other : List Char} (hother : other ∈ split rest) (hc : c ∈ other) :
        c ∈ d :: rest ∧ c ≠ '/' := ⟨List.mem_cons_of_mem _ (ih hother hc).1, (ih hother hc).2⟩
    by_cases hd : d = '/'
    · rw [split, if_pos hd] at h
      rcases List.mem_cons.1 h with rfl | h
      · simp at hc
      · exact later h hc
    · rw [split, if_neg hd] at h
      cases hsplit : split rest with
      | nil =>
        rw [hsplit] at h
        obtain rfl := List.mem_singleton.1 h
        obtain rfl := List.mem_singleton.1 hc
        exact ⟨List.mem_cons_self, hd⟩
      | cons first segments =>
        rw [hsplit] at h later
        rcases List.mem_cons.1 h with rfl | h
        · rcases List.mem_cons.1 hc with rfl | hc
          · exact ⟨List.mem_cons_self, hd⟩
          · exact later List.mem_cons_self hc
        · exact later (List.mem_cons_of_mem _ h) hc

/-- A segment that goes on where the rest begins. -/
theorem split_append {segment rest : List Char} {segments : List (List Char)}
    (hsegment : '/' ∉ segment) (hrest : split rest = [] :: segments) :
    split (segment ++ rest) = segment :: segments := by
  induction segment with
  | nil => exact hrest
  | cons c segment ih =>
    simp only [List.mem_cons, not_or] at hsegment
    rw [List.cons_append, split, if_neg (Ne.symm hsegment.1), ih hsegment.2]

/-- Joined segments are found again, after the empty one at the root. -/
theorem split_join {segments : List (List Char)} (h : ∀ segment ∈ segments, '/' ∉ segment) :
    split (join segments) = [] :: segments := by
  induction segments with
  | nil => rfl
  | cons first segments ih =>
    have hrest := ih fun segment hsegment => h segment (List.mem_cons_of_mem _ hsegment)
    have hjoin : join (first :: segments) = '/' :: (first ++ join segments) := by simp [join]
    rw [hjoin, split, if_pos rfl, split_append (h first List.mem_cons_self) hrest]

/-! ## Walking -/

/-- A segment of a canonical path: one that is neither empty nor a step to the same or
to the parent directory. -/
structure Proper (segment : List Char) : Prop where
  no_slash : '/' ∉ segment
  ne_nil : segment ≠ []
  ne_same : segment ≠ ['.']
  ne_parent : segment ≠ ['.', '.']

/-- Walking passes proper segments for good. -/
theorem foldl_walk_of_proper {segments : List (List Char)}
    (h : ∀ segment ∈ segments, Proper segment) (trail : List (List Char)) :
    segments.foldl walk trail = segments.reverse ++ trail := by
  induction segments generalizing trail with
  | nil => rfl
  | cons first segments ih =>
    have hfirst := h first List.mem_cons_self
    have hwalk : walk trail first = first :: trail := by
      simp [walk, hfirst.ne_nil, hfirst.ne_same, hfirst.ne_parent]
    have hrest : ∀ segment ∈ segments, Proper segment := fun segment hsegment =>
      h segment (List.mem_cons_of_mem _ hsegment)
    rw [List.foldl_cons, hwalk, ih hrest]
    simp

/-- What is passed for good are proper segments. -/
theorem mem_foldl_walk {segments trail : List (List Char)}
    (hslash : ∀ segment ∈ segments, '/' ∉ segment) {segment : List Char}
    (h : segment ∈ segments.foldl walk trail) :
    segment ∈ trail ∨ segment ∈ segments ∧ Proper segment := by
  induction segments generalizing trail with
  | nil => exact .inl h
  | cons first segments ih =>
    rcases ih (fun other hother => hslash other (List.mem_cons_of_mem _ hother)) h with h | h
    · simp only [walk] at h
      split at h
      · exact .inl h
      · rename_i hfirst
        rw [not_or] at hfirst
        split at h
        · exact .inl (List.mem_of_mem_tail h)
        · rename_i hparent
          rcases List.mem_cons.1 h with rfl | h
          · exact .inr ⟨List.mem_cons_self,
              hslash segment List.mem_cons_self, hfirst.1, hfirst.2, hparent⟩
          · exact .inl h
    · exact .inr ⟨List.mem_cons_of_mem _ h.1, h.2⟩

/-! ## Canonical forms -/

/-- The path from the root along segments. -/
def rooted (segments : List (List Char)) : List Char :=
  if segments = [] then ['/'] else join segments

/-- A path from the root begins with a slash. -/
theorem head?_rooted (segments : List (List Char)) : (rooted segments).head? = some '/' := by
  cases segments <;> simp [rooted, join]

/-- The canonical form is the path from the root along what is passed for good. -/
theorem normalize_eq (chars : List Char) :
    normalize chars = rooted ((split chars).foldl walk []).reverse := by
  rw [normalize]
  cases (split chars).foldl walk [] with
  | nil => rfl
  | cons last others => simp [rooted]

/-- A path of proper segments is its own canonical form. -/
theorem normalize_rooted {segments : List (List Char)}
    (h : ∀ segment ∈ segments, Proper segment) : normalize (rooted segments) = rooted segments := by
  cases segments with
  | nil => rfl
  | cons first segments =>
    have hjoined : rooted (first :: segments) = join (first :: segments) := if_neg (by simp)
    have hsplit := split_join fun segment hsegment => (h segment hsegment).no_slash
    have hwalk := foldl_walk_of_proper h (walk [] [])
    rw [hjoined, normalize_eq, hsplit, List.foldl_cons, hwalk, ← hjoined]
    simp [walk]

/-- A canonical form is a path of proper segments, made of characters of the path. -/
theorem exists_normalize_eq (chars : List Char) :
    ∃ segments, (∀ segment ∈ segments, Proper segment ∧ ∀ c ∈ segment, c ∈ chars) ∧
      normalize chars = rooted segments := by
  refine ⟨_, fun segment hsegment => ?_, normalize_eq chars⟩
  have hslash : ∀ other ∈ split chars, '/' ∉ other :=
    fun other hother hmem => (mem_split hother hmem).2 rfl
  rcases mem_foldl_walk hslash (List.mem_reverse.1 hsegment) with h | ⟨h, hproper⟩
  · simp at h
  · exact ⟨hproper, fun c hc => (mem_split h hc).1⟩

/-- A path from the root along segments holds their characters and slashes. -/
theorem mem_rooted {segments : List (List Char)} {c : Char} (h : c ∈ rooted segments) :
    c = '/' ∨ ∃ segment ∈ segments, c ∈ segment := by
  cases segments with
  | nil => exact .inl (by simpa [rooted] using h)
  | cons first segments =>
    rw [rooted, if_neg (by simp)] at h
    obtain ⟨segment, hsegment, hc⟩ := List.mem_flatMap.1 h
    rcases List.mem_cons.1 hc with hc | hc
    · exact .inl hc
    · exact .inr ⟨segment, hsegment, hc⟩

/-! ## Locating -/

variable {standpoint : Standpoint}

/-- A path from the root on is taken as it is. -/
theorem absoluteChars_of_head {chars : List Char} (h : chars.head? = some '/') (base : List Char) :
    absoluteChars standpoint base chars = chars := by
  cases chars with
  | nil => simp at h
  | cons c rest =>
    obtain rfl : c = '/' := by simpa using h
    simp [absoluteChars, expandHome, based]

/-- A path is canonical if it is located where it is, from everywhere and relative to every
directory. -/
def IsCanonical (path : String) : Prop := ∀ standpoint base, locate standpoint base path = .ok path

/-- A path of proper segments without NUL is canonical. -/
theorem isCanonical_of_rooted {segments : List (List Char)} {path : String}
    (hpath : path.toList = rooted segments) (h : ∀ segment ∈ segments, Proper segment)
    (hnul : '\x00' ∉ path.toList) : IsCanonical path := by
  intro standpoint base
  have habsolute : absoluteChars standpoint base.toList path.toList = path.toList := by
    rw [hpath]
    exact absoluteChars_of_head (head?_rooted segments) _
  have hnameable : isNameable standpoint base path = true := by
    simpa [isNameable, habsolute] using hnul
  have hcanonical : canonicalChars standpoint base.toList path.toList = path.toList := by
    rw [canonicalChars, habsolute, hpath, normalize_rooted h]
  rw [locate, if_pos hnameable, canonical, hcanonical, String.ofList_toList]

/-- A path that was located is canonical. -/
theorem isCanonical_of_locate {base path located : String}
    (h : locate standpoint base path = .ok located) : IsCanonical located := by
  unfold locate at h
  split at h
  case isFalse => cases h
  case isTrue hnameable =>
    cases h
    have hnul : '\x00' ∉ absoluteChars standpoint base.toList path.toList := by
      simpa [isNameable] using hnameable
    obtain ⟨segments, hsegments, hnormalize⟩ :=
      exists_normalize_eq (absoluteChars standpoint base.toList path.toList)
    have hpath : (canonical standpoint base path).toList = rooted segments := by
      simp [canonical, canonicalChars, hnormalize]
    refine isCanonical_of_rooted hpath (fun segment hsegment => (hsegments segment hsegment).1) ?_
    intro hmem
    rw [hpath] at hmem
    rcases mem_rooted hmem with hslash | ⟨segment, hsegment, hc⟩
    · exact absurd hslash (by decide)
    · exact hnul ((hsegments segment hsegment).2 _ hc)

end Rune.FilePath
