import Rune.File.Store
import Rune.Proofs.Entries
import Rune.Proofs.File.Path
import Rune.Proofs.Lists
import Mathlib.Logic.Relation

/-!
# Rune - spellings of one path

A path may say more than where it leads: behind a slash it can step to the same
directory, go into a directory and out again, or have another slash.  Wherever it is
looked at from, such a detour changes nothing about the file that the path leads to.
What stands before the slash decides about home directories and the base, and what
stands behind it is only walked along.  A path that holds a NUL names no file, however
it is spelled.

Main results:

- Relation {lit}`FilePath.Detour` takes a detour out of a path, and
  {lit}`FilePath.SamePath` says that two paths differ by such detours.
- Theorem {lit}`FilePath.SamePath.locate_eq`: two spellings of one path lead to one file,
  from everywhere.
- Theorem {lit}`FilePath.locate_eq_error_iff`: a path is refused exactly for a NUL.
- Theorem {lit}`FilePath.exists_locate`: all others are located, at a path of proper
  segments.
- Theorem {lit}`TextStore.load_ofList`: a store finds a text under every spelling of its
  path.
-/

namespace Rune

namespace FilePath

/-! ## Walking along what stands behind a slash -/

theorem split_ne_nil (chars : List Char) : split chars ≠ [] := by
  cases chars with
  | nil => simp [split]
  | cons c rest =>
    rw [split]
    split
    · simp
    · split <;> simp

/-- The segments before a slash and those behind it. -/
theorem split_slash (front rest : List Char) :
    split (front ++ '/' :: rest) = split front ++ split rest := by
  induction front with
  | nil => simp [split]
  | cons c front ih =>
    by_cases hc : c = '/'
    · simp [split, hc, ih]
    · cases hsplit : split front with
      | nil => exact absurd hsplit (split_ne_nil front)
      | cons first segments => simp [split, hc, ih, hsplit]

/-- Characters without a slash are one segment. -/
theorem split_of_no_slash {segment : List Char} (h : '/' ∉ segment) :
    split segment = [segment] := by
  simpa using @split_append segment [] [] h rfl

/-- Behind a slash it makes no difference which of the two comes: walking along them one
comes to the same place, and both or neither can be in the name of a file. -/
structure Alike (rest rest' : List Char) : Prop where
  walk_eq : ∀ trail, (split rest).foldl walk trail = (split rest').foldl walk trail
  nul_iff : '\x00' ∈ rest ↔ '\x00' ∈ rest'

namespace Alike

theorem same (rest : List Char) : Alike ('.' :: '/' :: rest) rest where
  walk_eq trail := by
    have hsplit : split ('.' :: '/' :: rest) = ['.'] :: split rest := split_slash ['.'] rest
    rw [hsplit, List.foldl_cons]
    simp [walk]
  nul_iff := by simp

theorem empty (rest : List Char) : Alike ('/' :: rest) rest where
  walk_eq trail := by
    have hsplit : split ('/' :: rest) = [] :: split rest := split_slash [] rest
    rw [hsplit, List.foldl_cons]
    simp [walk]
  nul_iff := by simp

/-- A proper segment is passed and taken back. -/
theorem parent {segment : List Char} (h : Proper segment) (hnul : '\x00' ∉ segment)
    (rest : List Char) : Alike (segment ++ '/' :: '.' :: '.' :: '/' :: rest) rest where
  walk_eq trail := by
    have hup : split ('.' :: '.' :: '/' :: rest) = ['.', '.'] :: split rest :=
      split_slash ['.', '.'] rest
    have hsplit : split (segment ++ '/' :: '.' :: '.' :: '/' :: rest) =
        segment :: ['.', '.'] :: split rest := by
      rw [split_slash, split_of_no_slash h.no_slash, hup, List.singleton_append]
    rw [hsplit, List.foldl_cons, List.foldl_cons]
    simp [walk, h.ne_nil, h.ne_same, h.ne_parent]
  nul_iff := by simp [hnul]

end Alike

/-- The canonical form depends on where one comes to behind a slash. -/
theorem Alike.normalize_eq {rest rest' : List Char} (h : Alike rest rest') (front : List Char) :
    normalize (front ++ '/' :: rest) = normalize (front ++ '/' :: rest') := by
  simp only [FilePath.normalize_eq, split_slash, List.foldl_append, h.walk_eq]

/-! ## What stands before a slash -/

variable {standpoint : Standpoint}

theorem exists_based_slash (directory front : List Char) :
    ∃ front', ∀ rest, based directory (front ++ '/' :: rest) = front' ++ '/' :: rest := by
  cases front with
  | nil => exact ⟨[], fun rest => by simp [based]⟩
  | cons c front =>
    by_cases hstays : c = '/' ∨ directory = []
    · exact ⟨c :: front, fun rest => by simp [based, hstays]⟩
    · exact ⟨directory ++ '/' :: c :: front, fun rest => by simp [based, hstays]⟩

/-- What stands before the first slash ends at a slash before it. -/
theorem takeWhile_slash (front rest : List Char) :
    (front ++ '/' :: rest).takeWhile (· ≠ '/') = front.takeWhile (· ≠ '/') := by
  induction front with
  | nil => rfl
  | cons c front ih =>
    rw [List.cons_append, List.takeWhile_cons, List.takeWhile_cons, ih]

theorem dropWhile_slash (front rest : List Char) :
    (front ++ '/' :: rest).dropWhile (· ≠ '/') = front.dropWhile (· ≠ '/') ++ '/' :: rest := by
  induction front with
  | nil => rfl
  | cons c front ih =>
    rw [List.cons_append, List.dropWhile_cons, List.dropWhile_cons, ih]
    split <;> rfl

/-- The name of a user ends before a slash, so that what stands behind one is not looked at. -/
theorem exists_expandHome_slash (standpoint : Standpoint) (front : List Char) :
    ∃ front', ∀ rest, expandHome standpoint (front ++ '/' :: rest) = front' ++ '/' :: rest := by
  cases front with
  | nil => exact ⟨[], fun rest => rfl⟩
  | cons c front =>
    by_cases htilde : c = '~'
    · subst htilde
      cases hhome : standpoint.homes (String.ofList (front.takeWhile (· ≠ '/'))) with
      | none =>
        exact ⟨'~' :: front, fun rest => by
          simp only [List.cons_append, expandHome, takeWhile_slash, hhome]⟩
      | some home =>
        exact ⟨trimSlashes home.toList ++ front.dropWhile (· ≠ '/'), fun rest => by
          simp only [List.cons_append, expandHome, takeWhile_slash, dropWhile_slash, hhome]
          simp⟩
    · exact ⟨c :: front, fun rest => by simp [expandHome, htilde]⟩

/-- What stands behind a slash stands behind it in the path from the root on. -/
theorem exists_absoluteChars_slash (standpoint : Standpoint) (base front : List Char) :
    ∃ front', ∀ rest,
      absoluteChars standpoint base (front ++ '/' :: rest) = front' ++ '/' :: rest := by
  obtain ⟨expanded, hexpanded⟩ := exists_expandHome_slash standpoint front
  obtain ⟨relative, hrelative⟩ := exists_based_slash base expanded
  obtain ⟨absolute, habsolute⟩ := exists_based_slash standpoint.working.toList relative
  exact ⟨absolute, fun rest => by rw [absoluteChars, hexpanded, hrelative, habsolute]⟩

/-! ## Spellings -/

/-- Two paths that differ in what is alike behind a slash are located alike. -/
theorem Alike.locate_eq {rest rest' : List Char} (h : Alike rest rest') (front : List Char)
    {path path' : String} (hpath : path.toList = front ++ '/' :: rest)
    (hpath' : path'.toList = front ++ '/' :: rest') (standpoint : Standpoint) (base : String) :
    locate standpoint base path = locate standpoint base path' := by
  obtain ⟨absolute, habsolute⟩ := exists_absoluteChars_slash standpoint base.toList front
  have hcanonical : canonical standpoint base path = canonical standpoint base path' := by
    rw [canonical, canonical, canonicalChars, canonicalChars, hpath, hpath', habsolute, habsolute,
      h.normalize_eq]
  have hnameable : isNameable standpoint base path = isNameable standpoint base path' := by
    rw [Bool.eq_iff_iff]
    simp [isNameable, hpath, hpath', habsolute, h.nul_iff]
  rw [locate, locate, hcanonical, hnameable]

/-- A detour in a path, and the path without it: a step to the same directory, a slash too
many, or a step into a directory and out again. -/
inductive Detour : String → String → Prop
  | same (front rest : String) : Detour (front ++ "/./" ++ rest) (front ++ "/" ++ rest)
  | empty (front rest : String) : Detour (front ++ "//" ++ rest) (front ++ "/" ++ rest)
  | parent (front rest : String) {segment : String} : Proper segment.toList →
      '\x00' ∉ segment.toList →
      Detour (front ++ "/" ++ segment ++ "/../" ++ rest) (front ++ "/" ++ rest)

/-- A path without a detour is located where it was. -/
theorem Detour.locate_eq {path path' : String} (h : Detour path path') (standpoint : Standpoint)
    (base : String) : locate standpoint base path = locate standpoint base path' := by
  cases h with
  | same front rest =>
    exact (Alike.same rest.toList).locate_eq front.toList (by simp) (by simp) standpoint base
  | empty front rest =>
    exact (Alike.empty rest.toList).locate_eq front.toList (by simp) (by simp) standpoint base
  | parent front rest hsegment hnul =>
    exact (Alike.parent hsegment hnul rest.toList).locate_eq front.toList (by simp) (by simp)
      standpoint base

/-- Two spellings of one path: one comes from the other by taking detours out and putting
others in. -/
abbrev SamePath : String → String → Prop := Relation.EqvGen Detour

/-- Two spellings of one path lead to one file, from everywhere and relative to every
directory. -/
theorem SamePath.locate_eq {path path' : String} (h : SamePath path path')
    (standpoint : Standpoint) (base : String) :
    locate standpoint base path = locate standpoint base path' := by
  induction h with
  | rel path path' hdetour => exact hdetour.locate_eq standpoint base
  | refl path => rfl
  | symm path path' _ ih => exact ih.symm
  | trans path mid path' _ _ ih ih' => exact ih.trans ih'

/-! ## Paths with and without NUL -/

theorem mem_of_mem_trimSlashes {chars : List Char} {c : Char} (h : c ∈ trimSlashes chars) :
    c ∈ chars :=
  List.mem_reverse.mp ((List.dropWhile_sublist _).mem (List.mem_reverse.mp h))

/-- A NUL in a path stands behind the name of the user, who has none in it. -/
theorem nul_mem_expandHome_iff {chars : List Char} :
    '\x00' ∈ expandHome standpoint chars ↔ '\x00' ∈ chars := by
  unfold expandHome
  split
  case h_2 => rfl
  case h_1 rest =>
    split
    case h_2 => rfl
    case h_1 home hhome =>
      obtain ⟨hname, hnul⟩ := standpoint.homes_nul hhome
      have hdirectory : '\x00' ∉ trimSlashes home.toList := fun h => hnul (mem_of_mem_trimSlashes h)
      rw [String.toList_ofList] at hname
      have hrest : '\x00' ∈ '~' :: rest ↔ '\x00' ∈ rest.dropWhile (· ≠ '/') := calc
        '\x00' ∈ '~' :: rest ↔ '\x00' ∈ rest := by simp
        _ ↔ '\x00' ∈ rest.takeWhile (· ≠ '/') ++ rest.dropWhile (· ≠ '/') := by
          rw [List.takeWhile_append_dropWhile]
        _ ↔ '\x00' ∈ rest.dropWhile (· ≠ '/') := by rw [List.mem_append, or_iff_right hname]
      rw [hrest]
      dsimp only
      split
      · rename_i hnil
        rw [(List.append_eq_nil_iff.mp hnil).2]
        decide
      · rw [List.mem_append, or_iff_right hdirectory]

theorem nul_mem_based_iff {directory chars : List Char} :
    '\x00' ∈ based directory chars ↔
      '\x00' ∈ chars ∨ '\x00' ∈ directory ∧ chars.head? ≠ some '/' := by
  unfold based
  split
  · rename_i hstays
    rcases hstays with hroot | rfl
    · simp [hroot]
    · simp
  · rename_i hmoves
    simp [(not_or.mp hmoves).1, or_comm]

/-- The path from the root on holds the NULs of the path, and those of the base if the path is
relative to it. -/
theorem nul_mem_absoluteChars_iff {base chars : List Char} :
    '\x00' ∈ absoluteChars standpoint base chars ↔
      '\x00' ∈ chars ∨ '\x00' ∈ base ∧ (expandHome standpoint chars).head? ≠ some '/' := by
  rw [absoluteChars, nul_mem_based_iff, nul_mem_based_iff, nul_mem_expandHome_iff]
  simp [standpoint.working_nul]

/-- A path is refused for a NUL in it, and for a NUL in the base that it is relative to. -/
theorem locate_eq_error_iff {base path : String} :
    locate standpoint base path = .error .nullInPath ↔ '\x00' ∈ path.toList ∨
      '\x00' ∈ base.toList ∧ (expandHome standpoint path.toList).head? ≠ some '/' := by
  rw [← nul_mem_absoluteChars_iff, locate]
  split <;> simp_all [isNameable]

/-- A path that is not refused is located, at a path of proper segments. -/
theorem exists_locate {base path : String} (h : locate standpoint base path ≠ .error .nullInPath) :
    ∃ located segments, locate standpoint base path = .ok located ∧
      located.toList = rooted segments ∧ ∀ segment ∈ segments, Proper segment := by
  obtain ⟨segments, hsegments, hnormalize⟩ :=
    exists_normalize_eq (absoluteChars standpoint base.toList path.toList)
  refine ⟨canonical standpoint base path, segments, ?_,
    by simp [canonical, canonicalChars, hnormalize],
    fun segment hsegment => (hsegments segment hsegment).1⟩
  unfold locate at h ⊢
  split at h
  case isTrue hnameable => exact if_pos hnameable
  case isFalse => exact absurd rfl h

/-- The working directory holds no NUL, so that relative to it only those of the path count. -/
theorem exists_locateHere (standpoint : Standpoint) {path : String} (h : '\x00' ∉ path.toList) :
    ∃ located, locateHere standpoint path = .ok located := by
  have hnul : locateHere standpoint path ≠ .error .nullInPath := by
    rw [ne_eq, locate_eq_error_iff]
    exact not_or.mpr ⟨h, fun hworking => standpoint.working_nul hworking.1⟩
  obtain ⟨located, -, hlocated, -⟩ := exists_locate hnul
  exact ⟨located, hlocated⟩

/-- A path with NUL is not located, although nothing else is wrong with it. -/
theorem locate_nul :
    ¬ ∃ located, locate (.atRoot "/home" (by decide)) "/cfg" "a\x00b" = .ok located := by
  have hlocate : locate (.atRoot "/home" (by decide)) "/cfg" "a\x00b" = .error .nullInPath := by
    decide +kernel
  rintro ⟨located, h⟩
  rw [hlocate] at h
  cases h

end FilePath

/-! ## Stores -/

namespace TextStore

variable {standpoint : FilePath.Standpoint} {store : TextStore}

/-- A text is found under a path that is located where the text is. -/
theorem load_eq_ok_iff {path text : String} : load standpoint store path = .ok text ↔
    ∃ located, FilePath.locateHere standpoint path = .ok located ∧
      Entries.get? located store = some text := by
  unfold load
  cases FilePath.locateHere standpoint path with
  | error fault => simp [bind, Except.bind]
  | ok located =>
    cases hget : Entries.get? located store <;>
      simp [bind, Except.bind, pure, Except.pure, throw, throwThe, MonadExceptOf.throw, hget]

/-- The entry of a text that is given to a store. -/
def place (standpoint : FilePath.Standpoint) (given : String × String) :
    Except Fault (String × String) := do
  return (← FilePath.locateHere standpoint given.1, given.2)

theorem place_eq_ok_iff {given entry : String × String} : place standpoint given = .ok entry ↔
    FilePath.locateHere standpoint given.1 = .ok entry.1 ∧ given.2 = entry.2 := by
  unfold place
  obtain ⟨located, text⟩ := entry
  cases FilePath.locateHere standpoint given.1 <;> simp [bind, Except.bind, pure, Except.pure]

/-- A store is made of the entries of its texts. -/
theorem ofList_eq_ok_iff {texts : List (String × String)} : ofList standpoint texts = .ok store ↔
    ∃ entries, List.Forall₂ (fun given entry => place standpoint given = .ok entry) texts entries ∧
      Entries.ofList entries = store := by
  have hofList : ofList standpoint texts =
      (texts.mapM (place standpoint)).bind fun entries => .ok (Entries.ofList entries) := rfl
  simp only [hofList, ← List.mapM_eq_ok_iff]
  cases texts.mapM (place standpoint) <;> simp [Except.bind]

/-- Texts under paths that can be located make a store. -/
theorem exists_ofList {texts : List (String × String)}
    (h : ∀ given ∈ texts, ∃ located, FilePath.locateHere standpoint given.1 = .ok located) :
    ∃ store, ofList standpoint texts = .ok store := by
  suffices hentries : ∃ entries,
      List.Forall₂ (fun given entry => place standpoint given = .ok entry) texts entries by
    obtain ⟨entries, hentries⟩ := hentries
    exact ⟨_, ofList_eq_ok_iff.mpr ⟨entries, hentries, rfl⟩⟩
  induction texts with
  | nil => exact ⟨[], .nil⟩
  | cons given texts ih =>
    rw [List.forall_mem_cons] at h
    obtain ⟨located, hlocated⟩ := h.1
    obtain ⟨entries, hentries⟩ := ih h.2
    exact ⟨(located, given.2) :: entries, .cons (place_eq_ok_iff.mpr ⟨hlocated, rfl⟩) hentries⟩

/-- A store finds a text under every path that is located where its own path is, unless a later
text was put there. -/
theorem load_ofList {earlier later : List (String × String)} {path text : String}
    (h : ofList standpoint (earlier ++ (path, text) :: later) = .ok store)
    (hlast : ∀ other ∈ later,
      FilePath.locateHere standpoint other.1 ≠ FilePath.locateHere standpoint path)
    {spelling : String}
    (hspelling : FilePath.locateHere standpoint spelling = FilePath.locateHere standpoint path) :
    load standpoint store spelling = .ok text := by
  obtain ⟨entries, hentries, rfl⟩ := ofList_eq_ok_iff.mp h
  -- The entries of the text and of those after it.
  obtain ⟨⟨located, _⟩, after, hentry, hafter, hdrop⟩ :=
    List.forall₂_cons_right_iff.mp (List.forall₂_drop_append _ _ _ hentries.flip)
  obtain ⟨hlocated, rfl⟩ := place_eq_ok_iff.mp hentry
  have hother : ∀ entry ∈ after, entry.1 ≠ located := by
    refine hafter.flip.forall_mem (fun other entry hplace hne heq => hne ?_) hlast
    rw [(place_eq_ok_iff.mp hplace).1, heq, ← hlocated]
  have hunchanged : Entries.get? located after.reverse = none := by
    rw [Entries.get?_eq_none_iff]
    simpa [Entries.keys] using fun text hmem => hother (located, text) hmem rfl
  refine load_eq_ok_iff.mpr ⟨located, hspelling.trans hlocated, ?_⟩
  rw [Entries.get?_ofList, ← List.take_append_drop earlier.length entries, hdrop]
  simp [Entries.get?_append, hunchanged, Entries.get?]

end TextStore

end Rune
