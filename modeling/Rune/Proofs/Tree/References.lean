import Rune.Proofs.Token.Literals
import Rune.Tree.Interpolation

/-!
# Rune - how a reference in a string is spelled

Behind a dollar sign stand a namespace, a dot and a name, all of it between braces or
not.  A name without braces reaches as far as it can.  A string is gone through from left
to right, mark by mark: what has become pieces, the text since then, and what lies ahead.

Main results:

- Theorem {lit}`Interpolation.referenceAt?_eq_some_iff`: which references are recognised.
- Theorems {lit}`Interpolation.piecesFrom_nil`, {lit}`Interpolation.piecesFrom_free` and
  {lit}`Interpolation.piecesFrom_reference`: what the marks that lie ahead come to.
- Theorem {lit}`Interpolation.operandOf_eq`: the operand of a string by its marks.
-/

namespace Rune

/-- The two namespaces of the host. -/
inductive HostSpace where
  | env
  | sys
  deriving DecidableEq

namespace HostSpace

/-- The name of a namespace with the dot behind it. -/
def dotted : HostSpace → List Char
  | env => "env.".toList
  | sys => "sys.".toList

/-- The reference to a name of a namespace. -/
def ref (range : TextRange) (name : String) : HostSpace → HostRef
  | env => .env name range
  | sys => .sys name range

end HostSpace

namespace Interpolation

/-- A name may stand in a reference inside a string. -/
structure IsName (name : List Char) : Prop where
  ne_nil : name ≠ []
  chars : ∀ c ∈ name, isNameChar c = true

theorem isName_iff {name : List Char} : IsName name ↔ name ≠ [] ∧ name.all isNameChar = true := by
  rw [List.all_eq_true]
  exact ⟨fun h => ⟨h.ne_nil, h.chars⟩, fun h => ⟨h.1, h.2⟩⟩

instance (name : List Char) : Decidable (IsName name) := decidable_of_iff _ isName_iff.symm

/-- A name does not go on with the next character. -/
def EndsName (after : List Char) : Prop := after.head?.any isNameChar = false

/-- How a reference is spelled behind its dollar sign. -/
def spelled (braced : Bool) (space : HostSpace) (name : List Char) : List Char :=
  if braced then openBrace :: (space.dotted ++ (name ++ [closeBrace])) else space.dotted ++ name

/-- Characters behind a dollar sign begin with a reference. -/
def BeginsReference (chars : List Char) : Prop :=
  ∃ braced space name after, IsName name ∧ chars = spelled braced space name ++ after

/-! ## Writing one reference -/

section Writing

/-- The marks of a reference that is written without a backslash. -/
def referenceMarks (braced : Bool) (space : HostSpace) (name : List Char) : List Mark :=
  .plain '$' :: (spelled braced space name).map .plain

theorem written_referenceMarks (braced : Bool) (space : HostSpace) (name : List Char) :
    Mark.written (referenceMarks braced space name) = '$' :: spelled braced space name := by
  have hplain := Mark.written_map_plain ('$' :: spelled braced space name)
  exact hplain

theorem isHarmless_of_isNameChar {c : Char} (h : isNameChar c = true) :
    Mark.isHarmless c = true := by
  have hne (d : Char) (hd : isNameChar d = false) : c ≠ d := by
    rintro rfl
    exact Bool.false_ne_true (hd.symm.trans h)
  have hdouble := hne '"' (by decide +kernel)
  have hsingle := hne '\'' (by decide +kernel)
  have hslash := hne '\\' (by decide +kernel)
  have hfeed := hne '\n' (by decide +kernel)
  simp [Mark.isHarmless, hdouble, hsingle, hslash, hfeed]

/-- Around a name a reference is spelled with characters that may stand in a string by
themselves. -/
theorem isHarmless_of_mem_spelled {braced : Bool} {space : HostSpace} {name : List Char} {c : Char}
    (hname : ∀ c ∈ name, Mark.isHarmless c = true) (h : c ∈ spelled braced space name) :
    Mark.isHarmless c = true := by
  have hdotted : ∀ d ∈ space.dotted, Mark.isHarmless d = true :=
    List.all_eq_true.mp (by cases space <;> decide)
  have hinner : c ∈ space.dotted ∨ c ∈ name → Mark.isHarmless c = true := by
    rintro (hc | hc)
    · exact hdotted c hc
    · exact hname c hc
  unfold spelled at h
  cases braced with
  | true =>
    rw [if_pos rfl, List.mem_cons, List.mem_append, List.mem_append, List.mem_singleton] at h
    rcases h with rfl | h | h | rfl
    · decide
    · exact hinner (.inl h)
    · exact hinner (.inr h)
    · decide
  | false => exact hinner (List.mem_append.mp h)

/-- No dollar sign stands in a reference behind the first one. -/
theorem dollar_not_mem_spelled {name : List Char} (hname : '$' ∉ name) (braced : Bool)
    (space : HostSpace) : '$' ∉ spelled braced space name := by
  cases braced <;> cases space <;>
    simp [spelled, HostSpace.dotted, hname, openBrace, closeBrace]

/-- A reference may stand between quotes of either kind. -/
theorem fits_referenceMarks {quote : Char} (hquote : quote = '"' ∨ quote = '\'') {braced : Bool}
    {space : HostSpace} {name : List Char} (hname : ∀ c ∈ name, Mark.isHarmless c = true) :
    ∀ mark ∈ referenceMarks braced space name, mark.Fits quote := by
  rw [referenceMarks, List.forall_mem_cons]
  refine ⟨Mark.fits_of_isHarmless hquote (by decide), fun mark hmark => ?_⟩
  obtain ⟨c, hc, rfl⟩ := List.mem_map.mp hmark
  exact Mark.fits_of_isHarmless hquote (isHarmless_of_mem_spelled hname hc)

end Writing

/-! ## Recognising one reference -/

section Recognising

variable {name after chars : List Char} {braced : Bool} {space : HostSpace} {range : TextRange}

theorem dropStart?_eq_some_iff {start chars after : List Char} :
    dropStart? start chars = some after ↔ chars = start ++ after := by
  fun_induction dropStart? start chars <;> simp_all [eq_comm]

theorem endsName_closeBrace (after : List Char) : EndsName (closeBrace :: after) := by
  have hbrace : isNameChar closeBrace = false := by decide +kernel
  exact hbrace

/-- Behind the run of name characters at the beginning a name ends. -/
theorem exists_endsName (chars : List Char) :
    ∃ after, EndsName after ∧ chars = chars.takeWhile isNameChar ++ after := by
  refine ⟨chars.dropWhile isNameChar, ?_, List.takeWhile_append_dropWhile.symm⟩
  have hstop := List.head?_dropWhile_not isNameChar chars
  unfold EndsName
  cases hhead : (chars.dropWhile isNameChar).head? with
  | none => rfl
  | some c => simpa [hhead] using hstop

theorem isNameChar_of_mem_takeWhile {c : Char} (h : c ∈ chars.takeWhile isNameChar) :
    isNameChar c = true :=
  List.all_eq_true.mp List.all_takeWhile c h

/-- Which references to one namespace are recognised. -/
theorem named?_eq_some_iff {dotted : List Char} {found : String × Nat} :
    named? braced dotted chars = some found ↔ ∃ name after, IsName name ∧ EndsName after ∧
      chars = dotted ++ (name ++ after) ∧ (braced = true → after.head? = some closeBrace) ∧
        found = (String.ofList name, dotted.length + name.length + if braced then 1 else 0) := by
  constructor
  · intro h
    unfold named? at h
    split at h
    · cases h
    rename_i rest hrest
    obtain ⟨after, hends, hafter⟩ := exists_endsName rest
    have hname : ∀ c ∈ rest.takeWhile isNameChar, isNameChar c = true := fun c =>
      isNameChar_of_mem_takeWhile
    generalize rest.takeWhile isNameChar = name at h hafter hname
    dsimp only at h
    split at h
    · cases h
    rename_i hne
    refine ⟨name, after, ⟨hne, hname⟩, hends, ?_, ?_⟩
    · rw [dropStart?_eq_some_iff.mp hrest, hafter]
    rw [hafter, List.drop_left] at h
    cases braced with
    | true =>
      rw [if_pos rfl] at h
      split at h <;> cases h
      rename_i hbrace
      exact ⟨fun _ => by simpa using hbrace, rfl⟩
    | false =>
      cases h
      exact ⟨nofun, rfl⟩
  · rintro ⟨name, after, hname, hends, rfl, hbrace, rfl⟩
    have hdrop : dropStart? dotted (dotted ++ (name ++ after)) = some (name ++ after) :=
      dropStart?_eq_some_iff.mpr rfl
    unfold named?
    rw [hdrop]
    dsimp only
    rw [takeWhile_append_of_stop hname.chars hends, if_neg hname.ne_nil, List.drop_left]
    cases braced with
    | true => simp [hbrace rfl]
    | false => rfl

/-- No characters begin with both namespaces. -/
theorem dotted_injective {space space' : HostSpace} {after' : List Char}
    (h : space.dotted ++ after = space'.dotted ++ after') : space = space' := by
  cases space <;> cases space' <;> first | rfl | cases (List.cons.inj h).1

/-- The namespace that characters begin with is found, whichever is looked for first. -/
theorem referenceAt?_eq_some_iff_named {found : HostRef × Nat} :
    referenceAt? range chars = some found ↔
      ∃ (space : HostSpace) (name : String) (taken : Nat),
        named? (chars.head? == some openBrace) space.dotted
            (if chars.head? == some openBrace then chars.tail else chars) = some (name, taken) ∧
          found = (space.ref range name,
            (if chars.head? == some openBrace then 2 else 1) + taken) := by
  unfold referenceAt?
  dsimp only
  generalize (chars.head? == some openBrace) = braced
  generalize (if braced then chars.tail else chars) = inner
  generalize (if braced then 2 else 1) = opening
  cases henv : named? braced "env.".toList inner with
  | some given =>
    obtain ⟨name, taken⟩ := given
    constructor
    · intro h
      exact ⟨.env, name, taken, henv, (Option.some.inj h).symm⟩
    · rintro ⟨space, name', taken', hnamed, rfl⟩
      obtain ⟨_, after, _, _, hinner, _⟩ := named?_eq_some_iff.mp henv
      obtain ⟨_, after', _, _, hinner', _⟩ := named?_eq_some_iff.mp hnamed
      obtain rfl : HostSpace.env = space := dotted_injective (hinner.symm.trans hinner')
      obtain ⟨rfl, rfl⟩ := Prod.mk.inj (Option.some.inj (henv.symm.trans hnamed))
      rfl
  | none =>
    constructor
    · intro h
      obtain ⟨⟨key, taken⟩, hsys, rfl⟩ := Option.map_eq_some_iff.mp h
      exact ⟨.sys, key, taken, hsys, rfl⟩
    · rintro ⟨space, name, taken, hnamed, rfl⟩
      cases space with
      | env => cases henv.symm.trans hnamed
      | sys => exact Option.map_eq_some_iff.mpr ⟨(name, taken), hnamed, rfl⟩

/-- Which references are recognised, and how many characters they take. -/
theorem referenceAt?_eq_some_iff {found : HostRef × Nat} :
    referenceAt? range chars = some found ↔ ∃ braced space name after, IsName name ∧
      chars = spelled braced space name ++ after ∧ (braced = false → EndsName after) ∧
        found = (space.ref range (String.ofList name), (spelled braced space name).length + 1) := by
  have hplain (space : HostSpace) (rest : List Char) :
      ((space.dotted ++ rest).head? == some openBrace) = false := by
    cases space <;> rfl
  rw [referenceAt?_eq_some_iff_named]
  constructor
  · rintro ⟨space, _, _, hnamed, rfl⟩
    obtain ⟨name, after, hname, hends, hchars, hbrace, hfound⟩ := named?_eq_some_iff.mp hnamed
    obtain ⟨rfl, rfl⟩ := Prod.mk.inj hfound
    cases hopen : chars.head? == some openBrace with
    | true =>
      obtain ⟨inner, rfl⟩ := List.head?_eq_some_iff.mp (by simpa using hopen)
      rw [hopen, if_pos rfl, List.tail_cons] at hchars
      obtain ⟨rest, rfl⟩ := List.head?_eq_some_iff.mp (hbrace hopen)
      refine ⟨true, space, name, rest, hname, ?_, nofun, ?_⟩
      · simp [spelled, hchars]
      · simp [spelled]
        omega
    | false =>
      rw [hopen, if_neg Bool.false_ne_true] at hchars
      refine ⟨false, space, name, after, hname, ?_, fun _ => hends, ?_⟩
      · simp [spelled, hchars]
      · simp [spelled]
        omega
  · rintro ⟨braced, space, name, after, hname, rfl, hends, rfl⟩
    cases braced with
    | true =>
      refine ⟨space, String.ofList name, space.dotted.length + name.length + 1, ?_, ?_⟩
      · refine named?_eq_some_iff.mpr ⟨name, closeBrace :: after, hname, endsName_closeBrace after,
          ?_, fun _ => rfl, ?_⟩
        · simp [spelled]
        · simp [spelled]
      · simp [spelled]
        omega
    | false =>
      have hspelled : spelled false space name ++ after = space.dotted ++ (name ++ after) :=
        List.append_assoc _ _ _
      rw [hspelled, hplain]
      refine ⟨space, String.ofList name, space.dotted.length + name.length, ?_, ?_⟩
      · exact named?_eq_some_iff.mpr ⟨name, after, hname, hends rfl, rfl, nofun, rfl⟩
      · simp [spelled]
        omega

/-- A reference is recognised wherever one begins, and it is at least as long. -/
theorem exists_reference (hname : IsName name) (after : List Char) :
    ∃ found, referenceAt? range (spelled braced space name ++ after) = some found ∧
      (spelled braced space name).length + 1 ≤ found.2 := by
  cases braced with
  | true =>
    exact ⟨_, referenceAt?_eq_some_iff.mpr ⟨true, space, name, after, hname, rfl, nofun, rfl⟩,
      Nat.le_refl _⟩
  | false =>
    -- Without braces the name goes on as far as there are name characters.
    obtain ⟨rest, hends, hafter⟩ := exists_endsName after
    have hwhole : IsName (name ++ after.takeWhile isNameChar) := by
      refine ⟨by simp [hname.ne_nil], fun c hc => ?_⟩
      rcases List.mem_append.mp hc with hc | hc
      · exact hname.chars c hc
      · exact isNameChar_of_mem_takeWhile hc
    refine ⟨_, referenceAt?_eq_some_iff.mpr
      ⟨false, space, _, rest, hwhole, ?_, fun _ => hends, rfl⟩, ?_⟩
    · conv_lhs => rw [hafter]
      simp [spelled]
    · simp [spelled]

/-- Nothing is recognised only where no reference begins. -/
theorem referenceAt?_eq_none_iff : referenceAt? range chars = none ↔ ¬BeginsReference chars := by
  constructor
  · rintro h ⟨braced, space, name, after, hname, rfl⟩
    obtain ⟨found, hfound, -⟩ := exists_reference hname after
    exact nomatch h.symm.trans hfound
  · intro h
    rw [Option.eq_none_iff_forall_ne_some]
    intro found hfound
    obtain ⟨braced, space, name, after, hname, rfl, -⟩ := referenceAt?_eq_some_iff.mp hfound
    exact h ⟨braced, space, name, after, hname, rfl⟩

end Recognising

/-! ## Going through a string -/

section Pieces

variable {range : TextRange} {done pending rest : List Mark}

/-- The pieces of a string that has been gone through up to some marks: some have become
pieces, others are text that is not yet a piece, and the rest lies ahead. -/
def piecesFrom (range : TextRange) (done pending rest : List Mark) : List Piece × Bool :=
  pieces range (Mark.contents (done ++ (pending ++ rest))) done.length
    (Mark.dollars (done.length + pending.length) rest)

/-- Dollar signs in what has become pieces are passed over. -/
theorem pieces_append {chars : List Char} {cursor : Nat} {passed : List Nat}
    (h : ∀ dollar ∈ passed, dollar < cursor) (ahead : List Nat) :
    pieces range chars cursor (passed ++ ahead) = pieces range chars cursor ahead := by
  induction passed with
  | nil => rfl
  | cons dollar passed ih =>
    rw [List.forall_mem_cons] at h
    rw [List.cons_append, pieces, if_pos h.1, ih h.2]

/-- At the end the text since the last reference becomes a piece. -/
theorem piecesFrom_nil (range : TextRange) (done pending : List Mark) :
    piecesFrom range done pending [] = (textPiece (Mark.contents pending), false) := by
  have hdrop : (Mark.contents (done ++ (pending ++ []))).drop done.length =
      Mark.contents pending := by
    rw [List.append_nil, Mark.contents_append, ← Mark.length_contents done, List.drop_left]
  rw [piecesFrom, Mark.dollars, pieces, hdrop]

/-- No reference begins in some marks, with others behind them. -/
def Free (marks behind : List Mark) : Prop :=
  ∀ before after, marks = before ++ .plain '$' :: after →
    ¬BeginsReference (Mark.contents (after ++ behind))

/-- What stands behind a dollar sign that lies ahead. -/
theorem drop_contents (done pending rest : List Mark) (mark : Mark) :
    (Mark.contents (done ++ (pending ++ mark :: rest))).drop (done.length + pending.length + 1) =
      Mark.contents rest := by
  have hlength : (Mark.contents (done ++ (pending ++ [mark]))).length =
      done.length + pending.length + 1 := by
    simp [Nat.add_assoc]
  have hsplit : done ++ (pending ++ mark :: rest) = done ++ (pending ++ [mark]) ++ rest := by simp
  rw [hsplit, Mark.contents_append, ← hlength, List.drop_left]

/-- A mark at which no reference begins joins the text. -/
theorem piecesFrom_mark {mark : Mark}
    (h : mark = .plain '$' → ¬BeginsReference (Mark.contents rest)) :
    piecesFrom range done pending (mark :: rest) =
      piecesFrom range done (pending ++ [mark]) rest := by
  have hlength : done.length + (pending ++ [mark]).length = done.length + pending.length + 1 := by
    rw [List.length_append, List.length_singleton, Nat.add_assoc]
  have hchars : done ++ (pending ++ [mark] ++ rest) = done ++ (pending ++ mark :: rest) := by simp
  rw [piecesFrom, piecesFrom, hlength, hchars, Mark.dollars]
  split
  · rename_i hmark
    have hnone : referenceAt? range ((Mark.contents (done ++ (pending ++ mark :: rest))).drop
        (done.length + pending.length + 1)) = none := by
      rw [drop_contents]
      exact referenceAt?_eq_none_iff.mpr (h hmark)
    rw [pieces, if_neg (by omega), hnone]
  · rfl

/-- Marks in which no reference begins join the text. -/
theorem piecesFrom_free {marks : List Mark} (h : Free marks rest) :
    piecesFrom range done pending (marks ++ rest) =
      piecesFrom range done (pending ++ marks) rest := by
  induction marks generalizing pending with
  | nil => rw [List.nil_append, List.append_nil]
  | cons mark marks ih =>
    have hmark : mark = .plain '$' → ¬BeginsReference (Mark.contents (marks ++ rest)) := by
      rintro rfl
      exact h [] marks rfl
    have hmarks : Free marks rest := fun before after heq =>
      h (mark :: before) after (by rw [heq]; rfl)
    rw [List.cons_append, piecesFrom_mark hmark, ih hmarks, List.append_assoc]
    rfl

/-- A reference becomes a piece, behind the text that stood before it. -/
theorem piecesFrom_reference {braced : Bool} {space : HostSpace} {name : List Char}
    {word : List Mark} (hname : IsName name)
    (hword : Mark.contents word = spelled braced space name)
    (hends : braced = false → EndsName (Mark.contents rest)) :
    piecesFrom range done pending (.plain '$' :: (word ++ rest)) =
      (textPiece (Mark.contents pending) ++ .ref (space.ref range (String.ofList name)) ::
        (piecesFrom range (done ++ (pending ++ .plain '$' :: word)) [] rest).1, true) := by
  have hreference : referenceAt? range
      ((Mark.contents (done ++ (pending ++ .plain '$' :: (word ++ rest)))).drop
        (done.length + pending.length + 1)) =
      some (space.ref range (String.ofList name), word.length + 1) := by
    rw [drop_contents]
    refine referenceAt?_eq_some_iff.mpr
      ⟨braced, space, name, Mark.contents rest, hname, ?_, hends, ?_⟩
    · rw [Mark.contents_append, hword]
    · rw [← hword, Mark.length_contents]
  have hbefore : ((Mark.contents (done ++ (pending ++ .plain '$' :: (word ++ rest)))).drop
      done.length).take (done.length + pending.length - done.length) = Mark.contents pending := by
    rw [Mark.contents_append, ← Mark.length_contents done, List.drop_left, Mark.contents_append,
      Nat.add_sub_cancel_left, ← Mark.length_contents pending, List.take_left]
  have hdollars : Mark.dollars (done.length + pending.length + 1) (word ++ rest) =
      Mark.dollars (done.length + pending.length + 1) word ++
        Mark.dollars (done.length + pending.length + (word.length + 1)) rest := by
    rw [Mark.dollars_append, Nat.add_assoc _ 1, Nat.add_comm 1]
  have hpassed : ∀ dollar ∈ Mark.dollars (done.length + pending.length + 1) word,
      dollar < done.length + pending.length + (word.length + 1) := by
    intro dollar hdollar
    have := Mark.lt_of_mem_dollars hdollar
    omega
  have hlength : done.length + pending.length + (word.length + 1) =
      (done ++ (pending ++ .plain '$' :: word)).length := by
    simp [Nat.add_assoc]
  rw [piecesFrom, Mark.dollars, if_pos rfl, pieces, if_neg (by omega), hreference]
  dsimp only
  rw [hbefore, hdollars, pieces_append hpassed, hlength]
  simp [piecesFrom]

/-- A string stands for its pieces, or for its text if no reference is among them. -/
theorem operandOf_eq {token : Token} {marks : List Mark} (h : token.Gives marks) :
    operandOf token =
      if (piecesFrom token.range [] [] marks).2 then
        .interpolated (piecesFrom token.range [] [] marks).1 token.range
      else .literal (.text token.value) token.range := by
  have hpieces : piecesFrom token.range [] [] marks =
      pieces token.range token.value.toList 0 token.dollars := by
    rw [h.value_eq, h.dollars_eq, String.toList_ofList]
    rfl
  unfold operandOf
  rw [hpieces]
  split
  · rfl
  · rename_i hplain
    have hnone : token.dollars = [] := by simpa [Token.interpolates, h.kind_eq] using hplain
    rw [hnone]
    rfl

end Pieces

end Interpolation

end Rune
