import Rune.Proofs.Tree.References

/-!
# Rune - the references of a string and how they are written

A string is divided into texts and references.  Each reference begins with a dollar sign
that stands for itself; but the other characters of a reference are taken from the contents
of the string, where it no longer shows which of them were written with a backslash.

Main results:

- Relation {lit}`Divides` divides marks from left to right, each reference as long as it
  can be.
- Theorem {lit}`Divides.covers`: every spelling of a reference lies in a reference.
- Theorem {lit}`Source.references_unescaped_iff`: when the references of a string are written
  without backslashes.
-/

namespace Rune

open Interpolation

/-- A stretch of a string: a text, or a reference with the marks that it is written with. -/
inductive Segment where
  | text (marks : List Mark)
  | ref (space : HostSpace) (name : String) (word : List Mark)

namespace Segment

/-- The marks of a stretch. -/
def marks : Segment → List Mark
  | text marks => marks
  | ref _ _ word => word

/-- Whether a stretch is a reference. -/
def isRef : Segment → Bool
  | text _ => false
  | ref _ _ _ => true

/-- The piece that a stretch is in a string with some range. -/
def piece (range : TextRange) : Segment → Piece
  | text marks => .text (String.ofList (Mark.contents marks))
  | ref space name _ => .ref (space.ref range name)

/-- The operand that some stretches make up: a string with pieces if a reference is among
them, and else a literal. -/
def operand (segments : List Segment) (range : TextRange) : Operand :=
  if segments.any isRef then .interpolated (segments.map (piece range)) range
  else .literal (.text (String.ofList (Mark.contents (segments.flatMap marks)))) range

/-- A text, unless it is empty. -/
def ofText (marks : List Mark) : List Segment := if marks = [] then [] else [.text marks]

end Segment

/-- Marks spell a reference, from a dollar sign on that stands for itself. -/
def Spells (word : List Mark) (space : HostSpace) (name : String) : Prop :=
  ∃ braced inner, word = .plain '$' :: inner ∧ IsName name.toList ∧
    Mark.contents inner = spelled braced space name.toList

/-- No mark is written with a backslash. -/
def Unescaped (word : List Mark) : Prop := ∀ mark ∈ word, mark.isEscaped = false

/-! ## Dividing from left to right -/

/-- Marks are divided at the first reference, which is as long as it can be, and so on behind
it. -/
inductive Divides : List Mark → List Segment → Prop
  | finish {text : List Mark} (hfree : Free text []) : Divides text (Segment.ofText text)
  | reference {text inner rest : List Mark} {segments : List Segment} {braced : Bool}
      {space : HostSpace} {name : String} (hfree : Free text (.plain '$' :: (inner ++ rest)))
      (hname : IsName name.toList) (hinner : Mark.contents inner = spelled braced space name.toList)
      (hends : braced = false → EndsName (Mark.contents rest)) (hrest : Divides rest segments) :
    Divides (text ++ .plain '$' :: (inner ++ rest))
      (Segment.ofText text ++ .ref space name (.plain '$' :: inner) :: segments)

section Dividing

variable {marks : List Mark} {segments : List Segment} {space : HostSpace} {name : String}
  {word : List Mark}

theorem Segment.flatMap_ofText (text : List Mark) :
    (Segment.ofText text).flatMap Segment.marks = text := by
  unfold Segment.ofText
  split
  · rename_i h
    exact h.symm
  · exact List.append_nil text

theorem Segment.not_mem_ofText (text : List Mark) : .ref space name word ∉ Segment.ofText text := by
  unfold Segment.ofText
  split <;> simp

/-- The stretches are the marks. -/
theorem Divides.marks_eq (h : Divides marks segments) : segments.flatMap Segment.marks = marks := by
  induction h with
  | finish => exact Segment.flatMap_ofText _
  | reference _ _ _ _ _ ih =>
    rw [List.flatMap_append, List.flatMap_cons, Segment.flatMap_ofText, ih]
    rfl

/-- Every reference among the stretches is spelled by its marks. -/
theorem Divides.spells (h : Divides marks segments) (hmem : .ref space name word ∈ segments) :
    Spells word space name := by
  induction h with
  | finish => exact absurd hmem (Segment.not_mem_ofText _)
  | @reference _ inner _ _ braced _ _ _ hname hinner _ _ ih =>
    rcases List.mem_append.mp hmem with hmem | hmem
    · exact absurd hmem (Segment.not_mem_ofText _)
    rcases List.mem_cons.mp hmem with heq | hmem
    · obtain ⟨rfl, rfl, rfl⟩ := Segment.ref.inj heq
      exact ⟨braced, inner, rfl, hname, hinner⟩
    · exact ih hmem

/-- A piece of text is there for every stretch of text. -/
theorem Segment.map_ofText (range : TextRange) (text : List Mark) :
    (Segment.ofText text).map (Segment.piece range) = textPiece (Mark.contents text) := by
  cases text <;> rfl

theorem Segment.any_isRef_ofText (text : List Mark) :
    (Segment.ofText text).any Segment.isRef = false := by
  cases text <;> rfl

/-- A text without references goes on with a mark at which none begins. -/
theorem Interpolation.Free.concat {text rest : List Mark} {mark : Mark}
    (h : Free text (mark :: rest))
    (hmark : mark = .plain '$' → ¬BeginsReference (Mark.contents rest)) :
    Free (text ++ [mark]) rest := by
  intro before after heq
  rcases List.eq_nil_or_concat after with rfl | ⟨after, last, rfl⟩
  · obtain ⟨-, hlast⟩ := List.append_inj' heq rfl
    exact hmark (List.singleton_inj.mp hlast)
  · have hconcat : text ++ [mark] = before ++ .plain '$' :: after ++ [last] := by
      rw [heq]
      simp
    obtain ⟨htext, hlast⟩ := List.append_inj' hconcat rfl
    obtain rfl := List.singleton_inj.mp hlast
    have hfree := h before after htext
    rwa [List.concat_eq_append, List.append_assoc]

/-- Where a reference begins, marks spell one that is as long as it can be. -/
theorem exists_inner {rest : List Mark} (h : BeginsReference (Mark.contents rest)) :
    ∃ (braced : Bool) (space : HostSpace) (name : String) (inner rest' : List Mark),
      rest = inner ++ rest' ∧ IsName name.toList ∧
        Mark.contents inner = spelled braced space name.toList ∧
          (braced = false → EndsName (Mark.contents rest')) := by
  cases hfound : referenceAt? (TextRange.empty 0) (Mark.contents rest) with
  | none => exact absurd h (referenceAt?_eq_none_iff.mp hfound)
  | some found =>
    obtain ⟨braced, space, name, after, hname, hchars, hends, -⟩ :=
      referenceAt?_eq_some_iff.mp hfound
    obtain ⟨inner, rest', rfl, hinner, hrest⟩ := List.map_eq_append_iff.mp hchars
    refine ⟨braced, space, String.ofList name, inner, rest', rfl, ?_, ?_, ?_⟩
    · rwa [String.toList_ofList]
    · rwa [String.toList_ofList]
    · rwa [Mark.contents, hrest]

/-- Going through a string divides it.  The induction is on how much lies ahead; the text
since the last reference is what has been passed without one. -/
theorem exists_divides {pending rest : List Mark} (hfree : Free pending rest) :
    ∃ segments, Divides (pending ++ rest) segments ∧ ∀ range done,
      piecesFrom range done pending rest =
        (segments.map (Segment.piece range), segments.any Segment.isRef) := by
  induction hn : rest.length using Nat.strongRecOn generalizing pending rest with
  | ind n ih =>
    cases rest with
    | nil =>
      refine ⟨Segment.ofText pending, ?_, fun range done => ?_⟩
      · rw [List.append_nil]
        exact .finish hfree
      · rw [piecesFrom_nil, Segment.map_ofText, Segment.any_isRef_ofText]
    | cons mark rest =>
      by_cases hmark : mark = .plain '$' → ¬BeginsReference (Mark.contents rest)
      · obtain ⟨segments, hdivides, hpieces⟩ :=
          ih rest.length (by simp [← hn]) (hfree.concat hmark) rfl
        rw [List.append_assoc] at hdivides
        refine ⟨segments, hdivides, fun range done => ?_⟩
        rw [piecesFrom_mark hmark, hpieces]
      · obtain ⟨rfl, hbegins⟩ := Classical.not_imp.mp hmark
        obtain ⟨braced, space, name, inner, rest, rfl, hname, hinner, hends⟩ :=
          exists_inner (not_not.mp hbegins)
        obtain ⟨segments, hdivides, hpieces⟩ := @ih rest.length (by
          rw [← hn, List.length_cons, List.length_append]
          omega) [] rest (fun before after h => by simp at h) rfl
        refine ⟨_, .reference hfree hname hinner hends hdivides, fun range done => ?_⟩
        rw [piecesFrom_reference hname hinner hends, hpieces, String.ofList_toList, List.map_append,
          Segment.map_ofText, List.any_append, Segment.any_isRef_ofText]
        rfl

/-! ## Spellings lie in references -/

/-- No dollar sign stands in a reference behind the first one. -/
theorem dollar_not_mem_inner {inner : List Mark} {braced : Bool} (hname : IsName name.toList)
    (hinner : Mark.contents inner = spelled braced space name.toList) : .plain '$' ∉ inner := by
  have hname' : '$' ∉ name.toList := fun hmem =>
    absurd (hname.chars '$' hmem) (by decide +kernel)
  intro hmem
  have hdollar : '$' ∈ Mark.contents inner := List.mem_map_of_mem hmem
  rw [hinner] at hdollar
  exact dollar_not_mem_spelled hname' braced space hdollar

/-- A spelling does not begin where no reference begins. -/
theorem Interpolation.Free.starts_behind {text rest before behind : List Mark} (h : Free text rest)
    (hsplit : text ++ rest = before ++ (word ++ behind)) (hword : Spells word space name) :
    ∃ before', before = text ++ before' ∧ rest = before' ++ (word ++ behind) := by
  rcases List.append_eq_append_iff.mp hsplit with ⟨before', hbefore, hrest⟩ | ⟨left, htext, hleft⟩
  · exact ⟨before', hbefore, hrest⟩
  obtain ⟨braced, inner, rfl, hname, hinner⟩ := hword
  cases left with
  | nil =>
    refine ⟨[], ?_, hleft.symm⟩
    rw [htext, List.append_nil, List.append_nil]
  | cons mark left =>
    obtain ⟨rfl, htail⟩ := List.cons.inj hleft
    have hbehind : inner ++ behind = left ++ rest := htail
    refine absurd ⟨braced, space, name.toList, Mark.contents behind, hname, ?_⟩
      (h before left htext)
    rw [← hbehind, Mark.contents_append, hinner]

/-- Of two spellings at one place the longer one is a reference. -/
theorem inner_isPrefix {inner inner' rest behind : List Mark} {braced braced' : Bool}
    {space' : HostSpace} {name' : String} (heq : inner' ++ behind = inner ++ rest)
    (hname : IsName name.toList) (hinner : Mark.contents inner = spelled braced space name.toList)
    (hends : braced = false → EndsName (Mark.contents rest)) (hname' : IsName name'.toList)
    (hinner' : Mark.contents inner' = spelled braced' space' name'.toList) : inner' <+: inner := by
  have hfound : referenceAt? (TextRange.empty 0) (Mark.contents (inner ++ rest)) =
      some (space.ref (TextRange.empty 0) name, inner.length + 1) := by
    refine referenceAt?_eq_some_iff.mpr
      ⟨braced, space, name.toList, Mark.contents rest, hname, ?_, hends, ?_⟩
    · rw [Mark.contents_append, hinner]
    · rw [String.ofList_toList, ← hinner, Mark.length_contents]
  obtain ⟨found, hfound', hlength⟩ :=
    @exists_reference name'.toList braced' space' (TextRange.empty 0) hname' (Mark.contents behind)
  rw [← hinner', ← Mark.contents_append, heq, hfound] at hfound'
  cases hfound'
  rw [← hinner', Mark.length_contents] at hlength
  have hwithin : inner' <+: inner ++ rest := ⟨behind, heq⟩
  exact List.prefix_of_prefix_length_le hwithin (List.prefix_append inner rest)
    (Nat.le_of_succ_le_succ hlength)

/-- Every spelling of a reference lies in a reference. -/
theorem Divides.covers (h : Divides marks segments) {before behind : List Mark}
    (hmarks : marks = before ++ (word ++ behind)) (hword : Spells word space name) :
    ∃ space' name' word', .ref space' name' word' ∈ segments ∧ word <+: word' := by
  induction h generalizing before with
  | @finish text hfree =>
    rw [← List.append_nil text] at hmarks
    obtain ⟨before', -, hrest⟩ := hfree.starts_behind hmarks hword
    obtain ⟨_, _, rfl, -⟩ := hword
    simp at hrest
  | @reference text inner rest segments braced space' name' hfree hname hinner hends _ ih =>
    obtain ⟨before', -, hrest⟩ := hfree.starts_behind hmarks hword
    cases before' with
    | nil =>
      -- Both begin at one dollar sign.
      obtain ⟨braced', inner', rfl, hname', hinner'⟩ := hword
      have hsame : inner' ++ behind = inner ++ rest := (List.cons.inj hrest).2.symm
      have hwithin : inner' <+: inner :=
        inner_isPrefix hsame hname hinner hends hname' hinner'
      refine ⟨space', name', .plain '$' :: inner, ?_, (List.prefix_cons_inj _).mpr hwithin⟩
      exact List.mem_append_right _ List.mem_cons_self
    | cons mark before' =>
      -- The spelling begins behind the reference, which holds no other dollar sign.
      have hinside : Free inner rest := fun before after heq =>
        absurd (heq ▸ List.mem_append_right before List.mem_cons_self)
          (dollar_not_mem_inner hname hinner)
      obtain ⟨before'', -, hbehind⟩ := hinside.starts_behind (List.cons.inj hrest).2 hword
      obtain ⟨space'', name'', word', hmem, hwithin⟩ := ih hbehind
      refine ⟨space'', name'', word', ?_, hwithin⟩
      exact List.mem_append_right _ (List.mem_cons_of_mem _ hmem)

end Dividing

/-! ## Strings of a text -/

/-- A string is written with some marks, and stands for some stretches of them. -/
structure Token.DividedInto (token : Token) (quote : Char) (marks : List Mark)
    (segments : List Segment) : Prop where
  written : token.WrittenAs quote marks
  marks_eq : segments.flatMap Segment.marks = marks
  spells : ∀ space name word, .ref space name word ∈ segments → Spells word space name
  operand_eq : operandOf token = Segment.operand segments token.range

/-- The references of a string of any text begin with dollar signs that stand for themselves.
They are written without any backslash exactly if whatever spells a reference in the string,
from such a dollar sign on, is. -/
theorem Source.references_unescaped_iff {source : Source} {tokens : List Token} {token : Token}
    (h : source.tokens = .ok tokens) (hmem : token ∈ tokens) (hkind : token.kind = .string) :
    ∃ quote marks segments, token.DividedInto quote marks segments ∧
      ((∀ space name word, .ref space name word ∈ segments → Unescaped word) ↔
        ∀ before word behind space name, marks = before ++ (word ++ behind) →
          Spells word space name → Unescaped word) := by
  obtain ⟨quote, marks, hwritten, hgives⟩ := writtenAs_of_tokens h hmem hkind
  have hfree : Free [] marks := fun before after heq => by simp at heq
  obtain ⟨segments, hdivides, hpieces⟩ := exists_divides hfree
  rw [List.nil_append] at hdivides
  refine ⟨quote, marks, segments, ⟨hwritten, hdivides.marks_eq, fun _ _ _ => hdivides.spells, ?_⟩,
    ?_, ?_⟩
  · rw [operandOf_eq hgives, hpieces, hgives.value_eq, Segment.operand, hdivides.marks_eq]
  · intro hclean before word behind space name hmarks hword mark hmark
    obtain ⟨space', name', word', hmem, hwithin⟩ := hdivides.covers hmarks hword
    exact hclean space' name' word' hmem mark (hwithin.subset hmark)
  · intro hclean space name word hmem
    obtain ⟨before, behind, rfl⟩ := List.append_of_mem hmem
    refine hclean (before.flatMap Segment.marks) word (behind.flatMap Segment.marks) space name ?_
      (hdivides.spells hmem)
    rw [← hdivides.marks_eq, List.flatMap_append, List.flatMap_cons]
    rfl

/-- In a string with an escaped dollar sign and a reference. -/
theorem Source.references_unescaped_iff_price : ∃ tokens token,
    (ofText "\"\\$5 $env.CUR\"").tokens = .ok tokens ∧ token ∈ tokens ∧ token.kind = .string ∧
      ∃ quote marks segments, token.DividedInto quote marks segments ∧
        ((∀ space name word, .ref space name word ∈ segments → Unescaped word) ↔
          ∀ before word behind space name, marks = before ++ (word ++ behind) →
            Spells word space name → Unescaped word) := by
  have hfits : ∀ mark ∈ .escaped '$' :: "5 $env.CUR".toList.map Mark.plain, mark.Fits '"' := by
    simp [Mark.Fits]
  obtain ⟨token, finish, htokens, -, -, hgives⟩ := tokens_written (.inl rfl) hfits none
  exact ⟨[token, finish], token, htokens, List.mem_cons_self, hgives.kind_eq,
    references_unescaped_iff htokens List.mem_cons_self hgives.kind_eq⟩

/-- The brace that opens a reference is taken for one although it is written with a
backslash. -/
theorem Source.references_escapedBrace : ∃ token finish marks,
    (ofText "\"$\\\x7benv.A\x7d\"").tokens = .ok [token, finish] ∧
      token.DividedInto '"' marks [.ref .env "A" marks] ∧ .escaped openBrace ∈ marks := by
  have hfits : ∀ mark ∈ .plain '$' :: .escaped openBrace :: "env.A\x7d".toList.map Mark.plain,
      mark.Fits '"' := by
    simp [Mark.Fits]
  have hname : IsName "A".toList := by decide +kernel
  have hinner : Mark.contents (.escaped openBrace :: "env.A\x7d".toList.map Mark.plain) =
      spelled true .env "A".toList := rfl
  obtain ⟨token, finish, htokens, -, hwritten, hgives⟩ := tokens_written (.inl rfl) hfits none
  have hpieces :=
    @piecesFrom_reference token.range [] [] [] true .env "A".toList _ hname hinner nofun
  rw [List.append_nil, piecesFrom_nil] at hpieces
  refine ⟨token, finish, _, htokens, ⟨hwritten, rfl, ?_, ?_⟩, by simp⟩
  · intro space name word hmem
    obtain ⟨rfl, rfl, rfl⟩ := Segment.ref.inj (List.mem_singleton.mp hmem)
    exact ⟨true, _, rfl, hname, hinner⟩
  · rw [operandOf_eq hgives, hpieces]
    rfl

end Rune
