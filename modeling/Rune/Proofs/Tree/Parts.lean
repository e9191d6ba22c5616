import Rune.Proofs.Tree.References

/-!
# Rune - strings express every list of parts

Any texts and references, one behind the other, can be written as one string: the texts
with backslashes where a character would mean something else, the references with braces,
or without where the name ends by itself.  The string is read as these parts again.

Main results:

- Relation {lit}`Writes`: the ways to write parts between two quotes.
- Theorem {lit}`Source.operandOf_writes`: what is written so is read as the parts.
-/

namespace Rune

/-- A part of a string: a text, or a reference to a namespace of the host. -/
inductive Part where
  | text (value : String)
  | ref (space : HostSpace) (name : String)
  deriving DecidableEq

namespace Part

/-- Whether a part is a reference. -/
def isRef : Part → Bool
  | text _ => false
  | ref _ _ => true

/-- The characters of a text. -/
def chars : Part → List Char
  | text value => value.toList
  | ref _ _ => []

/-- The piece that a part is in a string with some range. -/
def piece (range : TextRange) : Part → Piece
  | text value => .text value
  | ref space name => .ref (space.ref range name)

/-- The operand that some parts make up: a string with pieces if a reference is among them,
and else a literal. -/
def operand (parts : List Part) (range : TextRange) : Operand :=
  if parts.any isRef then .interpolated (parts.map (piece range)) range
  else .literal (.text (String.ofList (parts.flatMap chars))) range

end Part

/-- Texts that are not empty, never one next to another, and references with names. -/
inductive AreParts : List Part → Prop
  | nil : AreParts []
  | text {value : String} {parts : List Part} (hvalue : value ≠ "")
      (hnext : ∀ next ∈ parts.head?, next.isRef = true) (hparts : AreParts parts) :
    AreParts (.text value :: parts)
  | ref {space : HostSpace} {name : String} {parts : List Part}
      (hname : Interpolation.IsName name.toList) (hparts : AreParts parts) :
    AreParts (.ref space name :: parts)

/-! ## Writing -/

/-- How a character of a text is written between two quotes. -/
def escape (quote c : Char) : List Char :=
  if c = '\\' ∨ c = '$' ∨ c = quote then ['\\', c] else if c = '\n' then ['\\', 'n'] else [c]

/-- The ways to write parts.  Without braces a name may stand only where the next part does
not go on with it. -/
inductive Writes (quote : Char) : List Part → List Char → Prop
  | nil : Writes quote [] []
  | text {parts : List Part} {body : List Char} (value : String)
      (hparts : Writes quote parts body) :
    Writes quote (.text value :: parts) (value.toList.flatMap (escape quote) ++ body)
  | ref {parts : List Part} {body : List Char} (space : HostSpace) (name : String) (braced : Bool)
      (hnext : braced = false → ∀ next ∈ parts.head?, Interpolation.EndsName next.chars)
      (hparts : Writes quote parts body) :
    Writes quote (.ref space name :: parts)
      ('$' :: (Interpolation.spelled braced space name.toList ++ body))

/-- Parts can always be written: with braces around each reference. -/
theorem Writes.exists_body (quote : Char) (parts : List Part) :
    ∃ body, Writes quote parts body := by
  induction parts with
  | nil => exact ⟨[], .nil⟩
  | cons part parts ih =>
    obtain ⟨body, hbody⟩ := ih
    cases part with
    | text value => exact ⟨_, .text value hbody⟩
    | ref space name => exact ⟨_, .ref space name true nofun hbody⟩

/-! ## What is written is marks -/

/-- The mark that a character of a text is written as. -/
def markOf (quote c : Char) : Mark :=
  if c = '\\' ∨ c = '$' ∨ c = quote then .escaped c
  else if c = '\n' then .escaped 'n' else .plain c

section Marks

variable {quote : Char}

theorem spelling_markOf (quote c : Char) : (markOf quote c).spelling = escape quote c := by
  unfold markOf escape
  split
  · rfl
  · split <;> rfl

theorem fits_markOf (quote c : Char) : (markOf quote c).Fits quote := by
  unfold markOf
  split
  · trivial
  · rename_i h
    split
    · trivial
    · rename_i hfeed
      exact ⟨fun hc => h (.inr (.inr hc)), fun hc => h (.inl hc), hfeed⟩

theorem char_markOf (hquote : quote = '"' ∨ quote = '\'') (c : Char) :
    (markOf quote c).char = c := by
  unfold markOf
  split
  · rename_i h
    rcases hquote with rfl | rfl <;> rcases h with rfl | rfl | rfl <;> rfl
  · split
    · rename_i hfeed
      exact hfeed.symm
    · rfl

theorem markOf_ne_dollar (quote c : Char) : markOf quote c ≠ .plain '$' := by
  unfold markOf
  split
  · exact nofun
  · rename_i h
    split
    · exact nofun
    · intro hc
      exact h (.inr (.inl (Mark.plain.inj hc)))

/-- A text is written with marks that give it, and no reference begins in it. -/
theorem exists_marks_text (hquote : quote = '"' ∨ quote = '\'') (chars : List Char) :
    ∃ marks, (∀ mark ∈ marks, mark.Fits quote) ∧ Mark.written marks = chars.flatMap (escape quote) ∧
      Mark.contents marks = chars ∧ ∀ rest, Interpolation.Free marks rest := by
  refine ⟨chars.map (markOf quote), ?_, ?_, ?_, ?_⟩
  · intro mark hmark
    obtain ⟨c, -, rfl⟩ := List.mem_map.mp hmark
    exact fits_markOf quote c
  · simp [Mark.written, List.flatMap_map, spelling_markOf]
  · simp [Mark.contents, Function.comp_def, char_markOf hquote]
  · intro rest before after heq
    have hdollar : Mark.plain '$' ∈ chars.map (markOf quote) := by simp [heq]
    obtain ⟨c, -, hc⟩ := List.mem_map.mp hdollar
    exact absurd hc (markOf_ne_dollar quote c)

end Marks

/-! ## What is written is read as the parts -/

open Interpolation in
/-- Marks that are gone through as some parts, whatever stands before them. -/
structure ReadsAs (parts : List Part) (marks : List Mark) : Prop where
  pieces (range : TextRange) (done pending : List Mark)
      (hpending : pending = [] ∨ ∀ next ∈ parts.head?, next.isRef = true) :
    piecesFrom range done pending marks =
      (textPiece (Mark.contents pending) ++ parts.map (Part.piece range), parts.any Part.isRef)
  contents (hparts : parts.any Part.isRef = false) : Mark.contents marks = parts.flatMap Part.chars
  endsName (hnext : ∀ next ∈ parts.head?, EndsName next.chars) : EndsName (Mark.contents marks)

namespace ReadsAs

open Interpolation

variable {parts : List Part} {marks : List Mark}

/-- Nothing is read as no parts. -/
theorem nil : ReadsAs [] [] where
  pieces range done pending _ := by simp [piecesFrom_nil]
  contents _ := rfl
  endsName _ := rfl

/-- A text before other parts, which do not begin with a text. -/
theorem text (h : ReadsAs parts marks) {value : String} {word : List Mark} (hvalue : value ≠ "")
    (hnext : ∀ next ∈ parts.head?, next.isRef = true) (hword : Mark.contents word = value.toList)
    (hfree : Free word marks) : ReadsAs (.text value :: parts) (word ++ marks) where
  pieces range done pending hpending := by
    obtain rfl : pending = [] := by
      rcases hpending with rfl | hpending
      · rfl
      · cases hpending (.text value) rfl
    have hpiece : textPiece (Mark.contents word) = [.text value] := by
      rw [textPiece, hword, if_neg (by simpa using hvalue), String.ofList_toList]
    rw [piecesFrom_free hfree, List.nil_append, h.pieces range done word (.inr hnext), hpiece]
    rfl
  contents hparts := by
    rw [Mark.contents_append, hword, h.contents (by simpa [Part.isRef] using hparts)]
    rfl
  endsName hends := by
    rw [Mark.contents_append, hword]
    have hvalue' : value.toList ≠ [] := by simpa using hvalue
    obtain ⟨c, rest, hc⟩ := List.exists_cons_of_ne_nil hvalue'
    have hfirst : EndsName value.toList := hends (.text value) rfl
    rw [hc] at hfirst ⊢
    exact hfirst

/-- A reference before other parts.  Without braces the next part does not go on with its
name. -/
theorem reference (h : ReadsAs parts marks) {braced : Bool} {space : HostSpace} {name : String}
    (hname : IsName name.toList)
    (hnext : braced = false → ∀ next ∈ parts.head?, EndsName next.chars) :
    ReadsAs (.ref space name :: parts) (referenceMarks braced space name.toList ++ marks) where
  pieces range done pending _ := by
    have hpieces := @piecesFrom_reference range done pending marks braced space name.toList _ hname
      (Mark.contents_map_plain _) fun hplain => h.endsName (hnext hplain)
    rw [h.pieces range _ [] (.inl rfl), String.ofList_toList] at hpieces
    exact hpieces
  contents hparts := by cases hparts
  endsName _ := by
    have hdollar : isNameChar '$' = false := by decide +kernel
    exact hdollar

end ReadsAs

/-- What is written is marks that are read as the parts. -/
theorem Writes.exists_marks {quote : Char} (hquote : quote = '"' ∨ quote = '\'') {parts : List Part}
    {body : List Char} (h : Writes quote parts body) (hparts : AreParts parts) :
    ∃ marks, (∀ mark ∈ marks, mark.Fits quote) ∧ body = Mark.written marks ∧
      ReadsAs parts marks := by
  induction h with
  | nil => exact ⟨[], nofun, rfl, .nil⟩
  | @text parts body value _ ih =>
    cases hparts with
    | text hvalue hnext hparts =>
      obtain ⟨marks, hfits, rfl, hreads⟩ := ih hparts
      obtain ⟨word, hfits', hwritten, hcontents, hfree⟩ := exists_marks_text hquote value.toList
      refine ⟨word ++ marks, ?_, ?_, hreads.text hvalue hnext hcontents (hfree marks)⟩
      · exact List.forall_mem_append.mpr ⟨hfits', hfits⟩
      · rw [← hwritten]
        exact List.flatMap_append.symm
  | @ref parts body space name braced hnext _ ih =>
    cases hparts with
    | ref hname hparts =>
      obtain ⟨marks, hfits, rfl, hreads⟩ := ih hparts
      have hharmless : ∀ c ∈ name.toList, Mark.isHarmless c = true := fun c hc =>
        Interpolation.isHarmless_of_isNameChar (hname.chars c hc)
      refine ⟨Interpolation.referenceMarks braced space name.toList ++ marks, ?_, ?_,
        hreads.reference hname hnext⟩
      · exact List.forall_mem_append.mpr
          ⟨Interpolation.fits_referenceMarks hquote hharmless, hfits⟩
      · rw [Mark.written_append, Interpolation.written_referenceMarks]
        rfl

/-- Strings express every list of parts.  Parts can be written between two quotes of either
kind; and however they are written, the text is one token, a string, which stands for
exactly these parts in their order, or for the text if no reference is among them. -/
theorem Source.operandOf_writes {quote : Char} (hquote : quote = '"' ∨ quote = '\'')
    {parts : List Part} (hparts : AreParts parts) (path : Option String) :
    (∃ body, Writes quote parts body) ∧ ∀ body, Writes quote parts body → ∃ token finish,
      (ofText (String.ofList (quote :: (body ++ [quote]))) path).tokens = .ok [token, finish] ∧
        token.kind = .string ∧ token.text = String.ofList (quote :: (body ++ [quote])) ∧
          finish.kind = .eof ∧
            Interpolation.operandOf token = Part.operand parts token.range := by
  refine ⟨Writes.exists_body quote parts, fun body hbody => ?_⟩
  obtain ⟨marks, hfits, rfl, hreads⟩ := hbody.exists_marks hquote hparts
  obtain ⟨token, finish, htokens, hfinish, hwritten, hgives⟩ := tokens_written hquote hfits path
  refine ⟨token, finish, htokens, hgives.kind_eq, hwritten.text_eq, hfinish, ?_⟩
  have hpieces := hreads.pieces token.range [] [] (.inl rfl)
  rw [Interpolation.operandOf_eq hgives, hpieces, Part.operand]
  cases hrefs : parts.any Part.isRef with
  | true => rfl
  | false =>
    rw [hgives.value_eq, hreads.contents hrefs]
    rfl

/-- A text with a quote and a dollar sign, a reference with braces, and one without before
a text that does not go on with its name, all in single quotes. -/
theorem Source.operandOf_writes_price : ∃ token finish,
    (ofText "'it\\'s \\$5$\x7benv.CUR\x7d$sys.hostname-\\n'").tokens = .ok [token, finish] ∧
      Interpolation.operandOf token = .interpolated
        [.text "it's $5", .ref (.env "CUR" token.range), .ref (.sys "hostname" token.range),
          .text "-\n"] token.range := by
  have hvariable : Interpolation.IsName "CUR".toList := by decide +kernel
  have hfact : Interpolation.IsName "hostname".toList := by decide +kernel
  have hparts : AreParts [.text "it's $5", .ref .env "CUR", .ref .sys "hostname", .text "-\n"] :=
    .text (by decide) (by decide) (.ref hvariable (.ref hfact (.text (by decide) (by decide) .nil)))
  have hends : ∀ next ∈ [Part.text "-\n"].head?, Interpolation.EndsName next.chars := by
    intro next hnext
    obtain rfl : Part.text "-\n" = next := Option.some.inj hnext
    have hminus : Interpolation.isNameChar '-' = false := by decide +kernel
    exact hminus
  have hbody :
      Writes '\'' [.text "it's $5", .ref .env "CUR", .ref .sys "hostname", .text "-\n"] _ :=
    .text "it's $5" (.ref .env "CUR" true nofun
      (.ref .sys "hostname" false (fun _ => hends) (.text "-\n" .nil)))
  obtain ⟨token, finish, htokens, -, -, -, hoperand⟩ :=
    (operandOf_writes (.inr rfl) hparts none).2 _ hbody
  exact ⟨token, finish, htokens, hoperand⟩

end Rune
