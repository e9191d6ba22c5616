import Rune.Proofs.Token.Phrases
import Rune.Proofs.Tree.Acceptance
import Rune.Proofs.Tree.References

/-!
# Rune - two ways to bind a fact of the host

A name of the host can be bound by a reference, or by a string that is nothing but the
reference between braces.  The first is read as a reference whatever the name.  The second
is one only if no hyphen stands in the name, for names in strings have none.

Main results:

- Theorem {lit}`Source.parse_plainBinding`: what the first binding is read as.
- Theorem {lit}`Source.parse_stringBinding`: what the second one is read as.
-/

namespace Rune

namespace HostSpace

/-- The name of a namespace. -/
def chars : HostSpace → List Char
  | env => "env".toList
  | sys => "sys".toList

/-- The kind of the marker of a namespace. -/
def kind : HostSpace → TokenKind
  | env => .env
  | sys => .sys

/-- The text of a binding of `x` to a reference. -/
def plainBinding (space : HostSpace) (name : String) : String :=
  "x $" ++ String.ofList space.dotted ++ name

/-- A reference between braces. -/
def braced (space : HostSpace) (name : String) : String :=
  "$" ++ String.ofList (Interpolation.spelled true space name.toList)

/-- The text of a binding of `x` to a string that is nothing but a reference. -/
def stringBinding (space : HostSpace) (name : String) : String :=
  "x \"" ++ space.braced name ++ "\""

/-- What the string of a reference is read as. -/
def inString (space : HostSpace) (name : String) (range : TextRange) : Operand :=
  if '-' ∈ name.toList then .literal (.text (space.braced name)) range
  else .interpolated [.ref (space.ref range name)] range

end HostSpace

/-! ## Scanning -/

section Scanning

variable {behind : List Char}

/-- A dollar sign is read with the namespace behind it. -/
theorem scan_namespace (space : HostSpace) (hends : behind.head?.any namesNamespace = false) :
    scan '$' (space.chars ++ behind) = ⟨.ok (.plain space.kind), space.chars.length⟩ := by
  have hplain : IsPlain '$' := ⟨by decide, by decide, by decide +kernel, by decide⟩
  have hword : startsWord '$' = false := by decide +kernel
  have hchars : ∀ c ∈ space.chars, namesNamespace c = true :=
    List.all_eq_true.mp (by cases space <;> decide +kernel)
  have hkind : TokenKind.ofNamespace? (String.ofList space.chars) = some space.kind := by
    cases space <;> rfl
  rw [(Begins.dollar (by rintro ⟨⟩) hplain hword rfl).scan_eq, scanNamespace,
    takeWhile_append_of_stop hchars hends]
  simp [hkind]

/-- A dot is a token. -/
theorem scan_dot (behind : List Char) : scan '.' behind = ⟨.ok (.plain .dot), 0⟩ := by
  have hplain : IsPlain '.' := ⟨by decide, by decide, by decide +kernel, by decide⟩
  have hword : startsWord '.' = false := by decide +kernel
  exact (Begins.punctuation (by rintro ⟨⟩) hplain hword (by decide) rfl).scan_eq

/-- The key `x` is a name. -/
theorem spellsIdentifier_key : SpellsIdentifier 'x' [] where
  plain := ⟨by decide, by decide, by decide +kernel, by decide⟩
  starts := by decide +kernel
  continues := nofun
  unreserved := by decide

end Scanning

/-! ## Names in strings -/

section Names

open Interpolation

variable {name : String} {first : Char} {more : List Char}

/-- No blank begins a word. -/
theorem not_isBlank_of_startsWord {c : Char} (h : startsWord c = true) :
    Trivia.isBlank c = false := by
  have hne (d : Char) (hd : startsWord d = false) : c ≠ d := by
    rintro rfl
    exact Bool.false_ne_true (hd.symm.trans h)
  have hfeed := hne '\n' (by decide +kernel)
  have hhash := hne '#' (by decide +kernel)
  have hspace := hne ' ' (by decide +kernel)
  have htab := hne '\t' (by decide +kernel)
  have hreturn := hne '\r' (by decide +kernel)
  simp [Trivia.isBlank, hfeed, hhash, hspace, htab, hreturn]

/-- A name is made of the characters that names in strings are made of, and of hyphens. -/
theorem SpellsIdentifier.isNameChar_or (h : SpellsIdentifier first more) :
    ∀ c ∈ first :: more, isNameChar c = true ∨ c = '-' := by
  rw [List.forall_mem_cons]
  constructor
  · have hfirst := h.starts
    simp only [startsWord, Bool.or_eq_true, decide_eq_true_eq] at hfirst
    rcases hfirst with halpha | rfl
    · exact .inl (by simp [isNameChar, Unicode.isAlnum_of_isAlpha halpha])
    · exact .inl (by simp [isNameChar])
  · intro c hc
    have hmore := h.continues c hc
    simpa [continuesWord, isNameChar] using hmore

/-- So it may stand in a string by itself. -/
theorem SpellsIdentifier.isHarmless (h : SpellsIdentifier first more) :
    ∀ c ∈ first :: more, Mark.isHarmless c = true := by
  intro c hc
  rcases h.isNameChar_or c hc with hchar | rfl
  · exact isHarmless_of_isNameChar hchar
  · decide

/-- Between braces a name with a hyphen is no reference. -/
theorem not_beginsReference_of_hyphen (h : SpellsIdentifier first more)
    (hhyphen : '-' ∈ first :: more) (space : HostSpace) :
    ¬BeginsReference (spelled true space (first :: more)) := by
  rintro ⟨braced, space', name', after, hname', heq⟩
  have hbrace : ∀ name : List Char, (∀ c ∈ name, isNameChar c = true ∨ c = '-') →
      ∀ c ∈ name, (c ≠ closeBrace : Bool) = true := by
    have hclose : isNameChar closeBrace = false := by decide +kernel
    intro name hname c hc
    rcases hname c hc with hchar | rfl
    · rw [decide_eq_true_eq]
      rintro rfl
      exact absurd (hclose.symm.trans hchar) nofun
    · rfl
  have hstop : ∀ rest, (closeBrace :: rest).head?.any (fun c => (c ≠ closeBrace : Bool)) = false :=
    fun _ => rfl
  cases braced with
  | false => cases space' <;> exact absurd (List.cons.inj heq).1 (by decide)
  | true =>
    have hinner : space.dotted ++ (first :: more ++ closeBrace :: []) =
        space'.dotted ++ (name' ++ closeBrace :: after) := by
      simpa [spelled] using heq
    obtain rfl := dotted_injective hinner
    have hsame := congrArg (List.takeWhile fun c => (c ≠ closeBrace : Bool))
      (List.append_cancel_left hinner)
    rw [takeWhile_append_of_stop (hbrace _ h.isNameChar_or) (hstop _),
      takeWhile_append_of_stop (hbrace _ fun c hc => .inl (hname'.chars c hc)) (hstop _)] at hsame
    have hchar := hname'.chars '-' (hsame ▸ hhyphen)
    exact absurd hchar (by decide +kernel)

/-- The string of a reference is read as a reference, unless a hyphen stands in the name. -/
theorem operandOf_reference (h : SpellsIdentifier first more) (hname : name.toList = first :: more)
    {space : HostSpace} {token : Token}
    (hgives : token.Gives (referenceMarks true space name.toList)) :
    operandOf token = space.inString name token.range := by
  unfold HostSpace.inString
  split
  · rename_i hhyphen
    have hdollar : '$' ∉ name.toList := by
      intro hmem
      rcases h.isNameChar_or '$' (hname ▸ hmem) with hchar | hchar
      · exact absurd hchar (by decide +kernel)
      · exact absurd hchar (by decide)
    have hfree : Free (referenceMarks true space name.toList) [] := by
      intro before after heq
      cases before with
      | nil =>
        obtain ⟨-, rfl⟩ := List.cons.inj heq
        rw [List.append_nil, Mark.contents_map_plain, hname]
        exact not_beginsReference_of_hyphen h (hname ▸ hhyphen) space
      | cons mark before =>
        -- The only dollar sign is the first one.
        have hmem : Mark.plain '$' ∈ (spelled true space name.toList).map Mark.plain := by
          rw [(List.cons.inj heq).2]
          exact List.mem_append_right before List.mem_cons_self
        obtain ⟨c, hc, hplain⟩ := List.mem_map.mp hmem
        obtain rfl := Mark.plain.inj hplain
        exact absurd hc (dollar_not_mem_spelled hdollar true space)
    have hpieces := @piecesFrom_free token.range [] [] [] _ hfree
    rw [piecesFrom_nil, List.append_nil] at hpieces
    rw [operandOf_eq hgives, hpieces, hgives.value_eq]
    have htext : String.ofList (Mark.contents (referenceMarks true space name.toList)) =
        space.braced name := by
      simp [referenceMarks, HostSpace.braced, Mark.char]
    rw [htext]
    rfl
  · rename_i hhyphen
    have hname' : IsName name.toList := by
      refine ⟨by simp [hname], fun c hc => ?_⟩
      rcases h.isNameChar_or c (hname ▸ hc) with hchar | rfl
      · exact hchar
      · exact absurd hc hhyphen
    have hpieces := @piecesFrom_reference token.range [] [] [] true space name.toList _ hname'
      (Mark.contents_map_plain _) (fun hplain => Bool.noConfusion hplain)
    rw [List.append_nil, piecesFrom_nil, String.ofList_toList] at hpieces
    rw [operandOf_eq hgives, referenceMarks, hpieces]
    rfl

/-! ## Reading the two bindings -/

/-- What the binding to a reference is read as, token by token. -/
theorem phrase_plainBinding (h : SpellsIdentifier first more) (hname : name.toList = first :: more)
    (space : HostSpace) :
    Phrase (space.plainBinding name).toList
      [(.plain .identifier, "x"), (.plain space.kind, String.ofList ('$' :: space.chars)),
        (.plain .dot, "."), (.plain .identifier, name)] := by
  have hfirst : Phrase name.toList [(.plain .identifier, name)] := by
    have hscan : scan first (more ++ []) = ⟨.ok (.plain .identifier), more.length⟩ :=
      h.scan_eq rfl (by simp)
    have hphrase := Phrase.adjacent (not_isBlank_of_startsWord h.starts) hscan .nil
      (by rw [List.append_nil, ← hname])
    rwa [← hname, String.ofList_toList] at hphrase
  have hdot : Phrase ('.' :: name.toList) [(.plain .dot, "."), (.plain .identifier, name)] :=
    @Phrase.adjacent _ [] _ _ _ _ rfl (scan_dot name.toList) hfirst rfl
  have hmarker : scan '$' (space.chars ++ '.' :: name.toList) =
      ⟨.ok (.plain space.kind), space.chars.length⟩ := by
    have hends : namesNamespace '.' = false := by decide +kernel
    exact scan_namespace space hends
  have hkey : scan 'x' (' ' :: '$' :: (space.chars ++ '.' :: name.toList)) =
      ⟨.ok (.plain .identifier), 0⟩ := by
    have hends : continuesWord ' ' = false := by decide +kernel
    exact spellsIdentifier_key.scan_eq hends (by simp)
  have htext : (space.plainBinding name).toList =
      'x' :: ' ' :: '$' :: (space.chars ++ '.' :: name.toList) := by
    cases space <;> simp [HostSpace.plainBinding, HostSpace.dotted, HostSpace.chars]
  rw [htext]
  exact @Phrase.adjacent _ [] _ _ _ _ rfl hkey (Phrase.spaced rfl hmarker hdot rfl) rfl

/-- What the binding to a string is read as, token by token. -/
theorem phrase_stringBinding (h : SpellsIdentifier first more) (hname : name.toList = first :: more)
    (space : HostSpace) :
    Phrase (space.stringBinding name).toList
      [(.plain .identifier, "x"),
        (Mark.lexeme (referenceMarks true space name.toList), String.ofList
          ('"' :: (Mark.written (referenceMarks true space name.toList) ++ ['"'])))] := by
  have hfits : ∀ mark ∈ referenceMarks true space name.toList, mark.Fits '"' :=
    fits_referenceMarks (.inl rfl) (hname ▸ h.isHarmless)
  generalize hmarks : referenceMarks true space name.toList = marks at hfits
  have hstring : scan '"' (Mark.written marks ++ ['"'] ++ []) =
      ⟨.ok (Mark.lexeme marks), (Mark.written marks ++ ['"']).length⟩ := by
    rw [List.append_nil, scan_written (.inl rfl) hfits, List.length_append]
    rfl
  have hkey : scan 'x' (' ' :: '"' :: (Mark.written marks ++ ['"'] ++ [])) =
      ⟨.ok (.plain .identifier), 0⟩ := by
    have hends : continuesWord ' ' = false := by decide +kernel
    exact spellsIdentifier_key.scan_eq hends (by simp)
  have htext : (space.stringBinding name).toList =
      'x' :: ' ' :: '"' :: (Mark.written marks ++ ['"'] ++ []) := by
    rw [← hmarks, written_referenceMarks]
    simp [HostSpace.stringBinding, HostSpace.braced]
  rw [htext]
  exact @Phrase.adjacent _ [] _ _ _ _ rfl hkey (Phrase.spaced rfl hstring .nil rfl) rfl

end Names

namespace Source

variable {name : String}

/-- A text of a binding of `x` and nothing else is read as this binding. -/
theorem parse_binding {text : String} {path : Option String} {key first finish : Token}
    {others : List Token} {operand : Operand}
    (htokens : (ofText text path).tokens = .ok (key :: first :: others ++ [finish]))
    (hfinish : finish.kind = .eof) (hkey : key.Reads (.plain .identifier, "x"))
    (hline : first.lineBreakBefore = false)
    (hoperand : Sentence.IsOperand (first :: others) operand)
    (hplain : ∀ token ∈ first :: others, token.kind.isPlain = true) :
    ∃ range, (ofText text path).parse = .ok [.global "x" (.operand operand) range] := by
  have hkind : key.kind = .identifier := hkey.kind_eq
  have hreadable : ∀ token ∈ key :: first :: others ++ [finish], token.Readable := by
    intro token hmem
    rcases List.mem_append.mp hmem with hmem | hmem
    · rcases List.mem_cons.mp hmem with rfl | hmem
      · exact Token.readable_of_isPlain (by rw [hkind]; rfl)
      · exact Token.readable_of_isPlain (hplain token hmem)
    · rw [List.mem_singleton.mp hmem]
      exact ⟨.text finish.value, by simp [Grammar.scalarOf, hfinish]⟩
  have hbinding : Sentence.IsBinding (key :: first :: others) _ :=
    .plain hkind hline (.operand hoperand)
  have hstatements : Sentence.AreStatements (key :: first :: others ++ []) _ :=
    .cons (.global hbinding) .nil
  rw [List.append_nil] at hstatements
  have hparse := Sentence.IsDocument.parse_eq_ok ⟨_, finish, rfl, hfinish, hstatements⟩ htokens
    hreadable
  rw [hkey.text_eq] at hparse
  exact ⟨_, hparse⟩

/-- A binding to a reference is read as such. -/
theorem parse_plainBinding (h : IsIdentifier name) (space : HostSpace) (path : Option String) :
    ∃ range range', (ofText (space.plainBinding name) path).parse =
      .ok [.global "x" (.operand (.host (space.ref range name))) range'] := by
  obtain ⟨first, more, hname, hspells⟩ := h.exists_spells
  obtain ⟨word, finish, htokens, hfinish, hreads⟩ :=
    tokens_of_phrase (phrase_plainBinding hspells hname space) path
  obtain _ | ⟨hkey, _ | ⟨hmarker, _ | ⟨hdot, _ | ⟨hlast, ⟨⟩⟩⟩⟩⟩ := hreads
  rename_i key marker dot last
  have hkind : marker.kind = space.kind := hmarker.kind_eq
  have hoperand : Sentence.IsOperand [marker, dot, last] _ :=
    .host (by cases space <;> simp [hkind, HostSpace.kind]) ⟨hdot.kind_eq, hdot.onLine⟩
      ⟨hlast.kind_eq, hlast.onLine⟩
  have hplain : ∀ token ∈ [marker, dot, last], token.kind.isPlain = true := by
    have hkinds : ∀ kind ∈ [space.kind, .dot, .identifier], TokenKind.isPlain kind = true := by
      cases space <;> decide
    simpa [hkind, hdot.kind_eq, hlast.kind_eq, Lexeme.plain] using hkinds
  obtain ⟨range, hparse⟩ :=
    parse_binding htokens hfinish hkey hmarker.onLine hoperand hplain
  refine ⟨Sentence.rangeFrom marker.range [marker, dot, last], range, ?_⟩
  have href : Sentence.hostRefTo marker.kind last.text
      (Sentence.rangeFrom marker.range [marker, dot, last]) =
      space.ref (Sentence.rangeFrom marker.range [marker, dot, last]) name := by
    rw [hkind, hlast.text_eq]
    cases space <;> rfl
  rw [hparse, href]

/-- A binding to the string of a reference is read as a string in which the reference
stands, unless a hyphen stands in the name. -/
theorem parse_stringBinding (h : IsIdentifier name) (space : HostSpace) (path : Option String) :
    ∃ range range', (ofText (space.stringBinding name) path).parse =
      .ok [.global "x" (.operand (space.inString name range)) range'] := by
  obtain ⟨first, more, hname, hspells⟩ := h.exists_spells
  obtain ⟨word, finish, htokens, hfinish, hreads⟩ :=
    tokens_of_phrase (phrase_stringBinding hspells hname space) path
  obtain _ | ⟨hkey, _ | ⟨hstring, ⟨⟩⟩⟩ := hreads
  rename_i key token
  have hkind : token.kind = .string := hstring.kind_eq
  have hgives : token.Gives (Interpolation.referenceMarks true space name.toList) :=
    ⟨hkind, hstring.value_eq, hstring.dollars_eq⟩
  obtain ⟨range, hparse⟩ := parse_binding htokens hfinish hkey hstring.onLine (.string hkind)
    (List.forall_mem_singleton.mpr (by rw [hkind]; rfl))
  exact ⟨token.range, range, by rw [hparse, operandOf_reference hspells hname hgives]⟩

end Source

end Rune
