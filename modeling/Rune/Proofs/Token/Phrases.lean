import Rune.Proofs.Lists
import Rune.Proofs.Token.Literals

/-!
# Rune - tokens on one line

Characters on one line are read as tokens one after another, with spaces between them or
not.  A name is a text that is one identifier and nothing else; it is read as an identifier
wherever the characters behind it do not go on with it.

Main results:

- Relation {lit}`Phrase`: what characters on one line are read as.
- Theorem {lit}`Source.tokens_of_phrase`: the tokens of a text of one line.
- Theorem {lit}`SpellsIdentifier.scan_eq`: how a name is read before other characters.
-/

namespace Rune

/-! ## Phrases -/

/-- What characters on one line are read as: lexemes with the texts that they are read
from. -/
inductive Phrase : List Char → List (Lexeme × String) → Prop
  | nil : Phrase [] []
  | cons {chars spaces more behind : List Char} {first : Char} {lexeme : Lexeme}
      {words : List (Lexeme × String)} (hchars : chars = spaces ++ first :: (more ++ behind))
      (hspaces : ∀ c ∈ spaces, c = ' ') (hblank : Trivia.isBlank first = false)
      (hscan : scan first (more ++ behind) = ⟨.ok lexeme, more.length⟩)
      (hbehind : Phrase behind words) :
    Phrase chars ((lexeme, String.ofList (first :: more)) :: words)

namespace Phrase

variable {chars more behind : List Char} {first : Char} {lexeme : Lexeme}
  {words : List (Lexeme × String)}

/-- A token at once before others. -/
theorem adjacent (hblank : Trivia.isBlank first = false)
    (hscan : scan first (more ++ behind) = ⟨.ok lexeme, more.length⟩)
    (hbehind : Phrase behind words) (hchars : chars = first :: (more ++ behind)) :
    Phrase chars ((lexeme, String.ofList (first :: more)) :: words) :=
  cons hchars (List.forall_mem_nil _) hblank hscan hbehind

/-- A token behind a space and at once before others. -/
theorem spaced (hblank : Trivia.isBlank first = false)
    (hscan : scan first (more ++ behind) = ⟨.ok lexeme, more.length⟩)
    (hbehind : Phrase behind words) (hchars : chars = ' ' :: first :: (more ++ behind)) :
    Phrase chars ((lexeme, String.ofList (first :: more)) :: words) :=
  cons hchars (List.forall_mem_singleton.mpr rfl) hblank hscan hbehind

end Phrase

/-- A token on the line of the one before it, as it was read. -/
structure Token.Reads (token : Token) (word : Lexeme × String) : Prop where
  kind_eq : token.kind = word.1.kind
  text_eq : token.text = word.2
  value_eq : token.value = word.1.contents.getD word.2
  dollars_eq : token.dollars = word.1.dollars
  onLine : token.lineBreakBefore = false

/-- Spaces before a token are passed over. -/
theorem Trivia.skip_spaces {spaces rest : List Char} {first : Char}
    (hspaces : ∀ c ∈ spaces, c = ' ') (hfirst : isBlank first = false) :
    skip false (spaces ++ first :: rest) = ⟨spaces.length, false, first :: rest⟩ := by
  induction spaces with
  | nil => exact skip_of_not_isBlank hfirst rest
  | cons c spaces ih =>
    rw [List.forall_mem_cons] at hspaces
    obtain ⟨rfl, hspaces⟩ := hspaces
    simp [skip, ih hspaces]

namespace Lexer

/-- A lexer at characters that are read as lexemes gives tokens of them, up to the end. -/
theorem exists_gives_of_phrase {chars : List Char} {words : List (Lexeme × String)}
    (h : Phrase chars words) {lexer : Lexer} (hline : lexer.lineBreak = false)
    (hrest : lexer.rest = chars) :
    ∃ word finish, Gives lexer (word ++ [finish]) ∧ finish.kind = .eof ∧
      List.Forall₂ Token.Reads word words := by
  induction h generalizing lexer with
  | nil =>
    have hskip : lexer.skipTrivia.rest = [] := by simp [skipTrivia, hrest, Trivia.skip]
    exact ⟨[], _, .finish hskip, rfl, .nil⟩
  | @cons chars spaces more behind first lexeme words hchars hspaces hblank hscan _ ih =>
    have htrivia : Trivia.skip false lexer.rest =
        ⟨spaces.length, false, first :: (more ++ behind)⟩ := by
      rw [hrest, hchars]
      exact Trivia.skip_spaces hspaces hblank
    have hahead : lexer.skipTrivia.rest = first :: (more ++ behind) := by
      rw [skipTrivia, htrivia]
    have hscanned : (scan first (more ++ behind)).consumed = more.length + 1 := by rw [hscan]; rfl
    have hafter : (lexer.after (scan first (more ++ behind)).consumed).rest = behind := by
      simp [after, advance, hahead, hscanned]
    obtain ⟨word, finish, hgives, hfinish, hreads⟩ := ih rfl hafter
    refine ⟨_ :: word, finish, .token hahead (congrArg Scan.outcome hscan) hgives, hfinish, ?_⟩
    have htake : lexer.skipTrivia.rest.take (more.length + 1) = first :: more := by
      rw [hahead, List.take_succ_cons, List.take_left]
    have hbreak : lexer.skipTrivia.lineBreak = false := by
      rw [skipTrivia, htrivia, hline]
      rfl
    refine .cons ?_ hreads
    rw [hscanned]
    exact ⟨rfl, congrArg String.ofList htake,
      congrArg (fun chars => lexeme.contents.getD (String.ofList chars)) htake, rfl, hbreak⟩

end Lexer

/-- The tokens of a text of one line. -/
theorem Source.tokens_of_phrase {text : String} {words : List (Lexeme × String)}
    (h : Phrase text.toList words) (path : Option String) :
    ∃ word finish, (ofText text path).tokens = .ok (word ++ [finish]) ∧ finish.kind = .eof ∧
      List.Forall₂ Token.Reads word words := by
  obtain ⟨word, finish, hgives, hfinish, hreads⟩ :=
    @Lexer.exists_gives_of_phrase _ _ h (.ofSource (ofText text path)) rfl rfl
  exact ⟨word, finish, hgives.tokens_eq, hfinish, hreads⟩

/-! ## Names -/

/-- A name is a text that is one identifier. -/
def IsIdentifier (name : String) : Prop :=
  ∃ token finish, (Source.ofText name).tokens = .ok [token, finish] ∧
    token.kind = .identifier ∧ token.text = name

/-- What is read as an identifier and an end is a name. -/
theorem isIdentifier_of_tokens {name : String} (h : (Source.ofText name).tokens.toOption.map
      (List.map fun token => (token.kind, token.text)) = some [(.identifier, name), (.eof, "")]) :
    IsIdentifier name := by
  cases htokens : (Source.ofText name).tokens with
  | error failure =>
    rw [htokens] at h
    cases h
  | ok tokens =>
    rw [htokens] at h
    obtain ⟨token, tokens, rfl, htoken, hrest⟩ := List.map_eq_cons_iff.mp (Option.some.inj h)
    obtain ⟨finish, rfl, -⟩ := List.map_eq_singleton_iff.mp hrest
    obtain ⟨hkind, htext⟩ := Prod.mk.inj htoken
    exact ⟨token, finish, htokens, hkind, htext⟩

/-- Characters make up a name: the first one may begin a word, the others go on with it, and
the word is not reserved. -/
structure SpellsIdentifier (first : Char) (more : List Char) : Prop where
  plain : IsPlain first
  starts : startsWord first = true
  continues : ∀ c ∈ more, continuesWord c = true
  unreserved : TokenKind.ofWord? (String.ofList (first :: more)) = none

/-- Before characters that do not go on with it a name is read as an identifier. -/
theorem SpellsIdentifier.scan_eq {first : Char} {more behind : List Char}
    (h : SpellsIdentifier first more) (hends : behind.head?.any continuesWord = false)
    (hquote : behind.head? ≠ some '"') :
    scan first (more ++ behind) = ⟨.ok (.plain .identifier), more.length⟩ := by
  have hraw : NotRaw first (more ++ behind) := by
    intro _
    cases more with
    | nil => exact hquote
    | cons c more =>
      rintro hc
      obtain rfl : c = '"' := Option.some.inj hc
      exact absurd (h.continues '"' List.mem_cons_self) (by decide +kernel)
  rw [(Begins.word hraw h.plain h.starts).scan_eq, scanWord,
    takeWhile_append_of_stop h.continues hends, h.unreserved]
  rfl

/-- A word that is read as an identifier is not reserved. -/
theorem TokenKind.ofWord?_eq_none {word : String}
    (h : (ofWord? word).getD .identifier = .identifier) : ofWord? word = none := by
  cases hreserved : ofWord? word with
  | none => rfl
  | some kind =>
    rw [hreserved] at h
    exact absurd h (ofWord?_ne hreserved).2.1

/-- The characters of an identifier make up a name. -/
theorem Source.spells_of_tokens {source : Source} {tokens : List Token}
    (h : source.tokens = .ok tokens) {token : Token} (hmem : token ∈ tokens)
    (hkind : token.kind = .identifier) :
    ∃ first more, token.text.toList = first :: more ∧ SpellsIdentifier first more := by
  obtain ⟨here, first, rest, lexeme, hrest, hscan, rfl⟩ :=
    (Lexer.gives_of_tokens h).exists_scan hmem (by rw [hkind]; exact nofun)
  obtain ⟨found, hbegins⟩ := begins_of_scan hscan
  have hfound := hbegins.scan_eq
  rw [hfound] at hscan ⊢
  rcases hbegins.kind_cases hscan with
    ⟨hstring, -⟩ | ⟨-, -, hplain, hstarts, rfl⟩ | ⟨hfloat, -⟩ | ⟨-, hother, -⟩
  · exact nomatch hkind.symm.trans hstring
  · have htake : rest.take (rest.takeWhile continuesWord).length = rest.takeWhile continuesWord :=
      (List.prefix_iff_eq_take.mp (List.takeWhile_prefix continuesWord)).symm
    refine ⟨first, rest.takeWhile continuesWord, ?_, hplain, hstarts, ?_, ?_⟩
    · simp [Lexer.tokenOf, hrest, scanWord, Scan.consumed, htake]
    · exact fun c hc => List.all_eq_true.mp List.all_takeWhile c hc
    · cases hscan
      exact TokenKind.ofWord?_eq_none hkind
  · exact absurd (hkind.symm.trans hfloat) (by decide)
  · exact absurd hkind hother

/-- The characters of a name make it up. -/
theorem IsIdentifier.exists_spells {name : String} (h : IsIdentifier name) :
    ∃ first more, name.toList = first :: more ∧ SpellsIdentifier first more := by
  obtain ⟨token, finish, htokens, hkind, htext⟩ := h
  rw [← htext]
  exact Source.spells_of_tokens htokens List.mem_cons_self hkind

end Rune
