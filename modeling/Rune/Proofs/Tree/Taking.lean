import Rune.Proofs.Outcome
import Rune.Proofs.Tree.Sentences

/-!
# Rune - taking words off a cursor

A step of the grammar that succeeds takes a word off the tokens ahead, and tells by the
tokens that it sees what to take.

Main results:

- Structure {lit}`Takes` says that a cursor comes to another one by taking a word.
- Theorems {lit}`Parse.eat_eq_ok`, {lit}`Parse.expect_eq_ok` and {lit}`Grammar.take_eq_ok`:
  what the steps that take single tokens have taken.
- Theorems {lit}`Takes.bump`, {lit}`Takes.eat`, {lit}`Takes.expect` and {lit}`Takes.take`:
  these steps take what is there.
-/

namespace Rune

/-! ## Tokens -/

/-- Kinds of tokens that stand before the end and are no numerals. -/
def TokenKind.isPlain : TokenKind → Bool
  | .eof | .int | .float => false
  | _ => true

/-- Every token but a numeral stands for a scalar. -/
theorem Token.readable_of_isPlain {token : Token} (h : token.kind.isPlain) : token.Readable := by
  unfold Readable Grammar.scalarOf
  cases hkind : token.kind <;> simp_all [TokenKind.isPlain]

/-- An `else` is at the cursor that no colon follows. -/
def Cursor.IsAtElse (cursor : Cursor) : Prop :=
  cursor.kind = .elseWord ∧ (cursor.nth 1).kind ≠ .colon

instance (cursor : Cursor) : Decidable cursor.IsAtElse := inferInstanceAs (Decidable (_ ∧ _))

/-! ## Words -/

/-- A cursor comes to another one by taking a word off the tokens ahead, all of which are
readable. -/
structure Takes (cursor : Cursor) (word : List Token) (after : Cursor) : Prop where
  ahead : cursor.ahead = word ++ after.ahead
  behind : after.behind = word.reverse ++ cursor.behind
  finish : after.finish = cursor.finish
  source : after.source = cursor.source
  readable : ∀ token ∈ word, token.Readable

namespace Takes

variable {cursor mid after : Cursor} {word word' : List Token} {token : Token}

theorem nil (cursor : Cursor) : Takes cursor [] cursor :=
  ⟨rfl, rfl, rfl, rfl, by simp⟩

/-- Where nothing is taken the cursor stays. -/
theorem eq_of_nil (h : Takes cursor [] after) : after = cursor := by
  obtain ⟨hahead, hbehind, hfinish, hsource, -⟩ := h
  cases cursor
  cases after
  simp_all

theorem append (h : Takes cursor word mid) (h' : Takes mid word' after) :
    Takes cursor (word ++ word') after where
  ahead := by rw [h.ahead, h'.ahead, List.append_assoc]
  behind := by rw [h'.behind, h.behind, List.reverse_append, List.append_assoc]
  finish := h'.finish.trans h.finish
  source := h'.source.trans h.source
  readable token htoken :=
    (List.mem_append.1 htoken).elim (h.readable token) (h'.readable token)

theorem cons (h : Takes cursor [token] mid) (h' : Takes mid word after) :
    Takes cursor (token :: word) after := h.append h'

/-- The tokens end with the same token as before. -/
theorem finish_kind (h : Takes cursor word after) (hend : cursor.finish.kind = .eof) :
    after.finish.kind = .eof := by
  rw [h.finish, hend]

/-- What is taken at once can be taken in two parts. -/
theorem split (h : Takes cursor (word ++ word') after) :
    ∃ mid, Takes cursor word mid ∧ Takes mid word' after := by
  obtain ⟨hahead, hbehind, hfinish, hsource, hreadable⟩ := h
  refine ⟨⟨cursor.source, word.reverse ++ cursor.behind, word' ++ after.ahead, cursor.finish⟩,
    ⟨by simpa using hahead, rfl, rfl, rfl, fun token htoken => ?_⟩,
    ⟨rfl, by simpa using hbehind, hfinish, hsource, fun token htoken => ?_⟩⟩
  · exact hreadable token (List.mem_append_left _ htoken)
  · exact hreadable token (List.mem_append_right _ htoken)

/-- What is taken at once can be taken token by token. -/
theorem uncons (h : Takes cursor (token :: word) after) :
    ∃ mid, Takes cursor [token] mid ∧ Takes mid word after := by
  rw [← List.singleton_append] at h
  exact h.split

/-- The token at the cursor is the first one to be taken. -/
theorem current_eq (h : Takes cursor (token :: word) after) : cursor.current = token := by
  simp [Cursor.current, h.ahead]

theorem kind_eq (h : Takes cursor (token :: word) after) : cursor.kind = token.kind := by
  rw [Cursor.kind, h.current_eq]

theorem lineBreak_eq (h : Takes cursor (token :: word) after) :
    cursor.lineBreak = token.lineBreakBefore := by
  rw [Cursor.lineBreak, h.current_eq]

/-- The token after the one at the cursor is the second one to be taken. -/
theorem nth_one_eq {second : Token} (h : Takes cursor (token :: second :: word) after) :
    cursor.nth 1 = second := by
  simp [Cursor.nth, h.ahead]

/-- The last token that was taken lies before the cursor. -/
theorem previous_eq (h : Takes cursor (word ++ [token]) after) : after.previous = token := by
  simp [Cursor.previous, h.behind]

/-- A range ends where the word ends that was taken last. -/
theorem rangeFrom_eq (h : Takes cursor word after) (hword : word ≠ []) (start : TextRange) :
    after.rangeFrom start = Sentence.rangeFrom start word := by
  rw [← List.dropLast_concat_getLast hword] at h
  rw [Cursor.rangeFrom, h.previous_eq, Sentence.rangeFrom, List.getLast?_eq_some_getLast hword]

end Takes

/-! ## Steps that succeed -/

namespace Parse

variable {cursor after : Cursor} {α β : Type}

/-- Going on after a step that succeeds. -/
theorem bind_of_ok {x : Parse α} {f : α → Parse β} {a : α} (h : x cursor = .ok a after) :
    (x >>= f) cursor = f a after := by
  simp only [bind, EStateM.bind, h]

/-- Going on after a look at the cursor. -/
theorem look_bind (g : Cursor → α) (f : α → Parse β) (cursor : Cursor) :
    (look g >>= f) cursor = f (g cursor) cursor := rfl

variable (hend : cursor.finish.kind = .eof)
include hend

/-- Where the end is not reached a token is taken. -/
theorem takes_advance (hkind : cursor.kind ≠ .eof) (hreadable : cursor.current.Readable) :
    Takes cursor [cursor.current] cursor.advance := by
  obtain ⟨source, behind, ahead, finish⟩ := cursor
  cases ahead with
  | nil => exact absurd hend hkind
  | cons token rest =>
    exact ⟨rfl, rfl, rfl, rfl, fun other hother => (List.mem_singleton.1 hother) ▸ hreadable⟩

theorem bump_eq_ok {token : Token} (hplain : cursor.kind.isPlain)
    (h : bump cursor = .ok token after) :
    token = cursor.current ∧ Takes cursor [token] after := by
  cases h
  refine ⟨rfl, takes_advance hend (fun hkind => ?_) (Token.readable_of_isPlain hplain)⟩
  simp [hkind, TokenKind.isPlain] at hplain

theorem eat_eq_ok {kind : TokenKind} (hplain : kind.isPlain) {found : Bool}
    (h : eat kind cursor = .ok found after) :
    (found = true ∧ ∃ token, token.kind = kind ∧ Takes cursor [token] after) ∨
      (found = false ∧ cursor.kind ≠ kind ∧ after = cursor) := by
  unfold eat isAt at h
  rw [look_bind] at h
  by_cases hkind : cursor.kind = kind
  · rw [if_pos (by simpa using hkind)] at h
    obtain ⟨token, _, hbump, h⟩ := bind_eq_ok_iff.1 h
    cases h
    subst hkind
    obtain ⟨rfl, htakes⟩ := bump_eq_ok hend hplain hbump
    exact .inl ⟨rfl, _, rfl, htakes⟩
  · rw [if_neg (by simpa using hkind)] at h
    cases h
    exact .inr ⟨rfl, hkind, rfl⟩

theorem expect_eq_ok {kind : TokenKind} (hplain : kind.isPlain) {name : String} {token : Token}
    (h : expect kind name cursor = .ok token after) :
    token.kind = kind ∧ Takes cursor [token] after := by
  unfold expect at h
  rw [look_bind] at h
  by_cases hkind : cursor.current.kind = kind
  · rw [if_pos hkind] at h
    subst hkind
    obtain ⟨rfl, htakes⟩ := bump_eq_ok hend hplain h
    exact ⟨rfl, htakes⟩
  · rw [if_neg hkind] at h
    cases h

end Parse

namespace Grammar

open Parse

/-- Whether a token is wanted depends on its kind and its line. -/
theorem isAtOnLine_bind {α : Type} (kind : TokenKind) (f : Bool → Parse α) (cursor : Cursor) :
    (isAtOnLine kind >>= f) cursor =
      f (decide (cursor.current.IsOnLine kind)) cursor := by
  change f _ cursor = _
  congr 1
  rw [Bool.eq_iff_iff, decide_eq_true_iff, Bool.and_eq_true, decide_eq_true_iff,
    Bool.not_eq_true']
  rfl

theorem take_eq_ok {cursor after : Cursor} (hend : cursor.finish.kind = .eof)
    {kind : TokenKind} (hplain : kind.isPlain) {fault : Token → GrammarFault} {token : Token}
    (h : take kind fault cursor = .ok token after) :
    token.IsOnLine kind ∧ Takes cursor [token] after := by
  unfold take at h
  rw [isAtOnLine_bind] at h
  by_cases honLine : cursor.current.IsOnLine kind
  · rw [if_pos (decide_eq_true honLine)] at h
    have hkind : cursor.kind = kind := honLine.1
    obtain ⟨rfl, htakes⟩ := bump_eq_ok hend (hkind ▸ hplain) h
    exact ⟨honLine, htakes⟩
  · rw [if_neg (by simpa using honLine)] at h
    cases h

end Grammar

/-! ## Steps that have their token ahead -/

namespace Takes

open Parse

variable {cursor after : Cursor} {token : Token}

/-- The range of what was taken. -/
theorem rangeFrom_bind {α : Type} {word : List Token} (h : Takes cursor word after)
    (hword : word ≠ []) (start : TextRange) (f : TextRange → Parse α) :
    (Parse.rangeFrom start >>= f) after = f (Sentence.rangeFrom start word) after := by
  rw [Parse.rangeFrom, look_bind, h.rangeFrom_eq hword]

theorem bump (h : Takes cursor [token] after) : bump cursor = .ok token after := by
  obtain ⟨source, behind, ahead, finish⟩ := cursor
  obtain ⟨source', behind', ahead', finish'⟩ := after
  obtain ⟨hahead, hbehind, hfinish, hsource, -⟩ := h
  simp only at hahead hbehind hfinish hsource
  subst hahead hbehind hfinish hsource
  rfl

theorem eat (h : Takes cursor [token] after) : eat token.kind cursor = .ok true after := by
  unfold Parse.eat isAt
  rw [look_bind, if_pos (by simp [h.kind_eq]), bind_of_ok h.bump]
  rfl

theorem expect (h : Takes cursor [token] after) (name : String) :
    expect token.kind name cursor = .ok token after := by
  unfold Parse.expect
  rw [look_bind, if_pos (by rw [h.current_eq]), h.bump]

theorem take (h : Takes cursor [token] after) {kind : TokenKind} (honLine : token.IsOnLine kind)
    (fault : Token → GrammarFault) : Grammar.take kind fault cursor = .ok token after := by
  unfold Grammar.take
  rw [Grammar.isAtOnLine_bind, if_pos (by simpa [h.current_eq] using honLine), h.bump]

end Takes

/-- A token that is not there is not taken. -/
theorem Parse.eat_of_ne {cursor : Cursor} {kind : TokenKind} (h : cursor.kind ≠ kind) :
    eat kind cursor = .ok false cursor := by
  unfold eat isAt
  rw [look_bind, if_neg (by simpa using h)]
  rfl

end Rune
