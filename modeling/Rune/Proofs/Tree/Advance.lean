import Rune.Proofs.Tree.Progress

/-!
# Rune - the cursor advances

A step of the grammar moves the cursor forward over the tokens, whether it succeeds or not,
and never over the end.  On the tokens of a source, the parts of the grammar take tokens
whenever they succeed, and their loops and their fuel never give out: with more fuel they
do the same.

Main results:

- Structure {lit}`Cursor.Moves` says how a cursor moves, and theorem
  {lit}`Parse.Stepwise.moves` that steps of the grammar move it so.
- Definition {lit}`Parse.Advances`: a step takes at least so many tokens, or it complains.
- Theorem {lit}`Grammar.valueWith_lasts` and its companions: fuel that lasts is enough.
- Theorem {lit}`Source.document_advances`: how a document is read.
-/

namespace Rune

/-! ## Moving -/

/-- A cursor comes to another one over a word: what lay ahead lies behind, with its last
token first, and the end stays where it was. -/
structure Cursor.Moves (cursor : Cursor) (word : List Token) (after : Cursor) : Prop where
  ahead : cursor.ahead = word ++ after.ahead
  behind : after.behind = word.reverse ++ cursor.behind
  finish : after.finish = cursor.finish
  source : after.source = cursor.source

namespace Cursor.Moves

variable {cursor mid after : Cursor} {word word' : List Token}

theorem refl (cursor : Cursor) : cursor.Moves [] cursor := ⟨rfl, rfl, rfl, rfl⟩

theorem trans (h : cursor.Moves word mid) (h' : mid.Moves word' after) :
    cursor.Moves (word ++ word') after where
  ahead := by rw [h.ahead, h'.ahead, List.append_assoc]
  behind := by rw [h'.behind, h.behind, List.reverse_append, List.append_assoc]
  finish := h'.finish.trans h.finish
  source := h'.source.trans h.source

/-- Advancing moves over one token; at the end it moves over none. -/
theorem advance (cursor : Cursor) : ∃ word, cursor.Moves word cursor.advance := by
  unfold Cursor.advance
  split
  · exact ⟨[], refl cursor⟩
  · rename_i token rest hahead
    exact ⟨[token], hahead, rfl, rfl, rfl⟩

theorem passes (h : cursor.Moves word after) : cursor.Passes word.length after :=
  ⟨word, h.ahead, h.finish, Nat.le_refl _⟩

end Cursor.Moves

namespace Parse

variable {α β : Type} {x y : Parse α} {cursor : Cursor}

/-- The cursor where a step ends, whether it succeeds or not. -/
def stop (x : Parse α) (cursor : Cursor) : Cursor :=
  match x cursor with
  | .ok _ after | .error _ after => after

/-- A step of the grammar moves the cursor forward. -/
theorem Stepwise.moves (h : Stepwise x) (cursor : Cursor) :
    ∃ word, cursor.Moves word (stop x cursor) := by
  induction h generalizing cursor with
  | pure | look | complainAt | fault => exact ⟨[], .refl cursor⟩
  | bump => exact Cursor.Moves.advance cursor
  | @bind _ _ x f _ _ hx hf =>
    obtain ⟨word, hword⟩ := hx cursor
    unfold stop at hword ⊢
    simp only [Bind.bind, EStateM.bind]
    cases hrun : x cursor with
    | error failure after =>
      rw [hrun] at hword
      exact ⟨word, hword⟩
    | ok a after =>
      rw [hrun] at hword
      obtain ⟨word', hword'⟩ := hf a after
      exact ⟨word ++ word', hword.trans hword'⟩

/-! ## Advancing -/

/-- A step moves the cursor forward.  If it succeeds, the cursor moves over at least so many
tokens; otherwise the step complains about the grammar. -/
def Advances (least : Nat) (x : Parse α) (cursor : Cursor) : Prop :=
  ∃ word, cursor.Moves word (stop x cursor) ∧
    match x cursor with
    | .ok _ _ => least ≤ word.length
    | .error failure _ => ∃ d, failure = .grammatical d

/-- Where all numerals ahead stand for numbers, a step that proceeds advances. -/
theorem Stepwise.advances {least : Nat} (h : Stepwise x) (hproceeds : Proceeds least x cursor)
    (horderly : cursor.Orderly) (hreadable : ∀ token ∈ cursor.ahead, token.Readable) :
    Advances least x cursor := by
  obtain ⟨word, hmoves⟩ := h.moves cursor
  have hrun := hproceeds horderly
  refine ⟨word, hmoves, ?_⟩
  unfold stop at hmoves
  cases hresult : x cursor with
  | ok a after =>
    rw [hresult] at hmoves hrun
    have hless := hrun.length_le
    rw [hmoves.ahead, List.length_append] at hless
    dsimp only at hless ⊢
    omega
  | error failure after =>
    rw [hresult] at hrun
    rcases h.failure_cases hresult with hd | ⟨fault, rfl⟩
    · exact hd
    · obtain hnone | ⟨token, htoken, other, hscalar, -⟩ := hrun
      · cases hnone
      · obtain ⟨scalar, hok⟩ := hreadable token htoken
        cases hok.symm.trans hscalar

/-! ## Fuel -/

/-- A step ends because a loop stands still, or because no fuel is left. -/
def Stalls (x : Parse α) (cursor : Cursor) : Prop :=
  ∃ place after, x cursor = .error (Progress.stalled place) after

/-- Where the first step does not stall, the second one does the same. -/
def Lasts (x y : Parse α) : Prop := ∀ cursor, Stalls x cursor ∨ x cursor = y cursor

theorem Advances.not_stalls {least : Nat} (h : Advances least x cursor) : ¬ Stalls x cursor := by
  rintro ⟨place, after, hrun⟩
  obtain ⟨word, -, hend⟩ := h
  rw [hrun] at hend
  obtain ⟨d, hd⟩ := hend
  cases hd

namespace Lasts

theorem refl (x : Parse α) : Lasts x x := fun _ => .inr rfl

theorem bind {f g : α → Parse β} (hxy : Lasts x y) (hfg : ∀ a, Lasts (f a) (g a)) :
    Lasts (x >>= f) (y >>= g) := by
  intro cursor
  simp only [Stalls, Bind.bind, EStateM.bind]
  rcases hxy cursor with ⟨place, after, hrun⟩ | hrun
  · exact .inl ⟨place, after, by rw [hrun]⟩
  · rw [← hrun]
    cases x cursor with
    | error failure after => exact .inr rfl
    | ok a after => exact hfg a after

/-- The first step does not depend on the fuel. -/
theorem after (x : Parse α) {f g : α → Parse β} (hfg : ∀ a, Lasts (f a) (g a)) :
    Lasts (x >>= f) (x >>= g) := (refl x).bind hfg

/-- What is done with the result does not depend on the fuel. -/
theorem before (hxy : Lasts x y) (f : α → Parse β) : Lasts (x >>= f) (y >>= f) :=
  hxy.bind fun a => refl (f a)

theorem ite {c : Prop} [Decidable c] {x' y' : Parse α} (hthen : Lasts x y)
    (helse : Lasts x' y') : Lasts (if c then x else x') (if c then y else y') := by
  split
  · exact hthen
  · exact helse

theorem stall (x : Parse α) : Lasts Grammar.stall x := fun cursor => .inl ⟨cursor, cursor, rfl⟩

/-- Where a step does not stall, it does the same with all fuel that is more. -/
theorem eq_of_le {step : Nat → Parse α} (h : ∀ fuel, Lasts (step fuel) (step (fuel + 1)))
    {least fuel : Nat} (hle : least ≤ fuel) (hgoes : ¬ Stalls (step least) cursor) :
    step fuel cursor = step least cursor := by
  induction hle with
  | refl => rfl
  | @step fuel _ ih =>
    rcases h fuel cursor with hstalls | heq
    · exact absurd (by rwa [Stalls, ih] at hstalls) hgoes
    · rw [← heq, ih]

end Lasts

end Parse

namespace Grammar

open Parse

/-- Values, arrays, their items and choices do the same with more fuel. -/
structure ValuesLast (fuel : Nat) : Prop where
  value : Lasts (valueWith fuel) (valueWith (fuel + 1))
  array : Lasts (arrayWith fuel) (arrayWith (fuel + 1))
  items : ∀ opening progress,
    Lasts (itemsWith fuel opening progress) (itemsWith (fuel + 1) opening progress)
  conditional : Lasts (conditionalWith fuel) (conditionalWith (fuel + 1))

namespace ValuesLast

variable {fuel : Nat}

theorem zero : ValuesLast 0 where
  value := by simpa only [valueWith] using .stall _
  array := by simpa only [arrayWith] using .stall _
  items _ _ := by simpa only [itemsWith] using .stall _
  conditional := by simpa only [conditionalWith] using .stall _

theorem value_succ (h : ValuesLast fuel) :
    Lasts (valueWith (fuel + 1)) (valueWith (fuel + 1 + 1)) := by
  rw [valueWith, valueWith]
  refine .after _ fun token => ?_
  split
  case h_11 => exact h.array
  case h_12 => exact h.conditional
  all_goals exact .refl _

theorem array_succ (h : ValuesLast fuel) :
    Lasts (arrayWith (fuel + 1)) (arrayWith (fuel + 1 + 1)) := by
  rw [arrayWith, arrayWith]
  exact .after _ fun opening => (h.items _ _).before _

theorem item (h : ValuesLast fuel) (opening : TextRange) :
    Lasts (itemWith fuel opening) (itemWith (fuel + 1) opening) := by
  unfold itemWith
  exact .after _ fun _ => .ite (.after _ fun _ => h.value.before _) (h.value.before _)

theorem items_succ (h : ValuesLast fuel) (opening : TextRange) (progress : Progress) :
    Lasts (itemsWith (fuel + 1) opening progress) (itemsWith (fuel + 1 + 1) opening progress) := by
  rw [itemsWith_succ, itemsWith_succ]
  exact .after _ fun _ => .ite (.refl _) <| .after _ fun progress =>
    (h.item opening).bind fun item => (h.items opening progress).before _

theorem conditional_succ (h : ValuesLast fuel) :
    Lasts (conditionalWith (fuel + 1)) (conditionalWith (fuel + 1 + 1)) := by
  rw [conditionalWith, conditionalWith]
  refine .after _ fun keyword => .after _ fun condition => h.value.bind fun thenValue =>
    .after _ fun _ => .after _ fun _ => .ite ?_ (.refl _)
  exact .after _ fun _ => h.value.before _

end ValuesLast

theorem valueWith_lasts (fuel : Nat) : ValuesLast fuel := by
  induction fuel with
  | zero => exact .zero
  | succ fuel ih => exact ⟨ih.value_succ, ih.array_succ, ih.items_succ, ih.conditional_succ⟩

/-- Members, one member, blocks and choices between members do the same with more fuel. -/
structure MembersLast (fuel : Nat) : Prop where
  members : ∀ progress, Lasts (membersWith fuel progress) (membersWith (fuel + 1) progress)
  member : Lasts (memberWith fuel) (memberWith (fuel + 1))
  block : Lasts (blockWith fuel) (blockWith (fuel + 1))
  conditional : Lasts (blockConditionalWith fuel) (blockConditionalWith (fuel + 1))

namespace MembersLast

variable {fuel : Nat}

theorem zero : MembersLast 0 where
  members _ := by simpa only [membersWith] using .stall _
  member := by simpa only [memberWith] using .stall _
  block := by simpa only [blockWith] using .stall _
  conditional := by simpa only [blockConditionalWith] using .stall _

theorem members_succ (h : MembersLast fuel) (progress : Progress) :
    Lasts (membersWith (fuel + 1) progress) (membersWith (fuel + 1 + 1) progress) := by
  rw [membersWith, membersWith]
  exact .after _ fun _ => .ite (.refl _) <| .after _ fun progress =>
    h.member.bind fun member => (h.members progress).before _

theorem member_succ (h : MembersLast fuel) :
    Lasts (memberWith (fuel + 1)) (memberWith (fuel + 1 + 1)) := by
  rw [memberWith, memberWith]
  refine .after _ fun token => ?_
  split
  · exact .after _ fun _ => .ite (h.block.before _) (.refl _)
  · exact h.conditional
  · exact .refl _

theorem block_succ (h : MembersLast fuel) :
    Lasts (blockWith (fuel + 1)) (blockWith (fuel + 1 + 1)) := by
  rw [blockWith, blockWith]
  exact .after _ fun _ => .after _ fun _ => (h.members _).before _

theorem conditional_succ (h : MembersLast fuel) :
    Lasts (blockConditionalWith (fuel + 1)) (blockConditionalWith (fuel + 1 + 1)) := by
  rw [blockConditionalWith, blockConditionalWith]
  refine .after _ fun keyword => .after _ fun condition => .after _ fun _ =>
    (h.members _).bind fun thenChildren => .after _ fun _ => .ite ?_ (.refl _)
  exact .after _ fun _ => (h.members _).before _

end MembersLast

theorem membersWith_lasts (fuel : Nat) : MembersLast fuel := by
  induction fuel with
  | zero => exact .zero
  | succ fuel ih => exact ⟨ih.members_succ, ih.member_succ, ih.block_succ, ih.conditional_succ⟩

theorem statementsWith_lasts (fuel : Nat) (progress : Progress) :
    Lasts (statementsWith fuel progress) (statementsWith (fuel + 1) progress) := by
  induction fuel generalizing progress with
  | zero => exact .stall _
  | succ fuel ih =>
    rw [statementsWith, statementsWith]
    exact .after _ fun _ => .ite (.refl _) <| .after _ fun progress => .after _ fun statement =>
      (ih progress).before _

/-! ## Reading -/

theorem members_proceeds (cursor : Cursor) : Proceeds 0 members cursor :=
  (membersWith_proceeds _).members cursor _ (by unfold fuelFor; omega)
    (Progress.start_precedes cursor)

/-- At a cursor the parts of the grammar advance.  Each time around a loop and everything with
a word of its own takes a token.  Fuel that lasts for the tokens ahead is enough. -/
structure Advancing (cursor : Cursor) : Prop where
  value : Advances 1 value cursor
  condition : Advances 1 condition cursor
  block : Advances 1 block cursor
  blockConditional : Advances 1 blockConditional cursor
  statement : Advances 1 statement cursor
  member : ∀ fuel, 3 * cursor.ahead.length < fuel → Advances 1 (memberWith fuel) cursor
  item : ∀ fuel opening, 3 * cursor.ahead.length < fuel → Advances 1 (itemWith fuel opening) cursor
  members : Advances 0 members cursor
  document : Advances 0 document cursor
  enough : ∀ fuel, fuelFor cursor ≤ fuel →
    valueWith fuel cursor = Grammar.value cursor ∧
    membersWith fuel .start cursor = Grammar.members cursor ∧
    statementsWith fuel .start cursor = Grammar.document cursor

/-- The grammar advances at tokens of a source whose numerals stand for numbers. -/
theorem advancing_of_orderly {cursor : Cursor} (horderly : cursor.Orderly)
    (hreadable : ∀ token ∈ cursor.ahead, token.Readable) : Advancing cursor := by
  have hvalue := value_stepwise.advances (value_proceeds cursor) horderly hreadable
  have hmembers : Advances 0 members cursor :=
    (Stepwise.atCursor fuelFor fun fuel => (membersWith_stepwise fuel).1 .start).advances
      (members_proceeds cursor) horderly hreadable
  have hdocument : Advances 0 document cursor :=
    (Stepwise.atCursor fuelFor fun fuel => statementsWith_stepwise fuel .start).advances
      (document_proceeds cursor) horderly hreadable
  refine {
    value := hvalue
    condition := condition_stepwise.advances (condition_proceeds cursor) horderly hreadable
    block := block_stepwise.advances (block_proceeds cursor) horderly hreadable
    blockConditional :=
      (Stepwise.atCursor fuelFor fun fuel => (membersWith_stepwise fuel).2.2.2).advances
        (blockConditional_proceeds cursor) horderly hreadable
    statement := statement_stepwise.advances (statement_proceeds cursor) horderly hreadable
    member := fun fuel hfuel => (membersWith_stepwise fuel).2.1.advances
      ((membersWith_proceeds fuel).member cursor hfuel) horderly hreadable
    item := fun fuel opening hfuel =>
      (itemWith_stepwise (valueWith_stepwise fuel).1 opening).advances
      ((valueWith_proceeds fuel).item opening hfuel) horderly hreadable
    members := hmembers
    document := hdocument
    enough := fun fuel hfuel => ⟨?_, ?_, ?_⟩ }
  · exact Lasts.eq_of_le (fun fuel => (valueWith_lasts fuel).value) hfuel hvalue.not_stalls
  · exact Lasts.eq_of_le (fun fuel => (membersWith_lasts fuel).members .start) hfuel
      hmembers.not_stalls
  · exact Lasts.eq_of_le (fun fuel => statementsWith_lasts fuel .start) hfuel
      hdocument.not_stalls

/-- Tokens are read from a first cursor on: to a document with the cursor at the end and all
tokens behind it, or to a complaint.  The grammar advances wherever the cursor comes to. -/
structure Reading (first : Cursor) : Prop where
  ends : (∃ statements after, document first = .ok statements after ∧ after.kind = .eof ∧
      first.Moves first.ahead after ∧ after.ahead = []) ∨
    ∃ d after word, document first = .error (.grammatical d) after ∧ first.Moves word after
  advancing : ∀ word cursor, first.Moves word cursor → Advancing cursor

end Grammar

/-- The tokens of a source, among which all numerals stand for numbers, are read to the end or
up to a complaint.  On the way the cursor only moves forward, every loop takes a token each
time around, and nothing stands still. -/
theorem Source.reading_of_tokens {source : Source} {tokens : List Token}
    (htokens : source.tokens = .ok tokens)
    (hnumerals : ∀ token ∈ tokens, token.kind = .int ∨ token.kind = .float → token.Readable) :
    ∃ word finish, tokens = word ++ [finish] ∧ Grammar.Reading ⟨source, [], word, finish⟩ := by
  obtain ⟨word, finish, rfl, hword⟩ := areTokens_of_tokens htokens
  have horderly : Cursor.Orderly ⟨source, [], word, finish⟩ :=
    ⟨hword.kind_finish, hword.kind_ne, pairwise_of_tokens htokens⟩
  have hreadable : ∀ token ∈ word, token.Readable := fun token htoken => by
    by_cases hkind : token.kind = .int ∨ token.kind = .float
    · exact hnumerals token (List.mem_append_left _ htoken) hkind
    · refine Token.readable_of_isPlain ?_
      have hne := hword.kind_ne token htoken
      cases h : token.kind <;> simp_all [TokenKind.isPlain]
  refine ⟨word, finish, rfl, ?_, fun taken cursor hmoves => ?_⟩
  · obtain ⟨moved, hmoves, hend⟩ :=
      (Grammar.advancing_of_orderly horderly hreadable).document
    unfold Parse.stop at hmoves
    cases hrun : Grammar.document ⟨source, [], word, finish⟩ with
    | error failure after =>
      rw [hrun] at hmoves hend
      obtain ⟨d, rfl⟩ := hend
      exact .inr ⟨d, after, moved, rfl, hmoves⟩
    | ok statements after =>
      rw [hrun] at hmoves
      obtain ⟨taken, -, heof, -⟩ :=
        Grammar.statementsWith_sound _ _ _ hword.kind_finish _ _ hrun
      have hnone := (hmoves.passes.orderly horderly).ahead_eq_nil heof
      have hmoved : word = moved := by simpa [hnone] using hmoves.ahead
      exact .inl ⟨statements, after, rfl, heof, hmoved ▸ hmoves, hnone⟩
  · exact Grammar.advancing_of_orderly (hmoves.passes.orderly horderly) fun token htoken =>
      hreadable token (hmoves.passes.mem_ahead htoken)

/-- The tokens of a document with an array, a block and choices are read in this way. -/
theorem Source.reading_of_tokens_nested :
    let source := Source.ofText "a [1,\n2]\nb:\n  if a:\n    c if a 3 else 4\n  endif\nend\n"
    ∃ tokens, source.tokens = .ok tokens ∧
      (∀ token ∈ tokens, token.kind = .int ∨ token.kind = .float → token.Readable) ∧
      ∃ word finish, tokens = word ++ [finish] ∧
        Grammar.Reading ⟨source, [], word, finish⟩ := by
  intro source
  have hall : (source.tokens.toOption.map fun tokens =>
      tokens.all fun token => (Grammar.scalarOf token).toOption.isSome) = some true := by
    decide +kernel
  cases htokens : source.tokens with
  | error failure =>
    rw [htokens] at hall
    cases hall
  | ok tokens =>
    rw [htokens] at hall
    have hreadable : ∀ token ∈ tokens, token.Readable := by
      intro token htoken
      have hsome := List.all_eq_true.1 (Option.some.inj hall) token htoken
      unfold Token.Readable
      cases hscalar : Grammar.scalarOf token with
      | ok scalar => exact ⟨scalar, rfl⟩
      | error fault =>
        rw [hscalar] at hsome
        cases hsome
    have hnumerals : ∀ token ∈ tokens,
        token.kind = .int ∨ token.kind = .float → token.Readable :=
      fun token htoken _ => hreadable token htoken
    exact ⟨tokens, rfl, hnumerals, reading_of_tokens htokens hnumerals⟩

end Rune
