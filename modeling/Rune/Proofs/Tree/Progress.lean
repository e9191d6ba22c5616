import Rune.Proofs.Tree.Acceptance
import Rune.Proofs.Tree.Stepwise

/-!
# Rune - the parser goes on

The grammar never stands still.  Each loop takes a token every time around, tokens begin
one after another, and the fuel lasts since each level of nesting takes a token.  So
parsing fails with a complaint, unless a numeral stands for no number.

Main results:

- Definition {lit}`Parse.Proceeds`: at a cursor a step takes at least so many tokens, or it
  fails with a complaint or over a numeral ahead.
- Theorems {lit}`Grammar.valueWith_proceeds`, {lit}`Grammar.membersWith_proceeds` and
  {lit}`Grammar.statementsWith_proceeds`: with enough fuel the nested parts of the grammar do.
- Theorem {lit}`Source.isAbout_of_parse`: how parsing a document fails.
-/

namespace Rune

/-! ## Cursors -/

namespace Cursor

/-- The tokens from a cursor on begin one after another, and only the last one is an end. -/
structure Orderly (cursor : Cursor) : Prop where
  kind_finish : cursor.finish.kind = .eof
  kind_ne : ∀ token ∈ cursor.ahead, token.kind ≠ .eof
  inOrder : (cursor.ahead ++ [cursor.finish]).Pairwise fun a b => a.range.start < b.range.start

/-- A cursor comes to another one by taking at least so many tokens. -/
def Passes (least : Nat) (cursor after : Cursor) : Prop :=
  ∃ word, cursor.ahead = word ++ after.ahead ∧ after.finish = cursor.finish ∧
    least ≤ word.length

variable {cursor mid after : Cursor} {m n : Nat}

/-- Where a token of another kind is at the cursor, it is not the end. -/
theorem kind_ne_eof {kind : TokenKind} (h : cursor.current.kind = kind) (hkind : kind ≠ .eof) :
    cursor.kind ≠ .eof := fun hend => hkind (h.symm.trans hend)

/-- The token at the cursor lies ahead, unless it is the end. -/
theorem exists_ahead (hend : cursor.finish.kind = .eof) (hkind : cursor.kind ≠ .eof) :
    ∃ rest, cursor.ahead = cursor.current :: rest := by
  obtain ⟨source, behind, ahead, finish⟩ := cursor
  cases ahead with
  | nil => exact absurd hend hkind
  | cons token rest => exact ⟨rest, rfl⟩

/-- At the end nothing lies ahead. -/
theorem Orderly.ahead_eq_nil (h : cursor.Orderly)
    (hkind : cursor.kind = .eof) : cursor.ahead = [] := by
  cases hahead : cursor.ahead with
  | nil => rfl
  | cons token rest =>
    have hcurrent : cursor.current = token := by simp [current, hahead]
    exact absurd (hcurrent ▸ hkind) (h.kind_ne token (by simp [hahead]))

namespace Passes

theorem refl (cursor : Cursor) : cursor.Passes 0 cursor := ⟨[], rfl, rfl, Nat.zero_le _⟩

theorem trans (h : cursor.Passes m mid) (h' : mid.Passes n after) :
    cursor.Passes (m + n) after := by
  obtain ⟨word, hahead, hfinish, hlength⟩ := h
  obtain ⟨word', hahead', hfinish', hlength'⟩ := h'
  refine ⟨word ++ word', ?_, hfinish'.trans hfinish, ?_⟩
  · rw [hahead, hahead', List.append_assoc]
  · rw [List.length_append]
    omega

theorem mono (h : cursor.Passes m after) (hle : n ≤ m) : cursor.Passes n after := by
  obtain ⟨word, hahead, hfinish, hlength⟩ := h
  exact ⟨word, hahead, hfinish, Nat.le_trans hle hlength⟩

/-- So many tokens fewer lie ahead. -/
theorem length_le (h : cursor.Passes m after) :
    after.ahead.length + m ≤ cursor.ahead.length := by
  obtain ⟨word, hahead, -, hlength⟩ := h
  rw [hahead, List.length_append]
  omega

/-- What lies ahead lay ahead before. -/
theorem mem_ahead (h : cursor.Passes m after) {token : Token} (htoken : token ∈ after.ahead) :
    token ∈ cursor.ahead := by
  obtain ⟨word, hahead, -, -⟩ := h
  rw [hahead]
  exact List.mem_append_right _ htoken

theorem orderly (h : cursor.Passes m after) (horderly : cursor.Orderly) : after.Orderly := by
  obtain ⟨word, hahead, hfinish, -⟩ := h
  obtain ⟨hkind, hne, horder⟩ := horderly
  refine ⟨hfinish ▸ hkind, fun token htoken => hne token ?_, ?_⟩
  · rw [hahead]
    exact List.mem_append_right _ htoken
  · rw [hahead, List.append_assoc, List.pairwise_append] at horder
    rw [hfinish]
    exact horder.2.1

/-- Taking the token at the cursor. -/
theorem advance (hend : cursor.finish.kind = .eof) (hkind : cursor.kind ≠ .eof) :
    cursor.Passes 1 cursor.advance := by
  obtain ⟨rest, hahead⟩ := exists_ahead hend hkind
  refine ⟨[cursor.current], ?_, ?_, Nat.le_refl _⟩
  · rw [advance_ahead, hahead]
    rfl
  · unfold Cursor.advance
    split <;> rfl

/-- A cursor that has taken a token stands further on. -/
theorem position_lt (h : cursor.Passes 1 after) (horderly : cursor.Orderly) :
    cursor.position < after.position := by
  obtain ⟨word, hahead, hfinish, hlength⟩ := h
  obtain ⟨-, -, horder⟩ := horderly
  obtain ⟨token, word, rfl⟩ := List.exists_cons_of_length_pos hlength
  rw [hahead, List.cons_append, List.cons_append, List.pairwise_cons] at horder
  have hcurrent : cursor.current = token := by simp [current, hahead]
  have hafter : after.current ∈ word ++ after.ahead ++ [cursor.finish] := by
    unfold current
    cases hrest : after.ahead with
    | nil => simp [hfinish]
    | cons other rest => simp
  have hlt := horder.1 _ hafter
  rwa [← hcurrent] at hlt

end Passes

end Cursor

/-! ## Steps -/

/-- A failure is a complaint, or it is about a numeral among tokens that stands for no
number. -/
def Failure.IsAbout (tokens : List Token) (failure : Failure) : Prop :=
  failure.diagnostic?.isSome ∨
    ∃ token ∈ tokens, ∃ fault, Grammar.scalarOf token = .error fault ∧ failure = .fault fault

/-- A loop was last seen before the cursor. -/
def Progress.Precedes (progress : Progress) (cursor : Cursor) : Prop :=
  ∀ offset, progress.lastSeen = some offset → offset < cursor.position

theorem Progress.start_precedes (cursor : Cursor) : Progress.start.Precedes cursor := nofun

/-- A loop that has taken a token was last seen before the cursor. -/
theorem Progress.seen_precedes {cursor after : Cursor} (h : cursor.Passes 1 after)
    (horderly : cursor.Orderly) : (Progress.seen cursor).Precedes after := by
  rintro _ ⟨⟩
  exact h.position_lt horderly

namespace Parse

/-- At a cursor a step takes at least so many tokens if it succeeds, and otherwise it
complains, perhaps about a numeral ahead. -/
def Proceeds {α : Type} (least : Nat) (x : Parse α) (cursor : Cursor) : Prop :=
  cursor.Orderly →
    match x cursor with
    | .ok _ after => cursor.Passes least after
    | .error failure _ => failure.IsAbout cursor.ahead

namespace Proceeds

variable {α β : Type} {cursor : Cursor} {m n : Nat}

theorem pure (a : α) (cursor : Cursor) : Proceeds 0 (pure a) cursor := fun _ => .refl cursor

theorem mono {x : Parse α} (h : Proceeds m x cursor) (hle : n ≤ m) : Proceeds n x cursor := by
  intro horderly
  have hrun := h horderly
  split at hrun
  · exact hrun.mono hle
  · exact hrun

/-- One step after another. -/
theorem bind {x : Parse α} {f : α → Parse β} (hx : Proceeds m x cursor)
    (hf : ∀ a after, cursor.Passes m after → Proceeds n (f a) after) :
    Proceeds (m + n) (x >>= f) cursor := by
  intro horderly
  have first := hx horderly
  simp only [Bind.bind, EStateM.bind]
  cases hrun : x cursor with
  | error failure after =>
    rw [hrun] at first
    exact first
  | ok a next =>
    rw [hrun] at first
    have second := hf a next first (first.orderly horderly)
    dsimp only
    split at second
    · exact first.trans second
    · refine second.imp_right ?_
      rintro ⟨token, htoken, hfault⟩
      exact ⟨token, first.mem_ahead htoken, hfault⟩

/-- The first step takes a token. -/
theorem first {x : Parse α} {f : α → Parse β} (hx : Proceeds 1 x cursor)
    (hf : ∀ a after, cursor.Passes 1 after → Proceeds 0 (f a) after) :
    Proceeds 1 (x >>= f) cursor := hx.bind hf

/-- What the first step takes does not matter. -/
theorem andThen {x : Parse α} {f : α → Parse β} (hx : Proceeds m x cursor)
    (hf : ∀ a after, cursor.Passes m after → Proceeds n (f a) after) :
    Proceeds n (x >>= f) cursor := (hx.bind hf).mono (Nat.le_add_left n m)

theorem ite {c : Prop} [Decidable c] {x y : Parse α} (hx : Proceeds n x cursor)
    (hy : Proceeds n y cursor) : Proceeds n (if c then x else y) cursor := by
  split
  · exact hx
  · exact hy

/-- The order of the tokens ahead may be used. -/
theorem of_orderly {x : Parse α} (h : cursor.Orderly → Proceeds n x cursor) :
    Proceeds n x cursor := fun horderly => h horderly horderly

/-- Looking at the cursor takes no token. -/
theorem look {g : Cursor → α} {f : α → Parse β} (h : Proceeds n (f (g cursor)) cursor) :
    Proceeds n (look g >>= f) cursor := h

theorem complainAt (complaint : Complaint) (range : TextRange) (cursor : Cursor) :
    Proceeds n (complainAt complaint range : Parse α) cursor := fun _ => .inl rfl

theorem complain (complaint : Complaint) (cursor : Cursor) :
    Proceeds n (complain complaint : Parse α) cursor := fun _ => .inl rfl

/-- A token is taken before the end. -/
theorem bump (hkind : cursor.kind ≠ .eof) : Proceeds 1 bump cursor :=
  fun horderly => Cursor.Passes.advance horderly.kind_finish hkind

/-- At the end no token is taken. -/
theorem bump_zero (cursor : Cursor) : Proceeds 0 Parse.bump cursor := by
  by_cases hkind : cursor.kind = .eof
  · intro horderly
    have hadvance : cursor.advance = cursor := by
      rw [Cursor.advance, horderly.ahead_eq_nil hkind]
    have hpasses : cursor.Passes 0 cursor.advance := hadvance.symm ▸ .refl cursor
    exact hpasses
  · exact (bump hkind).mono (Nat.zero_le _)

/-- Whether a token is taken that may stand at the cursor. -/
theorem eat {kind : TokenKind} {f : Bool → Parse β}
    (htrue : ∀ after, cursor.Passes 0 after → Proceeds n (f true) after)
    (hfalse : Proceeds n (f false) cursor) : Proceeds n (eat kind >>= f) cursor := by
  by_cases hkind : cursor.kind = kind
  · have hrun : Parse.eat kind cursor = .ok true cursor.advance := by
      unfold Parse.eat isAt
      rw [look_bind, if_pos (by simpa using hkind)]
      rfl
    intro horderly
    have hpasses := bump_zero cursor horderly
    have hrest := htrue cursor.advance hpasses (hpasses.orderly horderly)
    rw [bind_of_ok hrun]
    split at hrest
    · exact (hpasses.trans hrest).mono (by omega)
    · refine hrest.imp_right ?_
      rintro ⟨token, htoken, hfault⟩
      exact ⟨token, hpasses.mem_ahead htoken, hfault⟩
  · intro horderly
    rw [bind_of_ok (eat_of_ne hkind)]
    exact hfalse horderly

theorem expect (kind : TokenKind) (hkind : kind ≠ .eof) (name : String) (cursor : Cursor) :
    Proceeds 1 (expect kind name) cursor := by
  unfold Parse.expect
  refine look ?_
  by_cases hcurrent : cursor.current.kind = kind
  · rw [if_pos hcurrent]
    exact bump (Cursor.kind_ne_eof hcurrent hkind)
  · rw [if_neg hcurrent]
    exact complain _ _

theorem expect_zero (kind : TokenKind) (name : String) (cursor : Cursor) :
    Proceeds 0 (Parse.expect kind name) cursor := by
  unfold Parse.expect
  exact look (ite (bump_zero cursor) (complain _ _))

/-- A loop that was last seen before the cursor goes on. -/
theorem step {progress : Progress} (hprogress : progress.Precedes cursor)
    {f : Progress → Parse β} (h : Proceeds n (f (.seen cursor)) cursor) :
    Proceeds n (progress.step >>= f) cursor := by
  have hrun : progress.step cursor = .ok (.seen cursor) cursor := by
    unfold Progress.step
    rw [if_pos]
    unfold Progress.hasProgressed
    cases hseen : progress.lastSeen with
    | none => rfl
    | some offset => simpa using hprogress offset hseen
  intro horderly
  rw [bind_of_ok hrun]
  exact h horderly

end Proceeds

end Parse

namespace Grammar

open Parse

variable {cursor : Cursor}

theorem take_proceeds (kind : TokenKind) (fault : Token → GrammarFault) (cursor : Cursor) :
    Proceeds 0 (take kind fault) cursor :=
  .look (.ite (.bump_zero cursor) (.look (.complain _ _)))

/-! ## References and conditions -/

/-- A literal that is a numeral may stand for no number. -/
theorem literal_proceeds (hkind : cursor.kind ≠ .eof) : Proceeds 1 literal cursor := by
  intro horderly
  have hpasses := Cursor.Passes.advance horderly.kind_finish hkind
  obtain ⟨rest, hahead⟩ := Cursor.exists_ahead horderly.kind_finish hkind
  unfold literal
  rw [bind_of_ok (show bump cursor = .ok cursor.current cursor.advance from rfl)]
  cases hscalar : scalarOf cursor.current with
  | ok scalar => exact hpasses
  | error fault => exact .inr ⟨cursor.current, by simp [hahead], fault, hscalar, rfl⟩

theorem string_proceeds (hkind : cursor.kind ≠ .eof) : Proceeds 1 string cursor :=
  (Proceeds.bump hkind).first fun _ _ _ => .pure _ _

theorem segments_proceeds (fuel : Nat) (cursor : Cursor) :
    Proceeds 0 (segments fuel) cursor := by
  induction fuel generalizing cursor with
  | zero => exact .pure _ _
  | succ fuel ih =>
    refine .look (.ite ?_ (.pure _ _))
    exact (Proceeds.bump_zero cursor).andThen fun _ after _ =>
      (take_proceeds _ _ after).andThen fun _ after _ => (ih after).andThen fun _ _ _ => .pure _ _

theorem reference_proceeds (cursor : Cursor) : Proceeds 1 reference cursor := by
  refine (Proceeds.expect .identifier nofun _ cursor).first fun first after _ => .look ?_
  refine (segments_proceeds _ after).andThen fun rest after _ => .look ?_
  split <;> exact .pure _ _

theorem hostReference_proceeds (hkind : cursor.kind ≠ .eof) :
    Proceeds 1 hostReference cursor :=
  (Proceeds.bump hkind).first fun _ after _ => (take_proceeds _ _ after).andThen fun _ after _ =>
    (take_proceeds _ _ after).andThen fun _ _ _ => .look (.pure _ _)

theorem conditionOperand_proceeds (cursor : Cursor) : Proceeds 1 conditionOperand cursor := by
  refine .look ?_
  split
  case h_1 => exact reference_proceeds cursor
  case h_2 hkind | h_3 hkind => exact hostReference_proceeds (Cursor.kind_ne_eof hkind (by decide))
  case h_4 hkind => exact string_proceeds (Cursor.kind_ne_eof hkind (by decide))
  case h_10 => exact .complain _ _
  all_goals
    rename_i hkind
    exact literal_proceeds (Cursor.kind_ne_eof hkind (by decide))

theorem comparison_proceeds (start : TextRange) (left : Operand) (cursor : Cursor) :
    Proceeds 0 (comparison start left) cursor :=
  .eat (fun after _ => (conditionOperand_proceeds after).andThen fun _ _ _ => .look (.pure _ _))
    (.look (.pure _ _))

theorem condition_proceeds (cursor : Cursor) : Proceeds 1 condition cursor := by
  have hrest (parenthesized : Bool) (start : TextRange) (cursor : Cursor) :
      Proceeds 1 (do
        let left ← conditionOperand
        let result ← comparison start left
        if parenthesized then
          let _ ← expect .rightParen "`)` to close condition"
        return result) cursor := by
    refine (conditionOperand_proceeds cursor).first fun left after _ =>
      (comparison_proceeds start left after).andThen fun _ after _ => .ite ?_ (.pure _ _)
    exact (Proceeds.expect_zero _ _ after).andThen fun _ _ _ => .pure _ _
  refine .look (.look (.ite ?_ ?_))
  · exact (Proceeds.complain _ cursor).andThen (m := 0) fun _ after _ =>
      .eat (fun after _ => hrest true _ after) (hrest false _ after)
  · exact .eat (fun after _ => hrest true _ after) (hrest false _ cursor)

/-! ## Values -/

/-- Where a token lies ahead some fuel is left. -/
theorem proceeds_of_no_fuel {α : Type} {x : Parse α} {n : Nat}
    (hfuel : 3 * cursor.ahead.length ≤ 0) (hkind : cursor.kind ≠ .eof) :
    Proceeds n x cursor := by
  refine .of_orderly fun horderly => ?_
  obtain ⟨rest, hahead⟩ := Cursor.exists_ahead horderly.kind_finish hkind
  simp [hahead] at hfuel

/-- Values, arrays, their items and choices proceed where the fuel lasts for the tokens
ahead. -/
structure ValuesProceed (fuel : Nat) : Prop where
  value : ∀ cursor : Cursor, 3 * cursor.ahead.length + 1 ≤ fuel →
    Proceeds 1 (valueWith fuel) cursor
  array : ∀ cursor : Cursor, 3 * cursor.ahead.length ≤ fuel → cursor.kind ≠ .eof →
    Proceeds 1 (arrayWith fuel) cursor
  items : ∀ (cursor : Cursor) (opening : TextRange) (progress : Progress),
    3 * cursor.ahead.length + 2 ≤ fuel → progress.Precedes cursor →
    Proceeds 0 (itemsWith fuel opening progress) cursor
  conditional : ∀ cursor : Cursor, 3 * cursor.ahead.length ≤ fuel → cursor.kind ≠ .eof →
    Proceeds 1 (conditionalWith fuel) cursor

namespace ValuesProceed

variable {fuel : Nat}

theorem zero : ValuesProceed 0 where
  value _ hfuel := by omega
  array _ hfuel hkind := proceeds_of_no_fuel hfuel hkind
  items _ _ _ hfuel := by omega
  conditional _ hfuel hkind := proceeds_of_no_fuel hfuel hkind

theorem value_succ (h : ValuesProceed fuel) (hfuel : 3 * cursor.ahead.length ≤ fuel) :
    Proceeds 1 (valueWith (fuel + 1)) cursor := by
  rw [valueWith]
  refine .look ?_
  split
  case h_1 hkind =>
    exact (string_proceeds (Cursor.kind_ne_eof hkind (by decide))).first fun _ _ _ => .pure _ _
  case h_2 hkind =>
    exact (Proceeds.bump (Cursor.kind_ne_eof hkind (by decide))).first fun _ _ _ => .pure _ _
  case h_8 => exact (reference_proceeds cursor).first fun _ _ _ => .pure _ _
  case h_9 hkind | h_10 hkind =>
    exact (hostReference_proceeds (Cursor.kind_ne_eof hkind (by decide))).first
      fun _ _ _ => .pure _ _
  case h_11 hkind => exact h.array cursor hfuel (Cursor.kind_ne_eof hkind (by decide))
  case h_12 hkind => exact h.conditional cursor hfuel (Cursor.kind_ne_eof hkind (by decide))
  case h_13 => exact .complain _ _
  all_goals
    rename_i hkind
    exact (literal_proceeds (Cursor.kind_ne_eof hkind (by decide))).first fun _ _ _ => .pure _ _

theorem array_succ (h : ValuesProceed fuel) (hfuel : 3 * cursor.ahead.length ≤ fuel + 1)
    (hkind : cursor.kind ≠ .eof) : Proceeds 1 (arrayWith (fuel + 1)) cursor := by
  rw [arrayWith]
  refine (Proceeds.bump hkind).first fun opening after hpasses => ?_
  have hless := hpasses.length_le
  exact (h.items after _ _ (by omega) (Progress.start_precedes after)).andThen fun _ _ _ =>
    .look (.pure _ _)

/-- Each time around the loop of an array takes a token. -/
theorem item (h : ValuesProceed fuel) (opening : TextRange)
    (hfuel : 3 * cursor.ahead.length + 1 ≤ fuel) :
    Proceeds 1 (itemWith fuel opening) cursor := by
  have hend (item : ValueExpr) (after : Cursor) : Proceeds 0 (do
      if !(← eat .comma) then
        let separated ← look fun cursor => cursor.kind = .rightBracket || cursor.lineBreak
        if !separated then fail (.arraySeparator (← look Cursor.current))
      return item) after := by
    refine .eat (fun last _ => .pure _ _) (.look (.ite (.look ?_) (.pure _ _)))
    exact (Proceeds.complain _ after).andThen (m := 0) fun _ _ _ => .pure _ _
  have hitem (after : Cursor) (hafter : cursor.Passes 0 after) : Proceeds 1 (do
      let item ← valueWith fuel
      if !(← eat .comma) then
        let separated ← look fun cursor => cursor.kind = .rightBracket || cursor.lineBreak
        if !separated then fail (.arraySeparator (← look Cursor.current))
      return item) after := by
    have hless := hafter.length_le
    exact (h.value after (by omega)).first fun item last _ => hend item last
  refine .look (.ite ?_ (hitem cursor (.refl cursor)))
  exact (Proceeds.complainAt _ _ cursor).andThen (m := 0) fun _ after hafter => hitem after hafter

theorem items_succ (h : ValuesProceed fuel) (opening : TextRange) {progress : Progress}
    (hfuel : 3 * cursor.ahead.length + 2 ≤ fuel + 1) (hprogress : progress.Precedes cursor) :
    Proceeds 0 (itemsWith (fuel + 1) opening progress) cursor := by
  rw [itemsWith_succ]
  refine .of_orderly fun horderly => .eat (fun after _ => .pure _ _) (.step hprogress ?_)
  refine (h.item opening (by omega)).andThen fun item after hpasses => ?_
  have hless := hpasses.length_le
  -- The item took a token, so that the loop is seen further on the next time.
  exact (h.items after _ _ (by omega) (Progress.seen_precedes hpasses horderly)).andThen
    fun _ _ _ => .pure _ _

theorem conditional_succ (h : ValuesProceed fuel) (hfuel : 3 * cursor.ahead.length ≤ fuel + 1)
    (hkind : cursor.kind ≠ .eof) : Proceeds 1 (conditionalWith (fuel + 1)) cursor := by
  rw [conditionalWith]
  refine (Proceeds.bump hkind).first fun keyword next hnext => ?_
  refine (condition_proceeds next).andThen fun condition after hafter => ?_
  have hless := hnext.length_le
  have hafter := hafter.length_le
  refine (h.value after (by omega)).andThen fun thenValue mid hmid => ?_
  refine .look (.look (.ite ?_ ?_))
  · refine (Proceeds.bump_zero mid).andThen fun _ last hlast => ?_
    have hmid := hmid.length_le
    have hlast := hlast.length_le
    exact (h.value last (by omega)).andThen fun _ _ _ => (Proceeds.pure _ _).andThen
      fun _ _ _ => .look (.pure _ _)
  · exact (Proceeds.pure _ mid).andThen fun _ _ _ => .look (.pure _ _)

end ValuesProceed

theorem valueWith_proceeds (fuel : Nat) : ValuesProceed fuel := by
  induction fuel with
  | zero => exact .zero
  | succ fuel ih =>
    exact {
      value := fun _ hfuel => ih.value_succ (by omega)
      array := fun _ hfuel hkind => ih.array_succ hfuel hkind
      items := fun _ opening _ hfuel hprogress => ih.items_succ opening hfuel hprogress
      conditional := fun _ hfuel hkind => ih.conditional_succ hfuel hkind }

theorem value_proceeds (cursor : Cursor) : Proceeds 1 value cursor :=
  (valueWith_proceeds _).value cursor (by unfold fuelFor; omega)

theorem boundValue_proceeds (cursor : Cursor) : Proceeds 1 boundValue cursor := by
  refine .look (.ite (.look ?_) (value_proceeds cursor))
  exact (Proceeds.complainAt _ _ cursor).andThen (m := 0) fun _ after _ => value_proceeds after

theorem binding_proceeds (hkind : cursor.kind ≠ .eof) : Proceeds 1 binding cursor := by
  have hrest (name : Token) (cursor : Cursor) : Proceeds 0 (do
      let value ← boundValue
      return (name.text, value, ← Parse.rangeFrom name.range)) cursor :=
    (boundValue_proceeds cursor).andThen fun _ _ _ => .look (.pure _ _)
  refine (Proceeds.bump hkind).first fun name after _ => .look (.ite ?_ (hrest name after))
  exact (Proceeds.bump_zero after).andThen fun _ last _ => hrest name last

/-! ## Blocks -/

theorem conditionalEnd_proceeds (keyword : Token) (condition : Condition)
    (thenChildren elseChildren : List Member) (cursor : Cursor) :
    Proceeds 0 (conditionalEnd keyword condition thenChildren elseChildren) cursor := by
  refine .look ?_
  split
  · exact (Proceeds.bump_zero cursor).andThen fun _ _ _ => .look (.pure _ _)
  · exact .complain _ _
  · exact .complainAt _ _ _

/-- Members, one member, blocks and choices between members proceed where the fuel lasts for
the tokens ahead. -/
structure MembersProceed (fuel : Nat) : Prop where
  members : ∀ (cursor : Cursor) (progress : Progress), 3 * cursor.ahead.length + 2 ≤ fuel →
    progress.Precedes cursor → Proceeds 0 (membersWith fuel progress) cursor
  member : ∀ cursor : Cursor, 3 * cursor.ahead.length + 1 ≤ fuel →
    Proceeds 1 (memberWith fuel) cursor
  block : ∀ cursor : Cursor, 3 * cursor.ahead.length ≤ fuel → cursor.kind ≠ .eof →
    Proceeds 1 (blockWith fuel) cursor
  conditional : ∀ cursor : Cursor, 3 * cursor.ahead.length ≤ fuel → cursor.kind ≠ .eof →
    Proceeds 1 (blockConditionalWith fuel) cursor

namespace MembersProceed

variable {fuel : Nat}

theorem zero : MembersProceed 0 where
  members _ _ hfuel := by omega
  member _ hfuel := by omega
  block _ hfuel hkind := proceeds_of_no_fuel hfuel hkind
  conditional _ hfuel hkind := proceeds_of_no_fuel hfuel hkind

theorem members_succ (h : MembersProceed fuel) {progress : Progress}
    (hfuel : 3 * cursor.ahead.length + 2 ≤ fuel + 1) (hprogress : progress.Precedes cursor) :
    Proceeds 0 (membersWith (fuel + 1) progress) cursor := by
  rw [membersWith]
  refine .of_orderly fun horderly => .look (.ite (.pure _ _) (.step hprogress ?_))
  refine (h.member cursor (by omega)).andThen fun member after hpasses => ?_
  have hless := hpasses.length_le
  exact (h.members after _ (by omega) (Progress.seen_precedes hpasses horderly)).andThen
    fun _ _ _ => .pure _ _

theorem member_succ (h : MembersProceed fuel) (hfuel : 3 * cursor.ahead.length ≤ fuel) :
    Proceeds 1 (memberWith (fuel + 1)) cursor := by
  rw [memberWith]
  refine .look ?_
  split
  · rename_i hkind
    have hne := Cursor.kind_ne_eof hkind (by decide)
    refine .look (.ite ?_ ?_)
    · exact (h.block cursor hfuel hne).first fun _ _ _ => .pure _ _
    · exact (binding_proceeds hne).first fun _ _ _ => .pure _ _
  · rename_i hkind
    exact h.conditional cursor hfuel (Cursor.kind_ne_eof hkind (by decide))
  · exact .complain _ _

theorem block_succ (h : MembersProceed fuel) (hfuel : 3 * cursor.ahead.length ≤ fuel + 1) :
    Proceeds 1 (blockWith (fuel + 1)) cursor := by
  rw [blockWith]
  refine (Proceeds.bump_zero cursor).andThen fun name next hnext => ?_
  refine (Proceeds.expect .colon (by decide) _ next).first fun _ after hafter => ?_
  have hnext := hnext.length_le
  have hless := hafter.length_le
  refine (h.members after _ (by omega) (Progress.start_precedes after)).andThen
    fun children last _ => .look ?_
  split
  · exact (Proceeds.bump_zero last).andThen fun _ _ _ => .look (.pure _ _)
  · exact .complainAt _ _ _
  · exact .complain _ _

theorem conditional_succ (h : MembersProceed fuel) (hfuel : 3 * cursor.ahead.length ≤ fuel + 1) :
    Proceeds 1 (blockConditionalWith (fuel + 1)) cursor := by
  rw [blockConditionalWith]
  refine (Proceeds.bump_zero cursor).andThen fun keyword next hnext => ?_
  refine (condition_proceeds next).first fun condition after hafter => ?_
  refine (Proceeds.expect_zero _ _ after).andThen fun _ mid hmid => ?_
  have hless : 3 * mid.ahead.length + 2 ≤ fuel := by
    have hnext := hnext.length_le
    have hafter := hafter.length_le
    have hmid := hmid.length_le
    omega
  refine (h.members mid _ hless (Progress.start_precedes mid)).andThen
    fun thenChildren last hlast => ?_
  refine .eat (fun first hfirst => ?_) ?_
  · refine (Proceeds.expect_zero _ _ first).andThen fun _ second hsecond => ?_
    have hlast := hlast.length_le
    have hfirst := hfirst.length_le
    have hsecond := hsecond.length_le
    refine (h.members second _ (by omega) (Progress.start_precedes second)).andThen
      fun elseChildren third _ => .look (.ite ?_ ?_)
    · exact (Proceeds.complain _ third).andThen (m := 0) fun _ _ _ =>
        (Proceeds.pure _ _).andThen fun _ _ _ => conditionalEnd_proceeds _ _ _ _ _
    · exact (Proceeds.pure _ third).andThen fun _ _ _ => conditionalEnd_proceeds _ _ _ _ _
  · exact (Proceeds.pure _ last).andThen fun _ _ _ => conditionalEnd_proceeds _ _ _ _ _

end MembersProceed

theorem membersWith_proceeds (fuel : Nat) : MembersProceed fuel := by
  induction fuel with
  | zero => exact .zero
  | succ fuel ih =>
    exact {
      members := fun _ _ hfuel hprogress => ih.members_succ hfuel hprogress
      member := fun _ hfuel => ih.member_succ (by omega)
      block := fun _ hfuel _ => ih.block_succ hfuel
      conditional := fun _ hfuel _ => ih.conditional_succ hfuel }

theorem block_proceeds (cursor : Cursor) : Proceeds 1 block cursor :=
  (membersWith_proceeds _).block_succ (by omega)

theorem blockConditional_proceeds (cursor : Cursor) : Proceeds 1 blockConditional cursor :=
  (membersWith_proceeds _).conditional_succ (by omega)

/-! ## Statements -/

theorem metadata_proceeds (hkind : cursor.kind ≠ .eof) : Proceeds 1 metadata cursor :=
  (Proceeds.bump hkind).first fun _ after _ => (take_proceeds _ _ after).andThen fun _ after _ =>
    (boundValue_proceeds after).andThen fun _ _ _ => .look (.pure _ _)

theorem gather_proceeds (hkind : cursor.kind ≠ .eof) : Proceeds 1 gather cursor := by
  refine (Proceeds.bump hkind).first fun _ after _ =>
    (take_proceeds _ _ after).andThen fun _ after _ => .look (.ite ?_ ?_)
  · exact (Proceeds.bump_zero after).andThen fun _ after _ =>
      (Proceeds.expect_zero _ _ after).andThen fun _ _ _ => (Proceeds.pure _ _).andThen
        fun _ _ _ => .look (.pure _ _)
  · exact (Proceeds.pure _ after).andThen fun _ _ _ => .look (.pure _ _)

theorem statement_proceeds (cursor : Cursor) : Proceeds 1 statement cursor := by
  refine .look ?_
  split
  case h_1 hkind => exact metadata_proceeds (Cursor.kind_ne_eof hkind (by decide))
  case h_2 hkind =>
    exact (gather_proceeds (Cursor.kind_ne_eof hkind (by decide))).first fun _ _ _ => .pure _ _
  case h_3 hkind =>
    have hne := Cursor.kind_ne_eof hkind (by decide)
    refine .look (.ite ?_ ?_)
    · exact (block_proceeds cursor).first fun _ _ _ => .pure _ _
    · exact (binding_proceeds hne).first fun _ _ _ => .pure _ _
  all_goals exact .complain _ _

theorem statementsWith_proceeds (fuel : Nat) {cursor : Cursor} {progress : Progress}
    (hfuel : cursor.ahead.length + 1 ≤ fuel) (hprogress : progress.Precedes cursor) :
    Proceeds 0 (statementsWith fuel progress) cursor := by
  induction fuel generalizing cursor progress with
  | zero => omega
  | succ fuel ih =>
    refine .of_orderly fun horderly => .look (.ite (.pure _ _) (.step hprogress ?_))
    refine (statement_proceeds cursor).andThen fun _ after hpasses => ?_
    have hless := hpasses.length_le
    exact (ih (by omega) (Progress.seen_precedes hpasses horderly)).andThen fun _ _ _ => .pure _ _

theorem document_proceeds (cursor : Cursor) : Proceeds 0 document cursor :=
  statementsWith_proceeds _ (by unfold fuelFor; omega) (Progress.start_precedes cursor)

end Grammar

/-! ## Documents -/

/-- Reading a token fails with a complaint about it; a token does not begin before the place
of the lexer. -/
theorem Lexer.next_cases (lexer : Lexer) :
    (∃ diagnostic after, lexer.next = (.error (.lexical diagnostic), after)) ∨
      ∃ token after, lexer.next = (.ok token, after) ∧ lexer.position ≤ token.range.start := by
  unfold next
  dsimp only
  split
  · exact .inr ⟨_, _, rfl, Nat.le_add_right _ _⟩
  · split
    · exact .inr ⟨_, _, rfl, Nat.le_add_right _ _⟩
    · exact .inl ⟨_, _, rfl⟩

/-- Reading tokens fails with a complaint about one of them.  Otherwise they begin one after
another, the end included. -/
theorem Lexer.tokens_cases (lexer : Lexer) :
    (∃ diagnostic, lexer.tokens = .error (.lexical diagnostic)) ∨
      ∃ tokens, lexer.tokens = .ok tokens ∧
        (∀ token ∈ tokens, lexer.position ≤ token.range.start) ∧
        tokens.Pairwise fun a b => a.range.start < b.range.start := by
  fun_induction Lexer.tokens lexer with
  | case1 lexer failure after hnext =>
    rcases lexer.next_cases with ⟨diagnostic, _, h⟩ | ⟨_, _, h, -⟩
    · rw [hnext] at h
      cases h
      exact .inl ⟨diagnostic, rfl⟩
    · rw [hnext] at h
      cases h
  | case2 lexer token after hnext _ =>
    rcases lexer.next_cases with ⟨_, _, h⟩ | ⟨_, _, h, hle⟩
    · rw [hnext] at h
      cases h
    · rw [hnext] at h
      cases h
      exact .inr ⟨_, rfl, by simpa using hle, by simp⟩
  | case3 lexer token after hnext hkind _ rest hrest ih =>
    obtain ⟨hstart, hafter⟩ := start_of_next hnext hkind
    rcases ih with ⟨_, h⟩ | ⟨tokens, h, hle, horder⟩
    · rw [hrest] at h
      cases h
    · rw [hrest] at h
      cases h
      have hlt : ∀ other ∈ rest, token.range.start < other.range.start := fun other hother =>
        Nat.lt_of_lt_of_le hafter (hle other hother)
      refine .inr ⟨_, rfl, ?_, .cons hlt horder⟩
      simpa using ⟨hstart, fun other hother =>
        Nat.le_of_lt (Nat.lt_of_le_of_lt hstart (hlt other hother))⟩
  | case4 lexer token after _ _ _ failure hrest ih =>
    rcases ih with ⟨diagnostic, h⟩ | ⟨_, h, -⟩
    · rw [hrest] at h
      cases h
      exact .inl ⟨diagnostic, rfl⟩
    · rw [hrest] at h
      cases h

/-- The tokens of a source begin one after another, the end included. -/
theorem Source.pairwise_of_tokens {source : Source} {tokens : List Token}
    (h : source.tokens = .ok tokens) :
    tokens.Pairwise fun a b => a.range.start < b.range.start := by
  obtain ⟨_, herror⟩ | ⟨_, hok, -, horder⟩ := Lexer.tokens_cases (.ofSource source)
  · exact absurd (h.symm.trans herror) nofun
  · cases h.symm.trans hok
    exact horder

/-- Parsing a document fails with a complaint, or over one of its numerals that stands for no
number. -/
theorem Source.isAbout_of_parse {source : Source} {failure : Failure}
    (h : source.parse = .error failure) :
    failure.diagnostic?.isSome ∨ ∃ tokens, source.tokens = .ok tokens ∧ failure.IsAbout tokens := by
  rcases Lexer.tokens_cases (.ofSource source) with
    ⟨diagnostic, htokens⟩ | ⟨tokens, htokens, -, horder⟩
  · have htokens : source.tokens = .error (.lexical diagnostic) := htokens
    cases h.symm.trans (parse_of_tokens_error htokens)
    exact .inl rfl
  · have htokens : source.tokens = .ok tokens := htokens
    obtain ⟨word, finish, rfl, hword⟩ := areTokens_of_tokens htokens
    obtain ⟨after, hdocument⟩ := (parse_eq_error htokens hword.kind_finish).1 h
    have hrun := Grammar.document_proceeds ⟨source, [], word, finish⟩
      ⟨hword.kind_finish, hword.kind_ne, horder⟩
    rw [hdocument] at hrun
    refine .inr ⟨_, htokens, hrun.imp_right ?_⟩
    rintro ⟨token, htoken, hfault⟩
    exact ⟨token, List.mem_append_left _ htoken, hfault⟩

end Rune
