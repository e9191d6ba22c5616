import Rune.Proofs.Tree.Taking

/-!
# Rune - what is read is in the language

Whatever a step of the grammar reads is spelled by the word that it takes.  The steps
recur on their fuel, and so do the proofs; what the fuel is does not matter here.

Main results:

- Theorems {lit}`Grammar.valueWith_sound` and {lit}`Grammar.membersWith_sound`: values and
  members are spelled by the words that were taken for them.
- Theorem {lit}`Grammar.statementsWith_sound`: a document is spelled by the tokens before the
  end.
-/

namespace Rune

namespace Grammar

open Parse Sentence

variable {cursor after : Cursor}

/-- A step that succeeds ends with a property. -/
def Ends {α : Type} (x : Parse α) (cursor : Cursor) (post : α → Cursor → Prop) : Prop :=
  ∀ a after, x cursor = .ok a after → post a after

namespace Ends

variable {α β : Type} {post : α → Cursor → Prop}

/-- Going on after a look at the cursor. -/
theorem look {g : Cursor → β} {f : β → Parse α} (h : Ends (f (g cursor)) cursor post) :
    Ends (look g >>= f) cursor post := h

/-- Going on after a step that succeeds. -/
theorem bind {x : Parse β} {f : β → Parse α}
    (h : ∀ b mid, x cursor = .ok b mid → Ends (f b) mid post) : Ends (x >>= f) cursor post := by
  intro a after hrun
  obtain ⟨b, mid, hx, hf⟩ := bind_eq_ok_iff.1 hrun
  exact h b mid hx a after hf

theorem fail (fault : GrammarFault) : Ends (Grammar.fail fault) cursor post := by
  intro a after h
  cases h

theorem failAt (fault : GrammarFault) (range : TextRange) :
    Ends (Grammar.failAt fault range) cursor post := by
  intro a after h
  cases h

theorem stall : Ends Grammar.stall cursor post := by
  intro a after h
  cases h

end Ends

/-- A step takes words of the language. -/
def Reads {α : Type} (x : Parse α) (cursor : Cursor) (language : List Token → α → Prop) : Prop :=
  cursor.finish.kind = .eof → Ends x cursor fun a after =>
    ∃ word, Takes cursor word after ∧ language word a

/-! ## Operands and conditions -/

theorem segments_sound (fuel : Nat) (cursor : Cursor) :
    Reads (segments fuel) cursor AreSegments := by
  induction fuel generalizing cursor with
  | zero =>
    intro _ names after h
    cases h
    exact ⟨[], .nil _, .nil⟩
  | succ fuel ih =>
    intro hend names after h
    rw [segments, isAtOnLine_bind] at h
    by_cases hdot : cursor.current.IsOnLine .dot
    · rw [if_pos (decide_eq_true hdot)] at h
      obtain ⟨dot, _, hbump, h⟩ := bind_eq_ok_iff.1 h
      obtain ⟨segment, _, htake, h⟩ := bind_eq_ok_iff.1 h
      obtain ⟨rest, _, hrest, h⟩ := bind_eq_ok_iff.1 h
      cases h
      obtain ⟨rfl, first⟩ := bump_eq_ok hend (by rw [Cursor.kind, hdot.1]; rfl) hbump
      have hend' := first.finish_kind hend
      obtain ⟨hsegment, second⟩ := take_eq_ok hend' rfl htake
      obtain ⟨word, third, hword⟩ := ih _ (second.finish_kind hend') _ _ hrest
      exact ⟨_, first.cons (second.cons third), .cons hdot hsegment hword⟩
    · rw [if_neg (by simpa using hdot)] at h
      cases h
      exact ⟨[], .nil _, .nil⟩

theorem reference_sound (cursor : Cursor) : Reads reference cursor IsOperand := by
  intro hend operand after h
  obtain ⟨first, _, hfirst, h⟩ := bind_eq_ok_iff.1 h
  rw [look_bind] at h
  obtain ⟨names, _, hnames, h⟩ := bind_eq_ok_iff.1 h
  obtain ⟨hkind, hfirst⟩ := expect_eq_ok hend rfl hfirst
  obtain ⟨word, hrest, hword⟩ := segments_sound _ _ (hfirst.finish_kind hend) _ _ hnames
  have htakes := hfirst.cons hrest
  rw [htakes.rangeFrom_bind (by simp)] at h
  cases names <;> cases h <;> exact ⟨_, htakes, .reference hkind hword⟩

theorem hostReference_sound (cursor : Cursor) (hmarker : cursor.kind = .env ∨ cursor.kind = .sys) :
    Reads hostReference cursor IsOperand := by
  intro hend operand after h
  obtain ⟨marker, _, hbump, h⟩ := bind_eq_ok_iff.1 h
  obtain ⟨dot, _, hdot, h⟩ := bind_eq_ok_iff.1 h
  obtain ⟨name, _, hname, h⟩ := bind_eq_ok_iff.1 h
  have hplain : cursor.kind.isPlain := by rcases hmarker with hkind | hkind <;> rw [hkind] <;> rfl
  obtain ⟨rfl, first⟩ := bump_eq_ok hend hplain hbump
  have hend' := first.finish_kind hend
  obtain ⟨hdot, second⟩ := take_eq_ok hend' rfl hdot
  obtain ⟨hidentifier, third⟩ := take_eq_ok (second.finish_kind hend') rfl hname
  have htakes := first.cons (second.cons third)
  rw [htakes.rangeFrom_bind (by simp)] at h
  cases h
  exact ⟨_, htakes, .host hmarker hdot hidentifier⟩

theorem string_sound (cursor : Cursor) (hkind : cursor.kind = .string) :
    Reads string cursor IsOperand := by
  intro hend operand after h
  obtain ⟨token, _, hbump, h⟩ := bind_eq_ok_iff.1 h
  cases h
  obtain ⟨rfl, htakes⟩ := bump_eq_ok hend (by rw [hkind]; rfl) hbump
  exact ⟨_, htakes, .string hkind⟩

theorem literal_sound (cursor : Cursor) {kind : TokenKind} (heq : cursor.current.kind = kind)
    (hscalarKind : isScalarKind kind) : Reads literal cursor IsOperand := by
  have hkind : isScalarKind cursor.kind := by rw [Cursor.kind, heq, hscalarKind]
  intro hend operand after h
  obtain ⟨token, _, hbump, h⟩ := bind_eq_ok_iff.1 h
  cases hbump
  cases hscalar : scalarOf cursor.current with
  | error fault =>
    rw [hscalar] at h
    cases h
  | ok scalar =>
    rw [hscalar] at h
    cases h
    have hreadable : cursor.current.Readable := ⟨scalar, hscalar⟩
    have hne : cursor.kind ≠ .eof := fun heof => by simp [heof, isScalarKind] at hkind
    obtain rfl : cursor.current.scalar = scalar := by
      simp [Token.scalar, hscalar, Except.toOption]
    exact ⟨_, takes_advance hend hne hreadable, .literal hkind⟩

theorem conditionOperand_sound (cursor : Cursor) : Reads conditionOperand cursor IsOperand := by
  refine fun hend => Ends.look ?_
  split
  case h_1 => exact reference_sound _ hend
  case h_2 hkind => exact hostReference_sound _ (.inl hkind) hend
  case h_3 hkind => exact hostReference_sound _ (.inr hkind) hend
  case h_4 hkind => exact string_sound _ hkind hend
  case h_5 hkind => exact literal_sound _ hkind rfl hend
  case h_6 hkind => exact literal_sound _ hkind rfl hend
  case h_7 hkind => exact literal_sound _ hkind rfl hend
  case h_8 hkind => exact literal_sound _ hkind rfl hend
  case h_9 hkind => exact literal_sound _ hkind rfl hend
  case h_10 => exact .fail _

theorem comparison_sound {start : TextRange} {left : Operand} {word : List Token}
    {before : Cursor} (hleft : IsOperand word left) (htakes : Takes before word cursor)
    (hend : cursor.finish.kind = .eof) {condition : Condition}
    (h : comparison start left cursor = .ok condition after) :
    ∃ word', Takes before (word ++ word') after ∧
      IsComparison start (word ++ word') condition := by
  obtain ⟨first, rest, rfl, -⟩ := hleft.starts
  obtain ⟨found, _, heat, hrest⟩ := bind_eq_ok_iff.1 h
  rcases eat_eq_ok hend rfl heat with ⟨rfl, equal, hequal, second⟩ | ⟨rfl, -, hsame⟩
  · obtain ⟨right, _, hright, hrest⟩ := bind_eq_ok_iff.1 hrest
    obtain ⟨word', third, hword'⟩ :=
      conditionOperand_sound _ (second.finish_kind hend) _ _ hright
    have hall := htakes.append (second.cons third)
    rw [hall.rangeFrom_bind (by simp)] at hrest
    cases hrest
    exact ⟨_, hall, .equality hleft hequal hword'⟩
  · rw [hsame, if_neg (by simp), htakes.rangeFrom_bind (by simp)] at hrest
    cases hrest
    exact ⟨[], by simpa using htakes, by simpa using IsComparison.presence hleft⟩

theorem condition_sound (cursor : Cursor) : Reads condition cursor IsCondition := by
  intro hend result after h
  unfold condition at h
  rw [look_bind, look_bind] at h
  cases hline : cursor.lineBreak with
  | true =>
    rw [hline] at h
    cases h
  | false =>
    rw [hline] at h
    obtain ⟨found, _, heat, h⟩ := bind_eq_ok_iff.1 h
    obtain ⟨left, _, hleft, h⟩ := bind_eq_ok_iff.1 h
    obtain ⟨inner, _, hcomparison, hrest⟩ := bind_eq_ok_iff.1 h
    rcases eat_eq_ok hend rfl heat with ⟨rfl, opening, hopening, first⟩ | ⟨rfl, -, hsame⟩
    · have hend' := first.finish_kind hend
      obtain ⟨word, second, hword⟩ := conditionOperand_sound _ hend' _ _ hleft
      have hend'' := second.finish_kind hend'
      obtain ⟨word', third, hinner⟩ := comparison_sound hword second hend'' hcomparison
      obtain ⟨closing, _, hclosing, hlast⟩ := bind_eq_ok_iff.1 hrest
      cases hlast
      obtain ⟨hclosing, fourth⟩ := expect_eq_ok (third.finish_kind hend') rfl hclosing
      obtain rfl : cursor.current = opening := first.current_eq
      exact ⟨_, first.cons (third.append fourth),
        .parenthesized ⟨hopening, hline⟩ hinner hclosing⟩
    · cases hrest
      rw [hsame] at hleft
      obtain ⟨word, second, hword⟩ := conditionOperand_sound _ hend _ _ hleft
      obtain ⟨word', third, hinner⟩ :=
        comparison_sound hword second (second.finish_kind hend) hcomparison
      obtain ⟨token, rest, rfl, -⟩ := hword.starts
      obtain rfl : cursor.current = token := second.current_eq
      exact ⟨_, third, .bare hline hinner⟩

/-! ## Values -/

/-- Items and the bracket that closes them. -/
def AreClosedItems (word : List Token) (items : List ValueExpr) : Prop :=
  ∃ word' closing, word = word' ++ [closing] ∧ closing.kind = .rightBracket ∧ AreItems word' items

/-- A step reads a value, and it does not leave an `else` ahead that belongs to the value. -/
def ReadsValue (x : Parse ValueExpr) (cursor : Cursor) : Prop :=
  cursor.finish.kind = .eof → Ends x cursor fun value after =>
    ∃ word, Takes cursor word after ∧ IsValue word value ∧
      (endsOpen value = true → ¬ after.IsAtElse)

/-- An operand is a value. -/
theorem Reads.operand {x : Parse Operand} {cursor : Cursor} (hx : Reads x cursor IsOperand) :
    ReadsValue (x >>= fun operand => pure (.operand operand)) cursor := by
  intro hend value after h
  obtain ⟨operand, _, hrun, hpure⟩ := bind_eq_ok_iff.1 h
  cases hpure
  obtain ⟨word, htakes, hword⟩ := hx hend _ _ hrun
  exact ⟨word, htakes, .operand hword, nofun⟩

theorem step_eq_ok {progress next : Progress} (h : progress.step cursor = .ok next after) :
    after = cursor := by
  unfold Progress.step at h
  split at h <;> cases h
  rfl

/-- Items after one item: a comma or a line break stands between them. -/
theorem AreClosedItems.cons {word word' : List Token} {item : ValueExpr}
    {items : List ValueExpr} {before : Cursor} (hitem : IsValue word item)
    (hitems : AreClosedItems word' items) (htakes : Takes before word' after)
    (hseparated : before.kind = .rightBracket ∨ before.lineBreak = true) :
    AreClosedItems (word ++ word') (item :: items) := by
  obtain ⟨word', closing, rfl, hclosing, hitems⟩ := hitems
  refine ⟨word ++ word', closing, by simp, hclosing, ?_⟩
  rcases hitems.starts with ⟨rfl, rfl⟩ | ⟨first, rest, rfl, hfirst⟩
  · simpa using AreItems.last hitem
  · rw [htakes.kind_eq, htakes.lineBreak_eq] at hseparated
    rcases hseparated with hkind | hline
    · simp [hkind, startsValue, startsOperand] at hfirst
    · exact .lineBreak hitem hline hitems

/-! Values, arrays, items and choices call each other with less fuel. -/

theorem valueWith_sound_succ {fuel : Nat}
    (harray : ∀ cursor, cursor.kind = .leftBracket → ReadsValue (arrayWith fuel) cursor)
    (hchoice : ∀ cursor, cursor.kind = .ifWord → ReadsValue (conditionalWith fuel) cursor)
    (cursor : Cursor) : ReadsValue (valueWith (fuel + 1)) cursor := by
  intro hend
  rw [valueWith]
  refine Ends.look ?_
  split
  case h_1 hkind => exact (string_sound _ hkind).operand hend
  case h_2 hkind =>
    intro result after h
    obtain ⟨token, _, hbump, h⟩ := bind_eq_ok_iff.1 h
    cases h
    have hplain : cursor.kind.isPlain := by rw [Cursor.kind, hkind]; rfl
    obtain ⟨rfl, htakes⟩ := bump_eq_ok hend hplain hbump
    exact ⟨_, htakes, .rawString hkind, fun hopen => absurd hopen Bool.false_ne_true⟩
  case h_3 hkind => exact (literal_sound _ hkind rfl).operand hend
  case h_4 hkind => exact (literal_sound _ hkind rfl).operand hend
  case h_5 hkind => exact (literal_sound _ hkind rfl).operand hend
  case h_6 hkind => exact (literal_sound _ hkind rfl).operand hend
  case h_7 hkind => exact (literal_sound _ hkind rfl).operand hend
  case h_8 => exact (reference_sound _).operand hend
  case h_9 hkind => exact (hostReference_sound _ (.inl hkind)).operand hend
  case h_10 hkind => exact (hostReference_sound _ (.inr hkind)).operand hend
  case h_11 hkind => exact harray _ hkind hend
  case h_12 hkind => exact hchoice _ hkind hend
  case h_13 => exact .fail _

theorem arrayWith_sound_succ {fuel : Nat}
    (hitems : ∀ opening progress cursor,
      Reads (itemsWith fuel opening progress) cursor AreClosedItems)
    (cursor : Cursor) (hkind : cursor.kind = .leftBracket) :
    ReadsValue (arrayWith (fuel + 1)) cursor := by
  intro hend result after h
  rw [arrayWith] at h
  obtain ⟨opening, _, hbump, h⟩ := bind_eq_ok_iff.1 h
  obtain ⟨items, _, hrun, h⟩ := bind_eq_ok_iff.1 h
  obtain ⟨rfl, first⟩ := bump_eq_ok hend (by rw [hkind]; rfl) hbump
  obtain ⟨word, second, word', closing, rfl, hclosing, hword⟩ :=
    hitems _ _ _ (first.finish_kind hend) _ _ hrun
  have htakes := first.cons second
  rw [htakes.rangeFrom_bind (by simp)] at h
  cases h
  exact ⟨_, htakes, .array hkind hword hclosing, nofun⟩

theorem itemsWith_sound_succ {fuel : Nat} (hvalue : ∀ cursor, ReadsValue (valueWith fuel) cursor)
    (hitems : ∀ opening progress cursor,
      Reads (itemsWith fuel opening progress) cursor AreClosedItems)
    (opening : TextRange) (progress : Progress) (cursor : Cursor) :
    Reads (itemsWith (fuel + 1) opening progress) cursor AreClosedItems := by
  intro hend items after h
  rw [itemsWith] at h
  obtain ⟨found, _, heat, h⟩ := bind_eq_ok_iff.1 h
  rcases eat_eq_ok hend rfl heat with ⟨rfl, closing, hclosing, first⟩ | ⟨rfl, -, hsame⟩
  · cases h
    exact ⟨_, first, [], closing, rfl, hclosing, .nil⟩
  rw [hsame, if_neg (by simp)] at h
  obtain ⟨next, _, hstep, h⟩ := bind_eq_ok_iff.1 h
  rw [step_eq_ok hstep, isAt, look_bind] at h
  by_cases heof : cursor.kind = .eof
  · rw [if_pos (by simpa using heof)] at h
    cases h
  rw [if_neg (by simpa using heof)] at h
  obtain ⟨item, before, hitem, h⟩ := bind_eq_ok_iff.1 h
  obtain ⟨word, first, hitem, -⟩ := hvalue _ hend _ _ hitem
  have hend' := first.finish_kind hend
  obtain ⟨found, _, heat, h⟩ := bind_eq_ok_iff.1 h
  rcases eat_eq_ok hend' rfl heat with ⟨rfl, comma, hcomma, second⟩ | ⟨rfl, -, hsame⟩
  · obtain ⟨rest, _, hrest, h⟩ := bind_eq_ok_iff.1 h
    cases h
    obtain ⟨word', third, word'', closing, rfl, hclosing, hrest⟩ :=
      hitems _ _ _ (second.finish_kind hend') _ _ hrest
    exact ⟨_, first.append (second.cons third), _, closing, by simp, hclosing,
      .comma hitem hcomma hrest⟩
  · rw [hsame, if_pos (by simp), look_bind] at h
    by_cases hseparated : before.kind = .rightBracket ∨ before.lineBreak = true
    · rw [if_neg (by simpa [Decidable.or_iff_not_imp_left] using hseparated)] at h
      obtain ⟨rest, _, hrest, h⟩ := bind_eq_ok_iff.1 h
      cases h
      obtain ⟨word', second, hrest⟩ := hitems _ _ _ hend' _ _ hrest
      exact ⟨_, first.append second, .cons hitem hrest second hseparated⟩
    · rw [if_pos (by simpa using hseparated)] at h
      cases h

theorem conditionalWith_sound_succ {fuel : Nat}
    (hvalue : ∀ cursor, ReadsValue (valueWith fuel) cursor) (cursor : Cursor)
    (hkind : cursor.kind = .ifWord) : ReadsValue (conditionalWith (fuel + 1)) cursor := by
  intro hend result after h
  rw [conditionalWith] at h
  obtain ⟨keyword, _, hbump, h⟩ := bind_eq_ok_iff.1 h
  obtain ⟨test, _, htest, h⟩ := bind_eq_ok_iff.1 h
  obtain ⟨thenValue, mid, hthen, h⟩ := bind_eq_ok_iff.1 h
  obtain ⟨rfl, first⟩ := bump_eq_ok hend (by rw [hkind]; rfl) hbump
  have hend₁ := first.finish_kind hend
  obtain ⟨word, second, htest⟩ := condition_sound _ hend₁ _ _ htest
  have hend₂ := second.finish_kind hend₁
  obtain ⟨word', third, hthenValue, hclosed⟩ := hvalue _ hend₂ _ _ hthen
  have hend₃ := third.finish_kind hend₂
  rw [isAt, look_bind, isBeforeColon, look_bind] at h
  by_cases helse : mid.IsAtElse
  · rw [if_pos (by simpa [Cursor.IsAtElse] using helse)] at h
    obtain ⟨elseWord, _, hbump, h⟩ := bind_eq_ok_iff.1 h
    obtain ⟨elseValue, last, helseValue, h⟩ := bind_eq_ok_iff.1 h
    obtain ⟨rfl, fourth⟩ := bump_eq_ok hend₃ (by rw [helse.1]; rfl) hbump
    obtain ⟨word'', fifth, hotherValue, hstops⟩ :=
      hvalue _ (fourth.finish_kind hend₃) _ _ helseValue
    have htakes := first.cons (second.append (third.append (fourth.cons fifth)))
    rw [pure_bind] at h
    dsimp only at h
    rw [htakes.rangeFrom_bind (by simp)] at h
    cases h
    have hopen : endsOpen thenValue = false := by simpa using fun h => hclosed h helse
    exact ⟨_, htakes, .choiceElse hkind htest hthenValue hopen helse.1 hotherValue, hstops⟩
  · rw [if_neg (by simpa [Cursor.IsAtElse] using helse)] at h
    have htakes := first.cons (second.append third)
    rw [pure_bind] at h
    dsimp only at h
    rw [htakes.rangeFrom_bind (by simp)] at h
    cases h
    exact ⟨_, htakes, .choice hkind htest hthenValue, fun _ => helse⟩

/-- Values, arrays, items and choices, with the same fuel. -/
theorem valueWith_sound (fuel : Nat) :
    (∀ cursor, ReadsValue (valueWith fuel) cursor) ∧
      (∀ cursor, cursor.kind = .leftBracket → ReadsValue (arrayWith fuel) cursor) ∧
      (∀ opening progress cursor,
        Reads (itemsWith fuel opening progress) cursor AreClosedItems) ∧
      ∀ cursor, cursor.kind = .ifWord → ReadsValue (conditionalWith fuel) cursor := by
  induction fuel with
  | zero =>
    simp only [valueWith, arrayWith, itemsWith, conditionalWith]
    exact ⟨fun _ _ => .stall, fun _ _ _ => .stall, fun _ _ _ _ => .stall, fun _ _ _ => .stall⟩
  | succ fuel ih =>
    obtain ⟨hvalue, harray, hitems, hchoice⟩ := ih
    exact ⟨valueWith_sound_succ harray hchoice, arrayWith_sound_succ hitems,
      itemsWith_sound_succ hvalue hitems, conditionalWith_sound_succ hvalue⟩

/-- A value on the line of its key. -/
theorem boundValue_sound (hend : cursor.finish.kind = .eof) {value : ValueExpr}
    (h : boundValue cursor = .ok value after) :
    ∃ first word, Takes cursor (first :: word) after ∧ first.lineBreakBefore = false ∧
      IsValue (first :: word) value := by
  unfold boundValue at h
  rw [look_bind] at h
  by_cases hstop : cursor.kind = .eof ∨ cursor.lineBreak = true
  · rw [if_pos (by simpa using hstop)] at h
    cases h
  · rw [if_neg (by simpa using hstop)] at h
    obtain ⟨word, htakes, hvalue, -⟩ := (valueWith_sound _).1 cursor hend _ _ h
    obtain ⟨first, rest, rfl, -⟩ := hvalue.starts
    have hline : cursor.lineBreak = false := by simpa using fun h => hstop (.inr h)
    exact ⟨first, rest, htakes, by rwa [← htakes.lineBreak_eq], hvalue⟩

theorem binding_sound (hkind : cursor.kind = .identifier) : Reads binding cursor IsBinding := by
  intro hend result after h
  obtain ⟨name, _, hbump, h⟩ := bind_eq_ok_iff.1 h
  obtain ⟨rfl, first⟩ := bump_eq_ok hend (by rw [hkind]; rfl) hbump
  have hend₁ := first.finish_kind hend
  rw [isAtOnLine_bind] at h
  split at h
  · rename_i hequal
    obtain ⟨equal, _, hbump, h⟩ := bind_eq_ok_iff.1 h
    obtain ⟨value, _, hvalue, h⟩ := bind_eq_ok_iff.1 h
    have hequal := of_decide_eq_true hequal
    obtain ⟨rfl, second⟩ := bump_eq_ok hend₁ (by rw [Cursor.kind, hequal.1]; rfl) hbump
    obtain ⟨token, word, third, hline, hword⟩ :=
      boundValue_sound (second.finish_kind hend₁) hvalue
    have htakes := first.cons (second.cons third)
    rw [htakes.rangeFrom_bind (by simp)] at h
    cases h
    exact ⟨_, htakes, .assigned hkind hequal hline hword⟩
  · obtain ⟨value, _, hvalue, h⟩ := bind_eq_ok_iff.1 h
    obtain ⟨token, word, second, hline, hword⟩ := boundValue_sound hend₁ hvalue
    have htakes := first.cons second
    rw [htakes.rangeFrom_bind (by simp)] at h
    cases h
    exact ⟨_, htakes, .plain hkind hline hword⟩

/-! ## Members -/

/-- A choice between members ends with `endif`. -/
theorem conditionalEnd_sound (keyword : Token) (test : Condition)
    (children elseChildren : List Member) (hend : cursor.finish.kind = .eof) :
    Ends (conditionalEnd keyword test children elseChildren) cursor fun result after =>
      ∃ closing, closing.kind = .endifWord ∧ Takes cursor [closing] after ∧
        result = .conditional test children elseChildren (after.rangeFrom keyword.range) := by
  refine Ends.look ?_
  split
  case h_1 hkind =>
    intro result after h
    obtain ⟨closing, _, hbump, h⟩ := bind_eq_ok_iff.1 h
    obtain ⟨rfl, htakes⟩ := bump_eq_ok hend (by rw [hkind]; rfl) hbump
    cases h
    exact ⟨_, hkind, htakes, rfl⟩
  case h_2 => exact .fail _
  case h_3 => exact .failAt _ _

/-! Members, blocks and choices between members call each other with less fuel. -/

theorem membersWith_sound_succ {fuel : Nat}
    (hmember : ∀ cursor, Reads (memberWith fuel) cursor IsMember)
    (hmembers : ∀ progress cursor, Reads (membersWith fuel progress) cursor AreMembers)
    (progress : Progress) (cursor : Cursor) :
    Reads (membersWith (fuel + 1) progress) cursor AreMembers := by
  intro hend
  rw [membersWith]
  refine Ends.look ?_
  split
  · intro children after h
    cases h
    exact ⟨[], .nil _, .nil⟩
  · intro children after h
    obtain ⟨next, _, hstep, h⟩ := bind_eq_ok_iff.1 h
    obtain ⟨child, _, hchild, h⟩ := bind_eq_ok_iff.1 h
    obtain ⟨rest, _, hrest, h⟩ := bind_eq_ok_iff.1 h
    cases h
    rw [step_eq_ok hstep] at hchild
    obtain ⟨word, first, hchild⟩ := hmember _ hend _ _ hchild
    obtain ⟨word', second, hrest⟩ := hmembers _ _ (first.finish_kind hend) _ _ hrest
    exact ⟨_, first.append second, .cons hchild hrest⟩

theorem memberWith_sound_succ {fuel : Nat}
    (hblock : ∀ cursor, cursor.kind = .identifier → Reads (blockWith fuel) cursor IsBlock)
    (hchoice : ∀ cursor, cursor.kind = .ifWord →
      Reads (blockConditionalWith fuel) cursor IsMember)
    (cursor : Cursor) : Reads (memberWith (fuel + 1)) cursor IsMember := by
  intro hend
  rw [memberWith]
  refine Ends.look ?_
  split
  case h_1 hkind =>
    refine Ends.look ?_
    split
    · intro child after h
      obtain ⟨⟨name, children, range⟩, _, hrun, h⟩ := bind_eq_ok_iff.1 h
      cases h
      obtain ⟨word, htakes, hword⟩ := hblock _ hkind hend _ _ hrun
      exact ⟨word, htakes, .block hword⟩
    · intro child after h
      obtain ⟨⟨name, value, range⟩, _, hrun, h⟩ := bind_eq_ok_iff.1 h
      cases h
      obtain ⟨word, htakes, hword⟩ := binding_sound hkind hend _ _ hrun
      exact ⟨word, htakes, .field hword⟩
  case h_2 hkind => exact hchoice _ hkind hend
  case h_3 => exact .fail _

theorem blockWith_sound_succ {fuel : Nat}
    (hmembers : ∀ progress cursor, Reads (membersWith fuel progress) cursor AreMembers)
    (cursor : Cursor) (hkind : cursor.kind = .identifier) :
    Reads (blockWith (fuel + 1)) cursor IsBlock := by
  intro hend
  rw [blockWith]
  refine .bind fun name _ hbump => .bind fun colon _ hcolon =>
    .bind fun children mid hchildren => .look ?_
  obtain ⟨rfl, first⟩ := bump_eq_ok hend (by rw [hkind]; rfl) hbump
  have hend₁ := first.finish_kind hend
  obtain ⟨hcolon, second⟩ := expect_eq_ok hend₁ rfl hcolon
  have hend₂ := second.finish_kind hend₁
  obtain ⟨word, third, hword⟩ := hmembers _ _ hend₂ _ _ hchildren
  have hend₃ := third.finish_kind hend₂
  split
  case h_1 hclosing =>
    intro result after h
    obtain ⟨closing, _, hbump, h⟩ := bind_eq_ok_iff.1 h
    have hplain : mid.kind.isPlain := by rw [Cursor.kind, hclosing]; rfl
    obtain ⟨rfl, fourth⟩ := bump_eq_ok hend₃ hplain hbump
    have htakes := first.cons (second.cons (third.append fourth))
    rw [htakes.rangeFrom_bind (by simp)] at h
    cases h
    exact ⟨_, htakes, .mk hkind hcolon hword hclosing⟩
  case h_2 => exact .failAt _ _
  case h_3 => exact .fail _

theorem blockConditionalWith_sound_succ {fuel : Nat}
    (hmembers : ∀ progress cursor, Reads (membersWith fuel progress) cursor AreMembers)
    (cursor : Cursor) (hkind : cursor.kind = .ifWord) :
    Reads (blockConditionalWith (fuel + 1)) cursor IsMember := by
  intro hend
  rw [blockConditionalWith]
  refine .bind fun keyword _ hbump => .bind fun test _ htest => .bind fun colon _ hcolon =>
    .bind fun children before hchildren => .bind fun found mid heat => ?_
  obtain ⟨rfl, first⟩ := bump_eq_ok hend (by rw [hkind]; rfl) hbump
  have hend₁ := first.finish_kind hend
  obtain ⟨word, second, htest⟩ := condition_sound _ hend₁ _ _ htest
  have hend₂ := second.finish_kind hend₁
  obtain ⟨hcolon, third⟩ := expect_eq_ok hend₂ rfl hcolon
  have hend₃ := third.finish_kind hend₂
  obtain ⟨word', fourth, hword'⟩ := hmembers _ _ hend₃ _ _ hchildren
  have hend₄ := fourth.finish_kind hend₃
  have htaken := first.cons (second.append (third.cons fourth))
  rcases eat_eq_ok hend₄ rfl heat with ⟨rfl, elseWord, helse, fifth⟩ | ⟨rfl, -, rfl⟩
  · have hend₅ := fifth.finish_kind hend₄
    refine .bind fun elseColon _ helseColon => .bind fun elseChildren last helseChildren =>
      .look ?_
    obtain ⟨helseColon, sixth⟩ := expect_eq_ok hend₅ rfl helseColon
    have hend₆ := sixth.finish_kind hend₅
    obtain ⟨word'', seventh, hword''⟩ := hmembers _ _ hend₆ _ _ helseChildren
    split
    · exact .bind fun _ _ h => nomatch h
    · intro result after h
      obtain ⟨closing, hclosing, eighth, rfl⟩ :=
        conditionalEnd_sound _ _ _ _ (seventh.finish_kind hend₆) _ _ h
      have htakes := htaken.append (fifth.cons (sixth.cons (seventh.append eighth)))
      rw [htakes.rangeFrom_eq (by simp)]
      simp only [List.cons_append, List.append_assoc] at htakes ⊢
      exact ⟨_, htakes, .choiceElse hkind htest hcolon hword' helse helseColon hword'' hclosing⟩
  · intro result after h
    obtain ⟨closing, hclosing, fifth, rfl⟩ := conditionalEnd_sound _ _ _ _ hend₄ _ _ h
    have htakes := htaken.append fifth
    rw [htakes.rangeFrom_eq (by simp)]
    simp only [List.cons_append, List.append_assoc] at htakes ⊢
    exact ⟨_, htakes, .choice hkind htest hcolon hword' hclosing⟩

/-- Members, one member, blocks and choices, with the same fuel. -/
theorem membersWith_sound (fuel : Nat) :
    (∀ progress cursor, Reads (membersWith fuel progress) cursor AreMembers) ∧
      (∀ cursor, Reads (memberWith fuel) cursor IsMember) ∧
      (∀ cursor, cursor.kind = .identifier → Reads (blockWith fuel) cursor IsBlock) ∧
      ∀ cursor, cursor.kind = .ifWord → Reads (blockConditionalWith fuel) cursor IsMember := by
  induction fuel with
  | zero =>
    simp only [membersWith, memberWith, blockWith, blockConditionalWith]
    exact ⟨fun _ _ _ => .stall, fun _ _ => .stall, fun _ _ _ => .stall, fun _ _ _ => .stall⟩
  | succ fuel ih =>
    obtain ⟨hmembers, hmember, hblock, hchoice⟩ := ih
    exact ⟨membersWith_sound_succ hmember hmembers, memberWith_sound_succ hblock hchoice,
      blockWith_sound_succ hmembers, blockConditionalWith_sound_succ hmembers⟩

/-! ## Statements -/

theorem metadata_sound (hkind : cursor.kind = .atSign) : Reads metadata cursor IsStatement := by
  intro hend result after h
  obtain ⟨marker, _, hbump, h⟩ := bind_eq_ok_iff.1 h
  obtain ⟨key, _, hkey, h⟩ := bind_eq_ok_iff.1 h
  obtain ⟨value, _, hvalue, h⟩ := bind_eq_ok_iff.1 h
  obtain ⟨rfl, first⟩ := bump_eq_ok hend (by rw [hkind]; rfl) hbump
  have hend₁ := first.finish_kind hend
  obtain ⟨hkey, second⟩ := take_eq_ok hend₁ rfl hkey
  obtain ⟨token, word, third, hline, hword⟩ :=
    boundValue_sound (second.finish_kind hend₁) hvalue
  have htakes := first.cons (second.cons third)
  rw [htakes.rangeFrom_bind (by simp)] at h
  cases h
  exact ⟨_, htakes, .metadata hkind hkey hline hword⟩

theorem gather_sound (hkind : cursor.kind = .gather) :
    Reads gather cursor fun word g => IsStatement word (.gather g) := by
  intro hend
  refine .bind fun keyword _ hbump => .bind fun path mid hpath => ?_
  obtain ⟨rfl, first⟩ := bump_eq_ok hend (by rw [hkind]; rfl) hbump
  have hend₁ := first.finish_kind hend
  obtain ⟨hpath, second⟩ := take_eq_ok hend₁ rfl hpath
  have hend₂ := second.finish_kind hend₁
  intro result after h
  rw [isAtOnLine_bind] at h
  by_cases has : mid.current.IsOnLine .asWord
  · rw [decide_eq_true has, if_pos rfl] at h
    obtain ⟨asWord, _, hbump, h⟩ := bind_eq_ok_iff.1 h
    obtain ⟨name, _, hname, h⟩ := bind_eq_ok_iff.1 h
    obtain ⟨rfl, third⟩ := bump_eq_ok hend₂ (by rw [Cursor.kind, has.1]; rfl) hbump
    obtain ⟨hidentifier, fourth⟩ := expect_eq_ok (third.finish_kind hend₂) rfl hname
    have htakes := first.cons (second.cons (third.cons fourth))
    rw [pure_bind] at h
    dsimp only at h
    rw [htakes.rangeFrom_bind (by simp)] at h
    cases h
    exact ⟨_, htakes, .gatherAs hkind hpath has hidentifier⟩
  · rw [decide_eq_false has, if_neg (by simp), pure_bind] at h
    dsimp only at h
    rw [(first.cons second).rangeFrom_bind (by simp)] at h
    cases h
    exact ⟨_, first.cons second, .gather hkind hpath⟩

theorem statement_sound (cursor : Cursor) : Reads statement cursor IsStatement := by
  refine fun hend => Ends.look ?_
  split
  case h_1 hkind => exact metadata_sound hkind hend
  case h_2 hkind =>
    refine .bind fun g mid hrun => ?_
    intro result after h
    cases h
    exact gather_sound hkind hend _ _ hrun
  case h_3 hkind =>
    refine Ends.look ?_
    split
    · refine .bind fun ⟨name, children, range⟩ mid hrun => ?_
      intro result after h
      cases h
      obtain ⟨word, htakes, hword⟩ := (membersWith_sound _).2.2.1 cursor hkind hend _ _ hrun
      exact ⟨word, htakes, .block hword⟩
    · refine .bind fun ⟨name, value, range⟩ mid hrun => ?_
      intro result after h
      cases h
      obtain ⟨word, htakes, hword⟩ := binding_sound hkind hend _ _ hrun
      exact ⟨word, htakes, .global hword⟩
  case h_4 => exact .fail _
  case h_5 => exact .fail _
  case h_6 => exact .fail _
  case h_7 => exact .fail _

/-- Statements up to the end. -/
theorem statementsWith_sound (fuel : Nat) (progress : Progress) (cursor : Cursor)
    (hend : cursor.finish.kind = .eof) :
    Ends (statementsWith fuel progress) cursor fun document after =>
      ∃ word, Takes cursor word after ∧ after.kind = .eof ∧ AreStatements word document := by
  induction fuel generalizing progress cursor with
  | zero => exact .stall
  | succ fuel ih =>
    refine Ends.look ?_
    split
    · rename_i heof
      intro document after h
      cases h
      exact ⟨[], .nil _, by simpa using heof, .nil⟩
    · refine .bind fun next mid hstep => .bind fun statement last hstatement => ?_
      rw [step_eq_ok hstep] at hstatement
      obtain ⟨word, first, hword⟩ := statement_sound _ hend _ _ hstatement
      refine .bind fun rest final hrest => ?_
      obtain ⟨word', second, heof, hword'⟩ := ih _ _ (first.finish_kind hend) _ _ hrest
      intro document after h
      cases h
      exact ⟨_, first.append second, heof, .cons hword hword'⟩

end Grammar

end Rune
