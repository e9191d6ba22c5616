import Rune.Proofs.Tree.Taking

/-!
# Rune - what is in the language is read

Whatever a word spells is read from it.  A step looks one or two tokens ahead, so what
follows the word must not go on with it: no dot may follow a name, and no `else` a choice
that is still open.  The fuel lasts since every level of nesting takes a token, and loops
go on since tokens lie in their order.

Main results:

- Theorems {lit}`Grammar.valueWith_complete` and {lit}`Grammar.membersWith_complete`: values and
  members are read from the words that spell them.
- Theorem {lit}`Grammar.statementsWith_complete`: a document is read from the tokens before
  the end.
-/

namespace Rune

/-! ## Order -/

/-- The tokens ahead begin one after another. -/
def Cursor.InOrder (cursor : Cursor) : Prop :=
  cursor.ahead.Pairwise fun a b => a.range.start < b.range.start

/-- A loop was last seen before the tokens ahead. -/
def Progress.IsBefore (progress : Progress) (cursor : Cursor) : Prop :=
  ∀ offset, progress.lastSeen = some offset → ∀ token ∈ cursor.ahead, offset < token.range.start

theorem Progress.start_isBefore (cursor : Cursor) : Progress.start.IsBefore cursor := nofun

namespace Takes

variable {cursor after : Cursor} {word : List Token} {token : Token}

/-- Tokens stay in their order. -/
theorem inOrder (h : Takes cursor word after) (horder : cursor.InOrder) : after.InOrder := by
  rw [Cursor.InOrder, h.ahead, List.pairwise_append] at horder
  exact horder.2.1

/-- A loop that took a token is seen before the tokens that are still ahead. -/
theorem seen_isBefore (h : Takes cursor (token :: word) after) (horder : cursor.InOrder) :
    (Progress.seen cursor).IsBefore after := by
  intro offset hoffset other hother
  obtain rfl : token.range.start = offset := by
    simpa [Progress.seen, Cursor.position, Cursor.range, h.current_eq] using hoffset
  rw [Cursor.InOrder, h.ahead, List.cons_append, List.pairwise_cons] at horder
  exact horder.1 other (List.mem_append_right _ hother)

/-- A loop that has a token ahead goes on. -/
theorem step (h : Takes cursor (token :: word) after) {progress : Progress}
    (hprogress : progress.IsBefore cursor) :
    progress.step cursor = .ok (Progress.seen cursor) cursor := by
  unfold Progress.step
  rw [if_pos]
  unfold Progress.hasProgressed
  cases hseen : progress.lastSeen with
  | none => rfl
  | some offset =>
    have hlt := hprogress offset hseen token (by simp [h.ahead])
    simpa [Cursor.position, Cursor.range, h.current_eq] using hlt

end Takes

/-! ## What follows a word -/

/-- The token at the cursor goes on with no value before it. -/
def Cursor.IsClear (cursor : Cursor) : Prop := cursor.kind ≠ .dot ∧ ¬ cursor.IsAtElse

/-- The token at the cursor does not go on with a value. -/
def Cursor.IsAfter (cursor : Cursor) (value : ValueExpr) : Prop :=
  cursor.kind ≠ .dot ∧ (Sentence.endsOpen value = true → ¬ cursor.IsAtElse)

theorem Cursor.IsClear.isAfter {cursor : Cursor} (h : cursor.IsClear) (value : ValueExpr) :
    cursor.IsAfter value := ⟨h.1, fun _ => h.2⟩

theorem Cursor.not_isAtElse_of_ne {cursor : Cursor} (helse : cursor.kind ≠ .elseWord) :
    ¬ cursor.IsAtElse := fun h => helse h.1

/-- A token that is neither a dot nor an `else` goes on with no value. -/
theorem Cursor.isClear_of_ne {cursor : Cursor} (hdot : cursor.kind ≠ .dot)
    (helse : cursor.kind ≠ .elseWord) : cursor.IsClear := ⟨hdot, not_isAtElse_of_ne helse⟩

namespace Grammar

open Parse Sentence

variable {cursor after : Cursor} {word : List Token}

/-! ## Operands and conditions -/

theorem segments_complete {names : List String} (h : AreSegments word names) {fuel : Nat}
    (hfuel : word.length ≤ fuel) {cursor : Cursor} (htakes : Takes cursor word after)
    (hdot : after.kind ≠ .dot) : segments fuel cursor = .ok names after := by
  induction h generalizing fuel cursor with
  | nil =>
    obtain rfl := htakes.eq_of_nil
    cases fuel with
    | zero => rfl
    | succ fuel =>
      have hnot : ¬ after.current.IsOnLine .dot := fun h => hdot h.1
      rw [segments, isAtOnLine_bind, if_neg (by simpa using hnot)]
      rfl
  | cons hdotLine hname _ ih =>
    cases fuel with
    | zero => simp at hfuel
    | succ fuel =>
      obtain ⟨_, first, hrest⟩ := htakes.uncons
      obtain ⟨_, second, third⟩ := hrest.uncons
      rw [segments, isAtOnLine_bind, if_pos (by simpa [first.current_eq] using hdotLine),
        bind_of_ok first.bump, bind_of_ok (second.take hname _),
        bind_of_ok (ih (by simp only [List.length_cons] at hfuel; omega) third)]
      rfl

theorem literal_complete {token : Token} (htakes : Takes cursor [token] after) :
    literal cursor = .ok (.literal token.scalar token.range) after := by
  have hreadable := htakes.readable token (List.mem_singleton_self _)
  unfold literal
  rw [bind_of_ok htakes.bump, hreadable.scalarOf_eq]
  rfl

theorem string_complete {token : Token} (htakes : Takes cursor [token] after) :
    string cursor = .ok (Interpolation.operandOf token) after := by
  unfold string
  rw [bind_of_ok htakes.bump]
  rfl

theorem reference_complete {first : Token} {names : List String}
    (hfirst : first.kind = .identifier) (hnames : AreSegments word names)
    (htakes : Takes cursor (first :: word) after) (hdot : after.kind ≠ .dot) :
    reference cursor = .ok
      (referenceTo first.text names (Sentence.rangeFrom first.range (first :: word))) after := by
  obtain ⟨mid, htoken, hrest⟩ := htakes.uncons
  have hfuel : word.length ≤ mid.ahead.length := by simp [hrest.ahead]
  unfold reference
  rw [← hfirst, bind_of_ok (htoken.expect _), look_bind,
    bind_of_ok (segments_complete hnames hfuel hrest hdot), htakes.rangeFrom_bind (by simp)]
  cases names <;> rfl

theorem hostReference_complete {marker dot name : Token} (hdot : dot.IsOnLine .dot)
    (hname : name.IsOnLine .identifier) (htakes : Takes cursor [marker, dot, name] after) :
    hostReference cursor = .ok (.host (hostRefTo marker.kind name.text
      (Sentence.rangeFrom marker.range [marker, dot, name]))) after := by
  obtain ⟨_, first, hrest⟩ := htakes.uncons
  obtain ⟨_, second, third⟩ := hrest.uncons
  unfold hostReference
  rw [bind_of_ok first.bump, bind_of_ok (second.take hdot _), bind_of_ok (third.take hname _),
    htakes.rangeFrom_bind (by simp)]
  rfl

/-- A reference to the host is read as one. -/
theorem conditionOperand_of_host (hkind : cursor.kind = .env ∨ cursor.kind = .sys) :
    conditionOperand cursor = hostReference cursor := by
  unfold conditionOperand
  rw [look_bind]
  simp only [Cursor.kind] at hkind
  rcases hkind with hkind | hkind <;> rw [hkind]

/-- A literal is read as one. -/
theorem conditionOperand_of_literal (hkind : isScalarKind cursor.kind) :
    conditionOperand cursor = literal cursor := by
  unfold conditionOperand
  rw [look_bind]
  simp only [Cursor.kind] at hkind
  cases h : cursor.current.kind <;> first | rfl | simp [h, isScalarKind] at hkind

theorem conditionOperand_complete {operand : Operand} (h : IsOperand word operand)
    (htakes : Takes cursor word after) (hdot : after.kind ≠ .dot) :
    conditionOperand cursor = .ok operand after := by
  cases h with
  | reference hfirst hnames =>
    unfold conditionOperand
    rw [look_bind, htakes.current_eq, hfirst]
    exact reference_complete hfirst hnames htakes hdot
  | host hmarker hdot hname =>
    rw [conditionOperand_of_host (by rwa [htakes.kind_eq])]
    exact hostReference_complete hdot hname htakes
  | string hkind =>
    unfold conditionOperand
    rw [look_bind, htakes.current_eq, hkind]
    exact string_complete htakes
  | literal hkind =>
    rw [conditionOperand_of_literal (by rwa [htakes.kind_eq])]
    exact literal_complete htakes

theorem comparison_complete {start : TextRange} {test : Condition}
    (h : IsComparison start word test) (htakes : Takes cursor word after)
    (hdot : after.kind ≠ .dot) (hequal : after.kind ≠ .equal) :
    ∃ left mid, conditionOperand cursor = .ok left mid ∧
      comparison start left mid = .ok test after := by
  cases h with
  | presence hoperand =>
    obtain ⟨first, rest, rfl, -⟩ := hoperand.starts
    refine ⟨_, after, conditionOperand_complete hoperand htakes hdot, ?_⟩
    unfold comparison
    rw [bind_of_ok (eat_of_ne hequal), if_neg (by simp), htakes.rangeFrom_bind (by simp)]
    rfl
  | equality hleft hsign hright =>
    obtain ⟨mid, first, hrest⟩ := htakes.split
    obtain ⟨_, second, third⟩ := hrest.uncons
    have hmid : mid.kind ≠ .dot := by rw [second.kind_eq, hsign]; decide
    refine ⟨_, mid, conditionOperand_complete hleft first hmid, ?_⟩
    unfold comparison
    rw [← hsign, bind_of_ok second.eat, if_pos rfl,
      bind_of_ok (conditionOperand_complete hright third hdot), htakes.rangeFrom_bind (by simp)]
    rfl

/-- A condition on its line is read from its parenthesis on, or from its operand on. -/
theorem condition_eq (hline : cursor.lineBreak = false) :
    condition cursor = (do
      let parenthesized ← eat .leftParen
      let left ← conditionOperand
      let result ← comparison cursor.range left
      if parenthesized then
        let _ ← expect .rightParen "`)` to close condition"
      return result : Parse Condition) cursor := by
  unfold condition
  rw [look_bind, look_bind, hline]
  rfl

theorem condition_complete {test : Condition} (h : IsCondition word test)
    (htakes : Takes cursor word after) (hdot : after.kind ≠ .dot) (hequal : after.kind ≠ .equal) :
    condition cursor = .ok test after := by
  cases h with
  | @bare token _ _ hline hcomparison =>
    obtain ⟨left, mid, hleft, hcompare⟩ := comparison_complete hcomparison htakes hdot hequal
    have hparen : cursor.kind ≠ .leftParen := by
      obtain ⟨_, _, hword, hfirst⟩ := hcomparison.starts
      obtain ⟨rfl, -⟩ := List.cons.inj hword
      intro hkind
      rw [htakes.kind_eq] at hkind
      simp [hkind, startsOperand] at hfirst
    have hrange : cursor.range = token.range := congrArg Token.range htakes.current_eq
    rw [condition_eq (by rw [htakes.lineBreak_eq, hline]), hrange,
      bind_of_ok (eat_of_ne hparen), bind_of_ok hleft, bind_of_ok hcompare]
    rfl
  | @parenthesized opening closing _ _ hopening hcomparison hclosing =>
    obtain ⟨mid, first, hrest⟩ := htakes.uncons
    obtain ⟨last, second, third⟩ := hrest.split
    have hlast : last.kind = .rightParen := by rw [third.kind_eq, hclosing]
    obtain ⟨left, _, hleft, hcompare⟩ := comparison_complete hcomparison second
      (by rw [hlast]; decide) (by rw [hlast]; decide)
    have hrange : cursor.range = opening.range := congrArg Token.range htakes.current_eq
    rw [condition_eq (by rw [htakes.lineBreak_eq, hopening.2]), hrange, ← hopening.1,
      ← hclosing, bind_of_ok first.eat, bind_of_ok hleft, bind_of_ok hcompare, if_pos rfl,
      bind_of_ok (third.expect _)]
    rfl

/-! ## Values -/

/-- With some fuel values are read from the words that spell them. -/
def ReadsValues (fuel : Nat) : Prop :=
  ∀ {word : List Token} {value : ValueExpr} {cursor after : Cursor}, IsValue word value →
    3 * word.length ≤ fuel → Takes cursor word after → cursor.InOrder → after.IsAfter value →
    valueWith fuel cursor = .ok value after

/-- With some fuel items are read from the words that spell them and from the bracket
after them. -/
def ReadsItems (fuel : Nat) : Prop :=
  ∀ {word : List Token} {items : List ValueExpr} {closing : Token} {cursor after : Cursor}
    {progress : Progress} (opening : TextRange), AreItems word items →
    3 * word.length + 1 ≤ fuel → Takes cursor (word ++ [closing]) after →
    closing.kind = .rightBracket → cursor.InOrder → progress.IsBefore cursor →
    itemsWith fuel opening progress cursor = .ok items after

/-- What begins like a value neither ends an array nor goes on with a value. -/
theorem startsValue_ne {kind : TokenKind} (h : startsValue kind) :
    kind ≠ .rightBracket ∧ kind ≠ .eof ∧ kind ≠ .comma ∧ kind ≠ .dot ∧ kind ≠ .equal ∧
      kind ≠ .elseWord ∧ kind ≠ .colon := by
  cases kind <;> simp_all [startsValue, startsOperand]

/-- A value that is an operand is read as one. -/
theorem valueWith_of_operand {fuel : Nat} (hkind : startsOperand cursor.kind) :
    valueWith (fuel + 1) cursor =
      (conditionOperand >>= fun operand => pure (.operand operand)) cursor := by
  rw [valueWith]
  unfold conditionOperand
  rw [bind_assoc, look_bind, look_bind]
  simp only [Cursor.kind] at hkind
  cases h : cursor.current.kind <;> first
    | rfl
    | simp [h, startsOperand] at hkind

/-- What stands between two items: a comma, or else a line break or the closing bracket. -/
def Separates (mid next : Cursor) : Prop :=
  (∃ comma, comma.kind = .comma ∧ Takes mid [comma] next) ∨
    (mid.kind ≠ .comma ∧ (mid.kind = .rightBracket ∨ mid.lineBreak = true) ∧ next = mid)

/-- One item is read, then what stands between it and the next one, and then the others. -/
theorem itemsWith_cons {fuel : Nat} {opening : TextRange} {progress : Progress} {token : Token}
    {item : ValueExpr} {items : List ValueExpr} {mid next : Cursor}
    (hword : Takes cursor (token :: word) mid) (htoken : startsValue token.kind)
    (hprogress : progress.IsBefore cursor) (hitem : valueWith fuel cursor = .ok item mid)
    (hseparates : Separates mid next)
    (hitems : itemsWith fuel opening (.seen cursor) next = .ok items after) :
    itemsWith (fuel + 1) opening progress cursor = .ok (item :: items) after := by
  obtain ⟨hbracket, heof, -⟩ := startsValue_ne htoken
  rw [← hword.kind_eq] at hbracket heof
  rw [itemsWith, bind_of_ok (eat_of_ne hbracket), if_neg (by simp),
    bind_of_ok (hword.step hprogress), isAt, look_bind, if_neg (by simpa using heof)]
  refine (bind_of_ok hitem).trans ?_
  rcases hseparates with ⟨comma, hcomma, htakes⟩ | ⟨hcomma, hseparated, rfl⟩
  · rw [← hcomma, bind_of_ok htakes.eat, if_neg (by simp)]
    exact (bind_of_ok hitems).trans rfl
  · rw [bind_of_ok (eat_of_ne hcomma)]
    change (look _ >>= _) next = _
    rw [look_bind, if_neg (by simpa [Decidable.imp_iff_not_or] using hseparated)]
    exact (bind_of_ok hitems).trans rfl

theorem itemsWith_complete_succ {fuel : Nat} (hvalues : ReadsValues fuel)
    (hitems : ReadsItems fuel) : ReadsItems (fuel + 1) := by
  intro word items closing cursor after progress opening h hfuel htakes hclosing horder hprogress
  cases h with
  | nil =>
    rw [itemsWith, ← hclosing, bind_of_ok htakes.eat]
    rfl
  | last hitem =>
    obtain ⟨token, rest, rfl, htoken⟩ := hitem.starts
    obtain ⟨mid, first, second⟩ := htakes.split
    have hkind : mid.kind = .rightBracket := by rw [second.kind_eq, hclosing]
    have hclear : mid.IsClear := Cursor.isClear_of_ne (by simp [hkind]) (by simp [hkind])
    refine itemsWith_cons first htoken hprogress
      (hvalues hitem (by omega) first horder (hclear.isAfter _))
      (.inr ⟨by simp [hkind], .inl hkind, rfl⟩) ?_
    exact hitems opening .nil (by simp at hfuel ⊢; omega) second hclosing (first.inOrder horder)
      (first.seen_isBefore horder)
  | comma hitem hcomma hmore =>
    obtain ⟨token, rest, rfl, htoken⟩ := hitem.starts
    rw [List.append_assoc] at htakes
    obtain ⟨mid, first, hrest⟩ := htakes.split
    have hkind : mid.kind = .comma := by rw [hrest.kind_eq, hcomma]
    have hclear : mid.IsClear := Cursor.isClear_of_ne (by simp [hkind]) (by simp [hkind])
    obtain ⟨last, second, third⟩ := hrest.uncons
    refine itemsWith_cons first htoken hprogress
      (hvalues hitem (by simp at hfuel ⊢; omega) first horder (hclear.isAfter _))
      (.inl ⟨_, hcomma, second⟩) ?_
    exact hitems opening hmore (by simp at hfuel ⊢; omega) third hclosing
      ((first.append second).inOrder horder) ((first.append second).seen_isBefore horder)
  | @lineBreak next _ _ _ _ hitem hline hmore =>
    obtain ⟨token, rest, rfl, htoken⟩ := hitem.starts
    have hnext : startsValue next.kind := by
      obtain ⟨hnil, -⟩ | ⟨_, _, hword, hfirst⟩ := hmore.starts
      · cases hnil
      · obtain ⟨rfl, -⟩ := List.cons.inj hword
        exact hfirst
    rw [List.append_assoc] at htakes
    obtain ⟨mid, first, second⟩ := htakes.split
    obtain ⟨-, -, hcomma, hdot, -, helse, -⟩ := startsValue_ne hnext
    rw [← second.kind_eq] at hcomma hdot helse
    refine itemsWith_cons first htoken hprogress
      (hvalues hitem (by simp at hfuel ⊢; omega) first horder
        ((Cursor.isClear_of_ne hdot helse).isAfter _))
      (.inr ⟨hcomma, .inr (by rw [second.lineBreak_eq, hline]), rfl⟩) ?_
    exact hitems opening hmore (by simp at hfuel ⊢; omega) second hclosing
      (first.inOrder horder) (first.seen_isBefore horder)

theorem arrayWith_complete {fuel : Nat} (hitems : ReadsItems fuel) {opening closing : Token}
    {items : List ValueExpr} (h : AreItems word items) (hfuel : 3 * word.length + 1 ≤ fuel)
    (htakes : Takes cursor (opening :: (word ++ [closing])) after)
    (hclosing : closing.kind = .rightBracket) (horder : cursor.InOrder) :
    arrayWith (fuel + 1) cursor = .ok (.array items
      (Sentence.rangeFrom opening.range (opening :: (word ++ [closing])))) after := by
  obtain ⟨_, first, second⟩ := htakes.uncons
  rw [arrayWith, bind_of_ok first.bump,
    bind_of_ok (hitems _ h hfuel second hclosing (first.inOrder horder)
      (Progress.start_isBefore _)),
    htakes.rangeFrom_bind (by simp)]
  rfl

/-- A condition and the first value of a choice are read, and then a second value if an
`else` goes on with the choice. -/
theorem conditionalWith_eq {fuel : Nat} {keyword : Token} {word' : List Token}
    {test : Condition} {thenValue : ValueExpr} {mid : Cursor} (hvalues : ReadsValues fuel)
    (htest : IsCondition word test) (hthen : IsValue word' thenValue)
    (hfuel : 3 * word'.length ≤ fuel) (htakes : Takes cursor (keyword :: (word ++ word')) mid)
    (horder : cursor.InOrder) (hmid : mid.IsAfter thenValue) :
    conditionalWith (fuel + 1) cursor = (do
      let elseValue ← if mid.IsAtElse then do
          let _ ← bump
          pure (some (← valueWith fuel))
        else pure none
      return .conditional test thenValue elseValue (← Parse.rangeFrom keyword.range) :
        Parse ValueExpr) mid := by
  obtain ⟨_, first, hrest⟩ := htakes.uncons
  obtain ⟨_, second, third⟩ := hrest.split
  obtain ⟨token, rest, rfl, htoken⟩ := hthen.starts
  obtain ⟨-, -, -, hdot, hequal, -⟩ := startsValue_ne htoken
  rw [← third.kind_eq] at hdot hequal
  rw [conditionalWith, bind_of_ok first.bump,
    bind_of_ok (condition_complete htest second hdot hequal),
    bind_of_ok (hvalues hthen hfuel third ((first.append second).inOrder horder) hmid), isAt,
    look_bind, isBeforeColon, look_bind]
  by_cases helse : mid.IsAtElse
  · rw [if_pos helse, if_pos (by simpa [Cursor.IsAtElse] using helse)]
  · rw [if_neg helse, if_neg (by simpa [Cursor.IsAtElse] using helse)]

theorem valueWith_complete_succ {fuel : Nat} (hvalues : ReadsValues fuel)
    (hitems : ReadsItems fuel) : ReadsValues (fuel + 2) := by
  intro word value cursor after h hfuel htakes horder hafter
  cases h with
  | operand hoperand =>
    obtain ⟨token, rest, rfl, htoken⟩ := hoperand.starts
    rw [valueWith_of_operand (by rwa [htakes.kind_eq]),
      bind_of_ok (conditionOperand_complete hoperand htakes hafter.1)]
    rfl
  | rawString hkind =>
    rw [valueWith, look_bind, htakes.current_eq]
    simp only [hkind]
    rw [bind_of_ok htakes.bump]
    rfl
  | array hopening hword hclosing =>
    rw [valueWith, look_bind, htakes.current_eq]
    simp only [hopening]
    exact arrayWith_complete hitems hword (by simp at hfuel; omega) htakes hclosing horder
  | choice hkeyword htest hthen =>
    have helse : ¬ after.IsAtElse := hafter.2 rfl
    rw [valueWith, look_bind, htakes.current_eq]
    simp only [hkeyword]
    rw [conditionalWith_eq hvalues htest hthen (by simp at hfuel; omega) htakes horder
      ⟨hafter.1, fun _ => helse⟩, if_neg helse, pure_bind]
    exact (htakes.rangeFrom_bind (by simp) _ _).trans rfl
  | @choiceElse keyword elseWord word word' word'' _ _ _ hkeyword htest hthen hclosed helse
      hother =>
    have htakes' : Takes cursor ((keyword :: (word ++ word')) ++ (elseWord :: word'')) after := by
      simpa using htakes
    obtain ⟨mid, first, hrest⟩ := htakes'.split
    obtain ⟨token, rest, rfl, htoken⟩ := hother.starts
    obtain ⟨_, second, third⟩ := hrest.uncons
    have hmid : mid.IsAtElse := by
      refine ⟨by rw [hrest.kind_eq, helse], ?_⟩
      rw [hrest.nth_one_eq]
      exact (startsValue_ne htoken).2.2.2.2.2.2
    have hafterThen : mid.IsAfter _ := ⟨by rw [hmid.1]; decide, by rw [hclosed]; nofun⟩
    rw [valueWith, look_bind, htakes.current_eq]
    simp only [hkeyword]
    rw [conditionalWith_eq hvalues htest hthen (by simp at hfuel; omega) first horder hafterThen,
      if_pos hmid, bind_of_ok second.bump, bind_of_ok (hvalues hother
        (by simp at hfuel ⊢; omega) third ((first.append second).inOrder horder) hafter),
      pure_bind]
    exact (htakes.rangeFrom_bind (by simp) _ _).trans rfl

/-- Values and items, with the same fuel. -/
theorem valueWith_complete : ∀ fuel : Nat, ReadsValues fuel ∧ ReadsItems fuel
  | 0 => by
    refine ⟨?_, ?_⟩
    · intro word value cursor after h hfuel
      obtain ⟨token, rest, rfl, -⟩ := h.starts
      simp at hfuel
    · intro word items closing cursor after progress opening h hfuel
      simp at hfuel
  | 1 => by
    refine ⟨?_, itemsWith_complete_succ (valueWith_complete 0).1 (valueWith_complete 0).2⟩
    intro word value cursor after h hfuel
    obtain ⟨token, rest, rfl, -⟩ := h.starts
    simp at hfuel
    omega
  | fuel + 2 =>
    ⟨valueWith_complete_succ (valueWith_complete fuel).1 (valueWith_complete fuel).2,
      itemsWith_complete_succ (valueWith_complete (fuel + 1)).1 (valueWith_complete (fuel + 1)).2⟩

theorem boundValue_complete {first : Token} {value : ValueExpr}
    (hline : first.lineBreakBefore = false) (h : IsValue (first :: word) value)
    (htakes : Takes cursor (first :: word) after) (horder : cursor.InOrder)
    (hafter : after.IsAfter value) : boundValue cursor = .ok value after := by
  have hfirst : startsValue first.kind := by
    obtain ⟨_, _, hword, hstarts⟩ := h.starts
    obtain ⟨rfl, -⟩ := List.cons.inj hword
    exact hstarts
  have hkind : cursor.kind ≠ .eof := by
    rw [htakes.kind_eq]
    exact (startsValue_ne hfirst).2.1
  have hfuel : 3 * (first :: word).length ≤ fuelFor cursor := by
    simp [fuelFor, htakes.ahead]
    omega
  unfold boundValue
  rw [look_bind, if_neg (by simp [hkind, htakes.lineBreak_eq, hline])]
  exact (valueWith_complete _).1 h hfuel htakes horder hafter

theorem binding_complete {result : String × ValueExpr × TextRange} (h : IsBinding word result)
    (htakes : Takes cursor word after) (horder : cursor.InOrder) (hafter : after.IsClear) :
    binding cursor = .ok result after := by
  unfold binding
  obtain ⟨name, second, rest, rfl, -⟩ := h.starts
  obtain ⟨mid, first, hrest⟩ := htakes.uncons
  have horder' := first.inOrder horder
  rw [bind_of_ok first.bump, isAtOnLine_bind, hrest.current_eq]
  cases h with
  | plain hname hline hvalue =>
    have hequal : ¬ second.IsOnLine .equal := by
      obtain ⟨_, _, hword, hstarts⟩ := hvalue.starts
      obtain ⟨rfl, -⟩ := List.cons.inj hword
      exact fun h => (startsValue_ne hstarts).2.2.2.2.1 h.1
    rw [if_neg (by simpa using hequal)]
    refine (bind_of_ok (boundValue_complete hline hvalue hrest horder'
      (hafter.isAfter _))).trans ?_
    exact (htakes.rangeFrom_bind (by simp) _ _).trans rfl
  | assigned hname hequal hline hvalue =>
    obtain ⟨_, second, third⟩ := hrest.uncons
    rw [if_pos (decide_eq_true hequal), bind_of_ok second.bump]
    refine (bind_of_ok (boundValue_complete hline hvalue third (second.inOrder horder')
      (hafter.isAfter _))).trans ?_
    exact (htakes.rangeFrom_bind (by simp) _ _).trans rfl

/-! ## Members -/

/-- With some fuel a member is read from the word that spells it. -/
def ReadsMember (fuel : Nat) : Prop :=
  ∀ {word : List Token} {child : Member} {cursor after : Cursor}, IsMember word child →
    3 * word.length ≤ fuel → Takes cursor word after → cursor.InOrder → after.IsClear →
    memberWith fuel cursor = .ok child after

/-- With some fuel members are read from the words that spell them, up to a token that
ends members. -/
def ReadsMembers (fuel : Nat) : Prop :=
  ∀ {word : List Token} {children : List Member} {cursor after : Cursor} {progress : Progress},
    AreMembers word children → 3 * word.length + 1 ≤ fuel → Takes cursor word after →
    cursor.InOrder → progress.IsBefore cursor → endsMembers after.kind → ¬ after.IsAtElse →
    membersWith fuel progress cursor = .ok children after

/-- The token behind members goes on with no value. -/
theorem isClear_of_endsMembers (hends : endsMembers cursor.kind) (helse : ¬ cursor.IsAtElse) :
    cursor.IsClear :=
  ⟨fun hkind => by simp [hkind, endsMembers] at hends, helse⟩

/-- A token that a member begins with goes on with no value and ends no members. -/
theorem isClear_of_startsMember (h : cursor.kind = .identifier ∨ cursor.kind = .ifWord) :
    cursor.IsClear ∧ endsMembers cursor.kind = false := by
  refine ⟨Cursor.isClear_of_ne ?_ ?_, ?_⟩ <;> rcases h with hkind | hkind <;>
    simp [hkind, endsMembers]

theorem membersWith_complete_succ {fuel : Nat} (hmember : ReadsMember fuel)
    (hmembers : ReadsMembers fuel) : ReadsMembers (fuel + 1) := by
  intro word children cursor after progress h hfuel htakes horder hprogress hends helse
  rw [membersWith, look_bind]
  cases h with
  | nil =>
    obtain rfl := htakes.eq_of_nil
    rw [if_pos hends]
    rfl
  | cons hchild hchildren =>
    obtain ⟨mid, first, second⟩ := htakes.split
    obtain ⟨token, rest, rfl, htoken⟩ := hchild.starts
    have hclear : mid.IsClear := by
      cases hchildren with
      | nil => exact second.eq_of_nil ▸ isClear_of_endsMembers hends helse
      | cons hnext _ =>
        obtain ⟨_, _, rfl, hstarts⟩ := hnext.starts
        rw [← second.kind_eq] at hstarts
        exact (isClear_of_startsMember hstarts).1
    rw [← first.kind_eq] at htoken
    rw [(isClear_of_startsMember htoken).2, if_neg (by simp), bind_of_ok (first.step hprogress),
      bind_of_ok (hmember hchild (by simp at hfuel ⊢; omega) first horder hclear),
      bind_of_ok (hmembers hchildren (by simp at hfuel ⊢; omega) second (first.inOrder horder)
        (first.seen_isBefore horder) hends helse)]
    rfl

/-- Members are read after a colon, up to a token that ends them and goes on with no value. -/
theorem branch_bind {α : Type} {fuel : Nat} (hmembers : ReadsMembers fuel) {colon : Token}
    {children : List Member} {mid : Cursor} (hcolon : colon.kind = .colon)
    (hchildren : AreMembers word children) (hfuel : 3 * word.length + 1 ≤ fuel)
    (htakes : Takes cursor (colon :: word) mid) (horder : cursor.InOrder)
    (hends : endsMembers mid.kind) (helse : ¬ mid.IsAtElse) (name : String)
    (f : List Member → Parse α) :
    (expect .colon name >>= fun _ => membersWith fuel .start >>= f) cursor = f children mid := by
  obtain ⟨_, first, second⟩ := htakes.uncons
  rw [← hcolon, bind_of_ok (first.expect _)]
  exact bind_of_ok (hmembers hchildren hfuel second (first.inOrder horder)
    (Progress.start_isBefore _) hends helse)

theorem blockWith_complete {fuel : Nat} (hmembers : ReadsMembers fuel)
    {result : String × List Member × TextRange} (h : IsBlock word result)
    (hfuel : 3 * word.length ≤ fuel + 3) (htakes : Takes cursor word after)
    (horder : cursor.InOrder) : blockWith (fuel + 1) cursor = .ok result after := by
  cases h with
  | mk hname hcolon hword hclosing =>
    obtain ⟨_, first, hrest⟩ := htakes.uncons
    obtain ⟨last, second, third⟩ := (List.cons_append ▸ hrest).split
    have hlast : last.kind = .endWord := by rw [third.kind_eq, hclosing]
    rw [blockWith, bind_of_ok first.bump, branch_bind hmembers hcolon hword
      (by simp at hfuel ⊢; omega) second (first.inOrder horder) (by rw [hlast]; rfl)
      (Cursor.not_isAtElse_of_ne (by simp [hlast])), look_bind, ← Cursor.kind, hlast]
    refine (bind_of_ok third.bump).trans ?_
    exact (htakes.rangeFrom_bind (by simp) _ _).trans rfl

/-- The end of a choice is read. -/
theorem conditionalEnd_complete {keyword closing : Token} {test : Condition}
    {children elseChildren : List Member} (htakes : Takes cursor [closing] after)
    (hclosing : closing.kind = .endifWord) :
    conditionalEnd keyword test children elseChildren cursor =
      .ok (.conditional test children elseChildren (after.rangeFrom keyword.range)) after := by
  unfold conditionalEnd
  rw [look_bind, htakes.kind_eq, hclosing]
  exact (bind_of_ok htakes.bump).trans rfl

theorem blockConditionalWith_complete {fuel : Nat} (hmembers : ReadsMembers fuel)
    {keyword : Token} {result : Member} (h : IsMember (keyword :: word) result)
    (hkind : keyword.kind = .ifWord) (hfuel : 3 * (keyword :: word).length ≤ fuel + 3)
    (htakes : Takes cursor (keyword :: word) after) (horder : cursor.InOrder) :
    blockConditionalWith (fuel + 1) cursor = .ok result after := by
  obtain ⟨_, first, hrest⟩ := htakes.uncons
  rw [blockConditionalWith, bind_of_ok first.bump]
  cases h with
  | field hbinding =>
    obtain ⟨_, _, _, hword, hname, -⟩ := hbinding.starts
    obtain ⟨rfl, -⟩ := List.cons.inj hword
    simp [hkind] at hname
  | block hblock =>
    obtain ⟨_, _, _, hword, hname, -⟩ := hblock.starts
    obtain ⟨rfl, -⟩ := List.cons.inj hword
    simp [hkind] at hname
  | choice _ htest hcolon hchildren hclosing =>
    obtain ⟨mid, second, hrest⟩ := hrest.split
    obtain ⟨last, third, fourth⟩ := (List.cons_append ▸ hrest).split
    have hmid : mid.kind = .colon := by rw [hrest.kind_eq, hcolon]
    have hlast : last.kind = .endifWord := by rw [fourth.kind_eq, hclosing]
    rw [bind_of_ok (condition_complete htest second (by simp [hmid]) (by simp [hmid])),
      branch_bind hmembers hcolon hchildren (by simp at hfuel ⊢; omega) third
        ((first.cons second).inOrder horder) (by rw [hlast]; rfl)
        (Cursor.not_isAtElse_of_ne (by simp [hlast])),
      bind_of_ok (eat_of_ne (by simp [hlast])), if_neg (by simp), pure_bind,
      ← htakes.rangeFrom_eq (by simp)]
    exact conditionalEnd_complete fourth hclosing
  | choiceElse _ htest hcolon hchildren helse helseColon helseChildren hclosing =>
    obtain ⟨mid, second, hrest⟩ := hrest.split
    obtain ⟨elseAt, third, hrest'⟩ := (List.cons_append ▸ hrest).split
    obtain ⟨_, fourth, hrest''⟩ := hrest'.uncons
    obtain ⟨last, fifth, sixth⟩ := (List.cons_append ▸ hrest'').split
    have hmid : mid.kind = .colon := by rw [hrest.kind_eq, hcolon]
    have helseAt : elseAt.kind = .elseWord := by rw [hrest'.kind_eq, helse]
    -- The colon tells this `else` from one that goes on with a value.
    have hnot : ¬ elseAt.IsAtElse := fun h => h.2 (by rw [hrest'.nth_one_eq, helseColon])
    have hlast : last.kind = .endifWord := by rw [sixth.kind_eq, hclosing]
    have htaken := (first.cons second).append third
    have heat := fourth.eat
    rw [helse] at heat
    rw [bind_of_ok (condition_complete htest second (by simp [hmid]) (by simp [hmid])),
      branch_bind hmembers hcolon hchildren (by simp at hfuel ⊢; omega) third
        ((first.cons second).inOrder horder) (by rw [helseAt]; rfl) hnot,
      bind_of_ok heat, if_pos rfl,
      branch_bind hmembers helseColon helseChildren (by simp at hfuel ⊢; omega) fifth
        ((htaken.append fourth).inOrder horder) (by rw [hlast]; rfl)
        (Cursor.not_isAtElse_of_ne (by simp [hlast])), isAt, look_bind,
      if_neg (by simp [hlast]), ← htakes.rangeFrom_eq (by simp)]
    exact conditionalEnd_complete sixth hclosing

theorem memberWith_complete_succ {fuel : Nat} (hmembers : ReadsMembers fuel) :
    ReadsMember (fuel + 2) := by
  intro word child cursor after h hfuel htakes horder hclear
  rw [memberWith, look_bind]
  cases h with
  | field hbinding =>
    obtain ⟨name, second, rest, rfl, hname, hcolon⟩ := hbinding.starts
    rw [htakes.current_eq, hname]
    change (isBeforeColon >>= _) cursor = _
    rw [isBeforeColon, look_bind, if_neg (by simpa [htakes.nth_one_eq] using hcolon),
      bind_of_ok (binding_complete hbinding htakes horder hclear)]
    rfl
  | block hblock =>
    obtain ⟨name, second, rest, rfl, hname, hcolon⟩ := hblock.starts
    rw [htakes.current_eq, hname]
    change (isBeforeColon >>= _) cursor = _
    rw [isBeforeColon, look_bind, if_pos (by simpa [htakes.nth_one_eq] using hcolon),
      bind_of_ok (blockWith_complete hmembers hblock (by omega) htakes horder)]
    rfl
  | choice hkeyword htest hcolon hchildren hclosing =>
    rw [htakes.current_eq, hkeyword]
    exact blockConditionalWith_complete hmembers
      (.choice hkeyword htest hcolon hchildren hclosing) hkeyword (by omega) htakes horder
  | choiceElse hkeyword htest hcolon hchildren helse helseColon helseChildren hclosing =>
    rw [htakes.current_eq, hkeyword]
    exact blockConditionalWith_complete hmembers
      (.choiceElse hkeyword htest hcolon hchildren helse helseColon helseChildren hclosing)
      hkeyword (by omega) htakes horder

/-- Members and one member, with the same fuel. -/
theorem membersWith_complete : ∀ fuel : Nat, ReadsMembers fuel ∧ ReadsMember fuel
  | 0 => by
    refine ⟨?_, ?_⟩
    · intro word children cursor after progress h hfuel
      simp at hfuel
    · intro word child cursor after h hfuel
      obtain ⟨token, rest, rfl, -⟩ := h.starts
      simp at hfuel
  | 1 => by
    refine ⟨membersWith_complete_succ (membersWith_complete 0).2 (membersWith_complete 0).1, ?_⟩
    intro word child cursor after h hfuel
    obtain ⟨token, rest, rfl, -⟩ := h.starts
    simp at hfuel
    omega
  | fuel + 2 =>
    ⟨membersWith_complete_succ (membersWith_complete (fuel + 1)).2
        (membersWith_complete (fuel + 1)).1,
      memberWith_complete_succ (membersWith_complete fuel).1⟩

/-! ## Statements -/

theorem gather_complete {result : Gather} (h : IsStatement word (.gather result))
    (htakes : Takes cursor word after) (has : after.kind ≠ .asWord) :
    gather cursor = .ok result after := by
  unfold gather
  cases h with
  | gather hkeyword hpath =>
    obtain ⟨_, first, second⟩ := htakes.uncons
    have hnot : ¬ after.current.IsOnLine .asWord := fun h => has h.1
    rw [bind_of_ok first.bump, bind_of_ok (second.take hpath _), isAtOnLine_bind,
      decide_eq_false hnot, if_neg (by simp), pure_bind]
    exact (htakes.rangeFrom_bind (by simp) _ _).trans rfl
  | gatherAs hkeyword hpath hasWord hname =>
    obtain ⟨_, first, hrest⟩ := htakes.uncons
    obtain ⟨_, second, hrest⟩ := hrest.uncons
    obtain ⟨_, third, fourth⟩ := hrest.uncons
    rw [bind_of_ok first.bump, bind_of_ok (second.take hpath _), isAtOnLine_bind,
      third.current_eq, decide_eq_true hasWord, if_pos rfl, bind_of_ok third.bump, ← hname,
      bind_of_ok (fourth.expect _), pure_bind]
    exact (htakes.rangeFrom_bind (by simp) _ _).trans rfl

/-- A token that a statement begins with goes on with no statement, and neither does the
end. -/
theorem isClear_of_startsStatement (h : cursor.kind = .eof ∨ startsStatement cursor.kind) :
    cursor.IsClear ∧ cursor.kind ≠ .asWord := by
  have hne : cursor.kind ≠ .dot ∧ cursor.kind ≠ .elseWord ∧ cursor.kind ≠ .asWord := by
    cases hkind : cursor.kind <;> simp_all [startsStatement]
  exact ⟨Cursor.isClear_of_ne hne.1 hne.2.1, hne.2.2⟩

theorem statement_complete {result : Statement} (h : IsStatement word result)
    (htakes : Takes cursor word after) (horder : cursor.InOrder)
    (hafter : after.kind = .eof ∨ startsStatement after.kind) :
    statement cursor = .ok result after := by
  obtain ⟨hclear, has⟩ := isClear_of_startsStatement hafter
  unfold statement
  rw [look_bind]
  cases h with
  | metadata hmarker hkey hline hvalue =>
    rw [htakes.current_eq, hmarker]
    obtain ⟨_, first, hrest⟩ := htakes.uncons
    obtain ⟨_, second, third⟩ := hrest.uncons
    change metadata cursor = _
    unfold metadata
    rw [bind_of_ok first.bump, bind_of_ok (second.take hkey _),
      bind_of_ok (boundValue_complete hline hvalue third ((first.cons second).inOrder horder)
        (hclear.isAfter _))]
    exact (htakes.rangeFrom_bind (by simp) _ _).trans rfl
  | gather hkeyword hpath =>
    rw [htakes.current_eq, hkeyword]
    exact (bind_of_ok (gather_complete (.gather hkeyword hpath) htakes has)).trans rfl
  | gatherAs hkeyword hpath hasWord hname =>
    rw [htakes.current_eq, hkeyword]
    exact (bind_of_ok (gather_complete (.gatherAs hkeyword hpath hasWord hname) htakes has)).trans
      rfl
  | block hblock =>
    obtain ⟨name, second, rest, rfl, hname, hcolon⟩ := hblock.starts
    rw [htakes.current_eq, hname]
    change (isBeforeColon >>= _) cursor = _
    rw [isBeforeColon, look_bind, if_pos (by simpa [htakes.nth_one_eq] using hcolon)]
    have hfuel : 3 * (name :: second :: rest).length ≤ 3 * cursor.ahead.length + 2 + 3 := by
      simp [htakes.ahead]
      omega
    exact (bind_of_ok (blockWith_complete (membersWith_complete _).1 hblock hfuel htakes
      horder)).trans rfl
  | global hbinding =>
    obtain ⟨name, second, rest, rfl, hname, hcolon⟩ := hbinding.starts
    rw [htakes.current_eq, hname]
    change (isBeforeColon >>= _) cursor = _
    rw [isBeforeColon, look_bind, if_neg (by simpa [htakes.nth_one_eq] using hcolon),
      bind_of_ok (binding_complete hbinding htakes horder hclear)]
    rfl

/-- Statements up to the end. -/
theorem statementsWith_complete {document : Document} (h : AreStatements word document)
    {fuel : Nat} (hfuel : word.length < fuel) {progress : Progress} {cursor : Cursor}
    (htakes : Takes cursor word after) (horder : cursor.InOrder)
    (hprogress : progress.IsBefore cursor) (heof : after.kind = .eof) :
    statementsWith fuel progress cursor = .ok document after := by
  induction h generalizing fuel progress cursor with
  | nil =>
    obtain rfl := htakes.eq_of_nil
    cases fuel with
    | zero => simp at hfuel
    | succ fuel =>
      rw [statementsWith, isAt, look_bind, if_pos (by simpa using heof)]
      rfl
  | @cons _ word' _ _ hstatement hrest ih =>
    cases fuel with
    | zero => simp at hfuel
    | succ fuel =>
      obtain ⟨mid, first, second⟩ := htakes.split
      obtain ⟨token, rest, rfl, htoken⟩ := hstatement.starts
      have hmid : mid.kind = .eof ∨ startsStatement mid.kind := by
        cases hrest with
        | nil => exact .inl (second.eq_of_nil ▸ heof)
        | cons hnext _ =>
          obtain ⟨_, _, rfl, hstarts⟩ := hnext.starts
          exact .inr (by rwa [second.kind_eq])
      have hkind : cursor.kind ≠ .eof := by
        rw [first.kind_eq]
        intro hkind
        simp [hkind, startsStatement] at htoken
      rw [statementsWith, isAt, look_bind, if_neg (by simpa using hkind),
        bind_of_ok (first.step hprogress),
        bind_of_ok (statement_complete hstatement first horder hmid),
        bind_of_ok (ih (by simp at hfuel; omega) second (first.inOrder horder)
          (first.seen_isBefore horder))]
      rfl

end Grammar

end Rune
