import Rune.Proofs.SideBySide
import Rune.Proofs.Token.Streams
import Rune.Proofs.Tree.Acceptance
import Rune.Proofs.Tree.Likeness

/-!
# Rune - tokens of two sources read side by side

The grammar looks at the kinds and the texts of tokens and at their line breaks.  Of
their ranges it makes the ranges of the tree, and it asks only whether a token begins
behind another one.  So tokens that differ in their places alone, but keep their order,
are read in the same way: to trees that are alike, or to the same complaint.

Main results:

- Structure {lit}`Pairing` says how the ranges of the tokens of two sources correspond.
- Theorem {lit}`Grammar.document_parallel`: documents are read side by side.
- Theorem {lit}`Pairing.parse_cases`: two sources with tokens that correspond are parsed
  to documents that are alike, or to the same complaint.
-/

namespace Rune

/-! ## Sources that correspond -/

/-- The ranges of the tokens of two sources correspond, in the same order, and so do the
ranges that are made of them. -/
structure Pairing where
  source : Source
  source' : Source
  tokens : TextRange → TextRange → Prop
  places : TextRange → TextRange → Prop
  places_of_tokens : ∀ {a b}, tokens a b → places a b
  start_lt_iff : ∀ {a b c d}, tokens a b → tokens c d → (a.start < c.start ↔ b.start < d.start)
  cover : ∀ {a b c d}, tokens a b → tokens c d → places (a.cover c) (b.cover d)

namespace Pairing

variable (p : Pairing)

/-- The trees of two such sources differ in their ranges. -/
abbrev like : Likeness := .placed p.places

/-- Two tokens correspond. -/
abbrev Tokens (token token' : Token) : Prop := token.Like p.tokens token'

/-- Two cursors are at places that correspond. -/
structure Cursors (cursor cursor' : Cursor) : Prop where
  source_eq : cursor.source = p.source
  source'_eq : cursor'.source = p.source'
  behind : List.Forall₂ p.Tokens cursor.behind cursor'.behind
  ahead : List.Forall₂ p.Tokens cursor.ahead cursor'.ahead
  finish : p.Tokens cursor.finish cursor'.finish

/-- Two failures are of the same kind: the same complaint about ranges that correspond,
or the same fault.  A loop that stands still tells its range. -/
inductive Failures : Failure → Failure → Prop
  | grammatical (complaint : Complaint) {range range' : TextRange} (h : p.places range range') :
    Failures (.grammatical (p.source.diagnose complaint range))
      (.grammatical (p.source'.diagnose complaint range'))
  | fault (fault : Fault) : Failures (.fault fault) (.fault fault)
  | stalled (found : String) (range range' : TextRange) :
    Failures (.fault (.stalled found range)) (.fault (.stalled found range'))

/-- Two steps of the grammar go side by side. -/
abbrev Parallel {α β : Type} (values : α → β → Prop) (x : Parse α) (y : Parse β) : Prop :=
  SideBySide p.Cursors p.Failures values x y

end Pairing

namespace Token.Like

variable {places : TextRange → TextRange → Prop} {token token' : Token}

theorem describe_eq (h : token.Like places token') : token'.describe = token.describe := by
  simp [describe, h.kind_eq, h.text_eq]

theorem scalarOf_eq (h : token.Like places token') :
    Grammar.scalarOf token' = Grammar.scalarOf token := by
  simp [Grammar.scalarOf, h.kind_eq, h.text_eq, h.value_eq]

theorem unexpected_eq (h : token.Like places token') (place : String) :
    GrammarFault.unexpected token' place = GrammarFault.unexpected token place := by
  simp [GrammarFault.unexpected, h.kind_eq, h.text_eq, h.describe_eq]

theorem expected_eq (h : token.Like places token') (wanted : String) :
    GrammarFault.expected wanted token' = GrammarFault.expected wanted token := by
  simp [GrammarFault.expected, h.describe_eq]

end Token.Like

namespace Pairing.Cursors

variable {p : Pairing} {cursor cursor' : Cursor}

theorem nth (h : p.Cursors cursor cursor') (n : Nat) :
    p.Tokens (cursor.nth n) (cursor'.nth n) := h.ahead.getD_getElem? h.finish n

theorem current (h : p.Cursors cursor cursor') : p.Tokens cursor.current cursor'.current := by
  simpa only [Cursor.current, List.head?_eq_getElem?] using h.ahead.getD_getElem? h.finish 0

theorem previous (h : p.Cursors cursor cursor') : p.Tokens cursor.previous cursor'.previous := by
  simpa only [Cursor.previous, List.head?_eq_getElem?] using h.behind.getD_getElem? h.current 0

theorem advance (h : p.Cursors cursor cursor') : p.Cursors cursor.advance cursor'.advance := by
  unfold Cursor.advance
  cases cursor with
  | mk source behind ahead finish =>
  cases cursor' with
  | mk source' behind' ahead' finish' =>
  obtain ⟨hsource, hsource', hbehind, hahead, hfinish⟩ := h
  cases hahead with
  | nil => exact ⟨hsource, hsource', hbehind, .nil, hfinish⟩
  | cons htoken hahead => exact ⟨hsource, hsource', .cons htoken hbehind, hahead, hfinish⟩

theorem kind_eq (h : p.Cursors cursor cursor') : cursor'.kind = cursor.kind := h.current.kind_eq

theorem lineBreak_eq (h : p.Cursors cursor cursor') : cursor'.lineBreak = cursor.lineBreak :=
  h.current.lineBreak_eq

theorem length_eq (h : p.Cursors cursor cursor') : cursor'.ahead.length = cursor.ahead.length :=
  h.ahead.length_eq.symm

end Pairing.Cursors

/-! ## Steps -/

namespace Pairing.Parallel

open Parse

variable {p : Pairing} {α β : Type}

/-- Looking at something that is the same at places that correspond. -/
theorem look {f : Cursor → α} {g : Cursor → β} {R : α → β → Prop}
    (h : ∀ {cursor cursor'}, p.Cursors cursor cursor' → R (f cursor) (g cursor')) :
    p.Parallel R (look f) (look g) := fun _ _ hcursors => .ok (h hcursors) hcursors

theorem current : p.Parallel p.Tokens (Parse.look Cursor.current) (Parse.look Cursor.current) :=
  look fun h => h.current

theorem bump : p.Parallel p.Tokens bump bump := fun _ _ h => .ok h.current h.advance

theorem isAt (kind : TokenKind) : p.Parallel (· = ·) (isAt kind) (isAt kind) :=
  look fun h => by rw [h.kind_eq]

theorem isAtOnLine (kind : TokenKind) :
    p.Parallel (· = ·) (Grammar.isAtOnLine kind) (Grammar.isAtOnLine kind) :=
  look fun h => by rw [h.kind_eq, h.lineBreak_eq]

theorem isBeforeColon : p.Parallel (· = ·) Grammar.isBeforeColon Grammar.isBeforeColon :=
  look fun h => by rw [(h.nth 1).kind_eq]

theorem rangeFrom {start start' : TextRange} (h : p.tokens start start') :
    p.Parallel p.places (rangeFrom start) (rangeFrom start') :=
  look fun hcursors => p.cover h hcursors.previous.range

theorem ofExcept (result : Except Fault α) :
    p.Parallel (· = ·) (ofExcept result) (ofExcept result) := by
  cases result with
  | ok a => exact .pure rfl
  | error fault => exact .throw (.fault fault)

theorem complainAt {R : α → β → Prop} (complaint : Complaint) {range range' : TextRange}
    (h : p.places range range') :
    p.Parallel R (complainAt complaint range) (complainAt complaint range') := by
  intro cursor cursor' hcursors
  refine .error ?_ hcursors
  rw [hcursors.source_eq, hcursors.source'_eq]
  exact .grammatical complaint h

theorem complain {R : α → β → Prop} (complaint : Complaint) :
    p.Parallel R (complain complaint) (complain complaint) := fun _ _ hcursors =>
  complainAt complaint (p.places_of_tokens hcursors.current.range) _ _ hcursors

theorem eat (kind : TokenKind) : p.Parallel (· = ·) (eat kind) (eat kind) := by
  refine (isAt kind).bind fun found _ heq => ?_
  cases heq
  exact .ite (bump.bind fun _ _ _ => .pure rfl) (.pure rfl)

theorem expect (kind : TokenKind) (name : String) :
    p.Parallel p.Tokens (expect kind name) (expect kind name) := by
  refine current.bind fun token token' htoken => ?_
  dsimp only
  rw [htoken.kind_eq, htoken.describe_eq]
  exact .ite bump (complain _)

theorem stall {R : α → β → Prop} : p.Parallel R Grammar.stall Grammar.stall := by
  intro cursor cursor' hcursors
  refine .error ?_ hcursors
  rw [Progress.stalled, Progress.stalled, hcursors.kind_eq]
  exact .stalled _ _ _

theorem fail {R : α → β → Prop} {fault fault' : GrammarFault}
    (h : fault'.complaint = fault.complaint) :
    p.Parallel R (Grammar.fail fault) (Grammar.fail fault') := by
  rw [Grammar.fail, Grammar.fail, h]
  exact complain _

theorem take (kind : TokenKind) {fault fault' : Token → GrammarFault}
    (hfault : ∀ {token token'}, p.Tokens token token' →
      (fault' token').complaint = (fault token).complaint) :
    p.Parallel p.Tokens (Grammar.take kind fault) (Grammar.take kind fault') := by
  refine (isAtOnLine kind).bind fun found _ heq => ?_
  cases heq
  refine .ite bump (current.bind fun token token' htoken => ?_)
  exact fail (hfault htoken)

theorem failAt {R : α → β → Prop} {fault fault' : GrammarFault} {range range' : TextRange}
    (h : fault'.complaint = fault.complaint) (hrange : p.tokens range range') :
    p.Parallel R (Grammar.failAt fault range) (Grammar.failAt fault' range') := by
  rw [Grammar.failAt, Grammar.failAt, h]
  exact complainAt _ (p.places_of_tokens hrange)

/-- A check before the rest. -/
theorem check {γ δ : Type} {c : Prop} [Decidable c] {values : α → β → Prop}
    {others : γ → δ → Prop} {x : Parse α} {y : Parse β} {rest : Parse γ} {rest' : Parse δ}
    (hcheck : p.Parallel values x y) (hrest : p.Parallel others rest rest') :
    p.Parallel others (if c then x >>= fun _ => rest else rest)
      (if c then y >>= fun _ => rest' else rest') :=
  .ite (hcheck.bind fun _ _ _ => hrest) hrest

end Pairing.Parallel

/-! ### Progress -/

/-- Two loops were last seen at tokens that correspond. -/
def Pairing.Progresses (p : Pairing) (progress progress' : Progress) : Prop :=
  Option.Rel (fun n n' => ∃ range range', p.tokens range range' ∧ range.start = n ∧
    range'.start = n') progress.lastSeen progress'.lastSeen

namespace Pairing.Progresses

variable {p : Pairing} {progress progress' : Progress}

theorem start : p.Progresses .start .start := .none

/-- One loop has moved on if the other one has. -/
theorem hasProgressed_eq (h : p.Progresses progress progress') {cursor cursor' : Cursor}
    (hcursors : p.Cursors cursor cursor') :
    progress'.hasProgressed cursor' = progress.hasProgressed cursor := by
  obtain ⟨lastSeen⟩ := progress
  obtain ⟨lastSeen'⟩ := progress'
  cases h with
  | none => rfl
  | some hseen =>
    obtain ⟨range, range', htokens, rfl, rfl⟩ := hseen
    exact decide_eq_decide.mpr (p.start_lt_iff htokens hcursors.current.range).symm

theorem step (h : p.Progresses progress progress') :
    p.Parallel p.Progresses progress.step progress'.step := by
  intro cursor cursor' hcursors
  rw [Progress.step, Progress.step, h.hasProgressed_eq hcursors]
  split
  · exact .ok (.some ⟨_, _, hcursors.current.range, rfl, rfl⟩) hcursors
  · rw [Progress.stalled, Progress.stalled, hcursors.kind_eq]
    exact .error (.stalled _ _ _) hcursors

end Pairing.Progresses

/-! ## References inside strings -/

namespace Interpolation

variable {places : TextRange → TextRange → Prop} {range range' : TextRange}

/-- A reference is recognised wherever the string stands. -/
theorem referenceAt?_like (h : places range range') (chars : List Char) :
    Option.Rel (fun a b => a.1.Like (.placed places) b.1 ∧ b.2 = a.2)
      (referenceAt? range chars) (referenceAt? range' chars) := by
  simp only [referenceAt?]
  split
  · exact .some ⟨.env h, rfl⟩
  · generalize named? _ "sys.".toList _ = found
    cases found with
    | none => exact .none
    | some found => exact .some ⟨.sys rfl h, rfl⟩

/-- Pieces of texts are alike. -/
theorem textPiece_like (l : Likeness) (chars : List Char) :
    List.Forall₂ (Piece.Like l) (textPiece chars) (textPiece chars) := by
  unfold textPiece
  split
  · exact .nil
  · exact .cons (.text _) .nil

/-- The pieces of a string are alike wherever it stands. -/
theorem pieces_like (h : places range range') (chars : List Char) (cursor : Nat)
    (dollars : List Nat) :
    List.Forall₂ (Piece.Like (.placed places)) (pieces range chars cursor dollars).1
        (pieces range' chars cursor dollars).1 ∧
      (pieces range' chars cursor dollars).2 = (pieces range chars cursor dollars).2 := by
  induction dollars generalizing cursor with
  | nil => exact ⟨textPiece_like _ _, rfl⟩
  | cons offset dollars ih =>
    simp only [pieces]
    split
    · exact ih cursor
    · have href := referenceAt?_like h (chars.drop (offset + 1))
      generalize referenceAt? range (chars.drop (offset + 1)) = found at href ⊢
      generalize referenceAt? range' (chars.drop (offset + 1)) = found' at href ⊢
      cases href with
      | none => exact ih cursor
      | @some found found' hfound =>
        obtain ⟨ref, taken⟩ := found
        obtain ⟨ref', taken'⟩ := found'
        obtain ⟨hlike, rfl⟩ := hfound
        exact ⟨List.rel_append (textPiece_like _ _) (.cons (.ref hlike) (ih _).1), rfl⟩

/-- A string stands for operands that are alike wherever it stands. -/
theorem operandOf_like {token token' : Token} (h : token.Like places token') :
    (operandOf token).Like (.placed places) (operandOf token') := by
  have hpieces := pieces_like h.range token.value.toList 0 token.dollars
  have hinterpolates : token'.interpolates = token.interpolates := by
    simp [Token.interpolates, h.kind_eq, h.dollars_eq]
  simp only [operandOf, hinterpolates, h.value_eq, h.dollars_eq]
  split
  · rw [hpieces.2]
    split
    · exact .interpolated hpieces.1 h.range
    · exact .literal h.range
  · exact .literal h.range

end Interpolation

/-! ## Operands and conditions -/

namespace Token.Like

variable {p : Pairing} {token token' : Token}

/-- What stands at places that correspond, its range made a place of the tree. -/
theorem toPlaces (h : token.Like p.tokens token') : token.Like p.places token' :=
  { h with range := p.places_of_tokens h.range }

end Token.Like

namespace Grammar

open Parse Pairing

variable {p : Pairing}

theorem literal_parallel : p.Parallel (Operand.Like p.like) literal literal := by
  refine Parallel.bump.bind fun token token' htoken => ?_
  rw [htoken.scalarOf_eq]
  refine (Parallel.ofExcept _).bind fun scalar _ heq => ?_
  cases heq
  exact .pure (.literal (p.places_of_tokens htoken.range))

theorem string_parallel : p.Parallel (Operand.Like p.like) string string :=
  Parallel.bump.bind fun _ _ htoken => .pure (Interpolation.operandOf_like htoken.toPlaces)

theorem segments_parallel (fuel : Nat) : p.Parallel (· = ·) (segments fuel) (segments fuel) := by
  induction fuel with
  | zero => exact .pure rfl
  | succ fuel ih =>
    refine (Parallel.isAtOnLine .dot).bind fun found _ heq => ?_
    cases heq
    refine .ite (Parallel.bump.bind fun _ _ _ => ?_) (.pure rfl)
    refine (Parallel.take .identifier fun h => ?_).bind fun segment segment' hsegment =>
      ih.bind fun rest _ hrest => ?_
    · simp [GrammarFault.complaint, h.expected_eq]
    · cases hrest
      rw [hsegment.text_eq]
      exact .pure rfl

theorem reference_parallel : p.Parallel (Operand.Like p.like) reference reference := by
  refine (Parallel.expect .identifier _).bind fun first first' hfirst => ?_
  refine (Parallel.look (R := (· = ·)) fun h => h.length_eq.symm).bind fun fuel _ heq => ?_
  cases heq
  refine (segments_parallel fuel).bind fun rest _ heq =>
    (Parallel.rangeFrom hfirst.range).bind fun range range' hrange => ?_
  cases heq
  rw [hfirst.text_eq]
  cases rest with
  | nil => exact .pure (.name rfl hrange)
  | cons next rest => exact .pure (.path rfl rfl (List.forall₂_same.mpr fun _ _ => rfl) hrange)

theorem hostReference_parallel :
    p.Parallel (Operand.Like p.like) hostReference hostReference := by
  refine Parallel.bump.bind fun marker marker' hmarker => ?_
  dsimp only
  rw [hmarker.kind_eq]
  refine (Parallel.take .dot fun _ => rfl).bind fun _ _ _ =>
    (Parallel.take .identifier fun h => ?_).bind fun name name' hname =>
      (Parallel.rangeFrom hmarker.range).bind fun range range' hrange => ?_
  · simp [GrammarFault.complaint, h.expected_eq]
  · rw [hname.text_eq]
    refine .pure (.host ?_)
    split
    · exact .env hrange
    · exact .sys rfl hrange

theorem conditionOperand_parallel :
    p.Parallel (Operand.Like p.like) conditionOperand conditionOperand := by
  refine Parallel.current.bind fun token token' htoken => ?_
  have hfault : (GrammarFault.badOperand token').complaint =
      (GrammarFault.badOperand token).complaint := by
    simp [GrammarFault.complaint, htoken.describe_eq]
  rw [htoken.kind_eq]
  cases token.kind with
  | identifier => exact reference_parallel
  | env | sys => exact hostReference_parallel
  | string => exact string_parallel
  | int | float | trueWord | falseWord | null => exact literal_parallel
  | _ => exact Parallel.fail hfault

theorem comparison_parallel {start start' : TextRange} (hstart : p.tokens start start')
    {left left' : Operand} (hleft : left.Like p.like left') :
    p.Parallel (Condition.Like p.like) (comparison start left) (comparison start' left') := by
  refine (Parallel.eat .equal).bind fun found _ heq => ?_
  cases heq
  refine .ite ?_ ?_
  · exact conditionOperand_parallel.bind fun _ _ hright =>
      (Parallel.rangeFrom hstart).bind fun _ _ hrange => .pure (.equality hleft hright hrange)
  · exact (Parallel.rangeFrom hstart).bind fun _ _ hrange => .pure (.presence hleft hrange)

theorem condition_parallel : p.Parallel (Condition.Like p.like) condition condition := by
  refine (Parallel.look (R := p.tokens) fun h => h.current.range).bind
    fun start start' hstart => ?_
  refine (Parallel.look (R := (· = ·)) fun h => h.lineBreak_eq.symm).bind
    fun broken _ heq => ?_
  cases heq
  refine Parallel.check (Parallel.complain (R := fun _ _ => True) _) ?_
  refine (Parallel.eat .leftParen).bind fun found _ heq => conditionOperand_parallel.bind
    fun left left' hleft => (comparison_parallel hstart hleft).bind
      fun result result' hresult => ?_
  cases heq
  exact Parallel.check (Parallel.expect _ _) (.pure hresult)

/-! ## Values -/

/-- Values, arrays, their items and choices are read side by side, with the same fuel. -/
structure ValuesParallel (p : Pairing) (fuel : Nat) : Prop where
  value : p.Parallel (ValueExpr.Like p.like) (valueWith fuel) (valueWith fuel)
  array : p.Parallel (ValueExpr.Like p.like) (arrayWith fuel) (arrayWith fuel)
  items : ∀ {opening opening' progress progress'}, p.tokens opening opening' →
    p.Progresses progress progress' →
    p.Parallel (List.Forall₂ (ValueExpr.Like p.like)) (itemsWith fuel opening progress)
      (itemsWith fuel opening' progress')
  conditional : p.Parallel (ValueExpr.Like p.like) (conditionalWith fuel) (conditionalWith fuel)

namespace ValuesParallel

variable {fuel : Nat}

theorem zero : ValuesParallel p 0 where
  value := Parallel.stall
  array := Parallel.stall
  items _ _ := Parallel.stall
  conditional := Parallel.stall

theorem value_succ (h : ValuesParallel p fuel) :
    p.Parallel (ValueExpr.Like p.like) (valueWith (fuel + 1)) (valueWith (fuel + 1)) := by
  rw [valueWith]
  refine Parallel.current.bind fun token token' htoken => ?_
  have hfault : (GrammarFault.noValue token').complaint =
      (GrammarFault.noValue token).complaint := by
    simp [GrammarFault.complaint, htoken.expected_eq]
  rw [htoken.kind_eq, htoken.value_eq]
  cases token.kind with
  | string => exact string_parallel.bind fun _ _ hoperand => .pure (.operand hoperand)
  | rawString =>
    exact Parallel.bump.bind fun _ _ _ => .pure (.rawString (p.places_of_tokens htoken.range))
  | int | float | trueWord | falseWord | null =>
    exact literal_parallel.bind fun _ _ hoperand => .pure (.operand hoperand)
  | identifier => exact reference_parallel.bind fun _ _ hoperand => .pure (.operand hoperand)
  | env | sys => exact hostReference_parallel.bind fun _ _ hoperand => .pure (.operand hoperand)
  | leftBracket => exact h.array
  | ifWord => exact h.conditional
  | _ => exact Parallel.fail hfault

theorem array_succ (h : ValuesParallel p fuel) :
    p.Parallel (ValueExpr.Like p.like) (arrayWith (fuel + 1)) (arrayWith (fuel + 1)) := by
  rw [arrayWith]
  exact Parallel.bump.bind fun _ _ hopening => (h.items hopening.range .start).bind
    fun _ _ hitems => (Parallel.rangeFrom hopening.range).bind fun _ _ hrange =>
      .pure (.array hitems hrange)

theorem items_succ (h : ValuesParallel p fuel) {opening opening' : TextRange}
    {progress progress' : Progress} (hopening : p.tokens opening opening')
    (hprogress : p.Progresses progress progress') :
    p.Parallel (List.Forall₂ (ValueExpr.Like p.like)) (itemsWith (fuel + 1) opening progress)
      (itemsWith (fuel + 1) opening' progress') := by
  rw [itemsWith, itemsWith]
  refine (Parallel.eat .rightBracket).bind fun closed _ heq => ?_
  cases heq
  refine .ite (.pure .nil) (hprogress.step.bind fun seen seen' hseen =>
    (Parallel.isAt .eof).bind fun ended _ heq => ?_)
  cases heq
  refine Parallel.check (Parallel.failAt (R := fun _ _ => True) rfl hopening) ?_
  refine h.value.bind fun item item' hitem => (Parallel.eat .comma).bind fun comma _ heq => ?_
  cases heq
  have hrest : p.Parallel (List.Forall₂ (ValueExpr.Like p.like))
      (itemsWith fuel opening seen >>= fun rest => pure (item :: rest))
      (itemsWith fuel opening' seen' >>= fun rest => pure (item' :: rest)) :=
    (h.items hopening hseen).bind fun _ _ hitems => .pure (.cons hitem hitems)
  refine .ite ?_ hrest
  refine (Parallel.look (R := (· = ·)) fun hcursors => ?_).bind fun separated _ heq => ?_
  · rw [hcursors.kind_eq, hcursors.lineBreak_eq]
  · cases heq
    refine .ite (Parallel.current.bind fun found found' hfound => ?_) hrest
    refine (Parallel.fail (R := fun _ _ => True) ?_).bind fun _ _ _ => hrest
    simp [GrammarFault.complaint, hfound.expected_eq]

theorem conditional_succ (h : ValuesParallel p fuel) :
    p.Parallel (ValueExpr.Like p.like) (conditionalWith (fuel + 1))
      (conditionalWith (fuel + 1)) := by
  rw [conditionalWith]
  refine Parallel.bump.bind fun keyword keyword' hkeyword => condition_parallel.bind
    fun condition condition' hcondition => h.value.bind fun thenValue thenValue' hthen =>
      (Parallel.isAt .elseWord).bind fun isElse _ heq => Parallel.isBeforeColon.bind
        fun isColon _ heq' => ?_
  cases heq
  cases heq'
  refine .ite ?_ ?_
  · exact Parallel.bump.bind fun _ _ _ => h.value.bind fun elseValue elseValue' helse =>
      (Parallel.rangeFrom hkeyword.range).bind fun _ _ hrange =>
        .pure (.choiceElse hcondition hthen helse hrange)
  · exact (Parallel.rangeFrom hkeyword.range).bind fun _ _ hrange =>
      .pure (.choice hcondition hthen hrange)

end ValuesParallel

/-- Values are read side by side, whatever the fuel. -/
theorem valueWith_parallel (fuel : Nat) : ValuesParallel p fuel := by
  induction fuel with
  | zero => exact .zero
  | succ fuel ih => exact ⟨ih.value_succ, ih.array_succ, ih.items_succ, ih.conditional_succ⟩

/-- The fuel is the same at places that correspond. -/
theorem fuelFor_eq {cursor cursor' : Cursor} (h : p.Cursors cursor cursor') :
    fuelFor cursor' = fuelFor cursor := by
  rw [fuelFor, fuelFor, h.length_eq]

theorem value_parallel : p.Parallel (ValueExpr.Like p.like) value value := by
  intro cursor cursor' h
  rw [value, value, fuelFor_eq h]
  exact (valueWith_parallel _).value _ _ h

theorem boundValue_parallel : p.Parallel (ValueExpr.Like p.like) boundValue boundValue := by
  refine (Parallel.look (R := (· = ·)) fun h => ?_).bind fun broken _ heq => ?_
  · rw [h.kind_eq, h.lineBreak_eq]
  · cases heq
    refine .ite ?_ value_parallel
    refine (Parallel.look (R := p.Tokens) fun h => h.previous).bind fun key key' hkey => ?_
    refine (Parallel.failAt (R := fun _ _ => True) ?_ hkey.range).bind
      fun _ _ _ => value_parallel
    simp [GrammarFault.complaint, hkey.text_eq]

/-- Bindings are alike: their names, their values and their ranges. -/
def BindingLike (p : Pairing) (binding binding' : String × ValueExpr × TextRange) : Prop :=
  binding'.1 = binding.1 ∧ binding.2.1.Like p.like binding'.2.1 ∧ p.places binding.2.2 binding'.2.2

theorem binding_parallel : p.Parallel (BindingLike p) binding binding := by
  refine Parallel.bump.bind fun name name' hname =>
    (Parallel.isAtOnLine .equal).bind fun found _ heq => ?_
  cases heq
  refine Parallel.check Parallel.bump (boundValue_parallel.bind fun value value' hvalue =>
    (Parallel.rangeFrom hname.range).bind fun range range' hrange => ?_)
  exact .pure ⟨hname.text_eq, hvalue, hrange⟩

/-! ## Blocks -/

theorem conditionalEnd_parallel {keyword keyword' : Token} (hkeyword : p.Tokens keyword keyword')
    {condition condition' : Condition} (hcondition : condition.Like p.like condition')
    {children children' elseChildren elseChildren' : List Member}
    (hchildren : List.Forall₂ (Member.Like p.like) children children')
    (helse : List.Forall₂ (Member.Like p.like) elseChildren elseChildren') :
    p.Parallel (Member.Like p.like) (conditionalEnd keyword condition children elseChildren)
      (conditionalEnd keyword' condition' children' elseChildren') := by
  refine (Parallel.look (R := (· = ·)) fun h => h.kind_eq.symm).bind fun kind _ heq => ?_
  cases heq
  cases kind with
  | endifWord =>
    exact Parallel.bump.bind fun _ _ _ => (Parallel.rangeFrom hkeyword.range).bind
      fun _ _ hrange => .pure (.conditional hcondition hchildren helse hrange)
  | endWord => exact Parallel.fail rfl
  | _ => exact Parallel.failAt rfl hkeyword.range

/-- Blocks are alike: their names, their members and their ranges. -/
def BlockLike (p : Pairing) (block block' : String × List Member × TextRange) : Prop :=
  block'.1 = block.1 ∧ List.Forall₂ (Member.Like p.like) block.2.1 block'.2.1 ∧
    p.places block.2.2 block'.2.2

/-- Members, one member, blocks and choices are read side by side, with the same fuel. -/
structure MembersParallel (p : Pairing) (fuel : Nat) : Prop where
  members : ∀ {progress progress'}, p.Progresses progress progress' →
    p.Parallel (List.Forall₂ (Member.Like p.like)) (membersWith fuel progress)
      (membersWith fuel progress')
  member : p.Parallel (Member.Like p.like) (memberWith fuel) (memberWith fuel)
  block : p.Parallel (BlockLike p) (blockWith fuel) (blockWith fuel)
  conditional : p.Parallel (Member.Like p.like) (blockConditionalWith fuel)
    (blockConditionalWith fuel)

namespace MembersParallel

variable {fuel : Nat}

theorem zero : MembersParallel p 0 where
  members _ := Parallel.stall
  member := Parallel.stall
  block := Parallel.stall
  conditional := Parallel.stall

theorem members_succ (h : MembersParallel p fuel) {progress progress' : Progress}
    (hprogress : p.Progresses progress progress') :
    p.Parallel (List.Forall₂ (Member.Like p.like)) (membersWith (fuel + 1) progress)
      (membersWith (fuel + 1) progress') := by
  rw [membersWith, membersWith]
  refine (Parallel.look (R := (· = ·)) fun hcursors => ?_).bind fun ended _ heq => ?_
  · rw [hcursors.kind_eq]
  · cases heq
    exact .ite (.pure .nil) (hprogress.step.bind fun _ _ hseen => h.member.bind
      fun _ _ hmember => (h.members hseen).bind fun _ _ hrest => .pure (.cons hmember hrest))

theorem member_succ (h : MembersParallel p fuel) :
    p.Parallel (Member.Like p.like) (memberWith (fuel + 1)) (memberWith (fuel + 1)) := by
  rw [memberWith]
  refine Parallel.current.bind fun token token' htoken => ?_
  have hfault : (GrammarFault.unexpectedInBlock token').complaint =
      (GrammarFault.unexpectedInBlock token).complaint := by
    simp [GrammarFault.complaint, htoken.unexpected_eq]
  rw [htoken.kind_eq]
  cases token.kind with
  | identifier =>
    refine Parallel.isBeforeColon.bind fun isColon _ heq => ?_
    cases heq
    refine .ite (h.block.bind ?_) (binding_parallel.bind ?_)
    · rintro ⟨name, children, range⟩ ⟨_, children', range'⟩ ⟨rfl, hchildren, hrange⟩
      exact .pure (.block rfl hchildren hrange)
    · rintro ⟨name, value, range⟩ ⟨_, value', range'⟩ ⟨rfl, hvalue, hrange⟩
      exact .pure (.field rfl hvalue hrange)
  | ifWord => exact h.conditional
  | _ => exact Parallel.fail hfault

theorem block_succ (h : MembersParallel p fuel) :
    p.Parallel (BlockLike p) (blockWith (fuel + 1)) (blockWith (fuel + 1)) := by
  rw [blockWith]
  refine Parallel.bump.bind fun name name' hname => (Parallel.expect _ _).bind
    fun _ _ _ => (h.members .start).bind fun children children' hchildren =>
      Parallel.current.bind fun token token' htoken => ?_
  have hfault : (GrammarFault.strayWord token').complaint =
      (GrammarFault.strayWord token).complaint := by
    simp [GrammarFault.complaint, htoken.text_eq]
  have hunclosed : (GrammarFault.unclosedBlock name'.text).complaint =
      (GrammarFault.unclosedBlock name.text).complaint := by rw [hname.text_eq]
  rw [htoken.kind_eq]
  cases token.kind with
  | endWord =>
    exact Parallel.bump.bind fun _ _ _ => (Parallel.rangeFrom hname.range).bind
      fun _ _ hrange => .pure ⟨hname.text_eq, hchildren, hrange⟩
  | eof => exact Parallel.failAt hunclosed hname.range
  | _ => exact Parallel.fail hfault

theorem conditional_succ (h : MembersParallel p fuel) :
    p.Parallel (Member.Like p.like) (blockConditionalWith (fuel + 1))
      (blockConditionalWith (fuel + 1)) := by
  rw [blockConditionalWith]
  refine Parallel.bump.bind fun keyword keyword' hkeyword => condition_parallel.bind
    fun condition condition' hcondition => (Parallel.expect _ _).bind fun _ _ _ =>
      (h.members .start).bind fun children children' hchildren =>
        (Parallel.eat .elseWord).bind fun isElse _ heq => ?_
  cases heq
  refine .ite ?_ (conditionalEnd_parallel hkeyword hcondition hchildren .nil)
  refine (Parallel.expect _ _).bind fun _ _ _ => (h.members .start).bind
    fun elseChildren elseChildren' helse => (Parallel.isAt .elseWord).bind
      fun isRepeated _ heq => ?_
  cases heq
  exact Parallel.check (Parallel.fail (R := fun _ _ => True) rfl)
    (conditionalEnd_parallel hkeyword hcondition hchildren helse)

end MembersParallel

/-- Members are read side by side, whatever the fuel. -/
theorem membersWith_parallel (fuel : Nat) : MembersParallel p fuel := by
  induction fuel with
  | zero => exact .zero
  | succ fuel ih => exact ⟨ih.members_succ, ih.member_succ, ih.block_succ, ih.conditional_succ⟩

theorem block_parallel : p.Parallel (BlockLike p) block block := by
  intro cursor cursor' h
  rw [block, block, fuelFor_eq h]
  exact (membersWith_parallel _).block _ _ h

/-! ## Statements -/

theorem metadata_parallel : p.Parallel (Statement.Like p.like) metadata metadata := by
  refine Parallel.bump.bind fun marker marker' hmarker =>
    (Parallel.take .identifier fun h => ?_).bind fun key key' hkey =>
      boundValue_parallel.bind fun value value' hvalue =>
        (Parallel.rangeFrom hmarker.range).bind fun range range' hrange => ?_
  · simp [GrammarFault.complaint, h.expected_eq]
  · exact .pure (.metadata hkey.text_eq.symm hvalue hrange)

theorem gather_parallel : p.Parallel (Gather.Like p.like) gather gather := by
  refine Parallel.bump.bind fun keyword keyword' hkeyword =>
    (Parallel.take .string fun h => ?_).bind fun path path' hpath =>
      (Parallel.isAtOnLine .asWord).bind fun explicitAlias _ heq => ?_
  · simp [GrammarFault.complaint, h.expected_eq]
  · cases heq
    have hrest (aliasName : String) : p.Parallel (Gather.Like p.like)
        (rangeFrom keyword.range >>= fun range =>
          pure ⟨path.value, aliasName, range, explicitAlias⟩)
        (rangeFrom keyword'.range >>= fun range =>
          pure ⟨path'.value, aliasName, range, explicitAlias⟩) :=
      (Parallel.rangeFrom hkeyword.range).bind
        fun _ _ hrange => .pure ⟨hpath.value_eq, rfl, hrange, rfl⟩
    refine .ite (Parallel.bump.bind fun _ _ _ => (Parallel.expect _ _).bind
      fun name name' hname => ?_) ?_
    · rw [hname.text_eq]
      exact hrest _
    · have hstem := hrest
        (if FilePath.stem path.value = "" then "imported" else FilePath.stem path.value)
      rw [hpath.value_eq] at hstem ⊢
      exact hstem

theorem statement_parallel : p.Parallel (Statement.Like p.like) statement statement := by
  refine Parallel.current.bind fun token token' htoken => ?_
  have hfault : (GrammarFault.unexpectedAtTop token').complaint =
      (GrammarFault.unexpectedAtTop token).complaint := by
    simp [GrammarFault.complaint, htoken.unexpected_eq]
  rw [htoken.kind_eq]
  cases token.kind with
  | atSign => exact metadata_parallel
  | gather => exact gather_parallel.bind fun _ _ hgather => .pure (.gather hgather)
  | identifier =>
    refine Parallel.isBeforeColon.bind fun isColon _ heq => ?_
    cases heq
    refine .ite (block_parallel.bind ?_) (binding_parallel.bind ?_)
    · rintro ⟨name, children, range⟩ ⟨_, children', range'⟩ ⟨rfl, hchildren, hrange⟩
      exact .pure (.block rfl hchildren hrange)
    · rintro ⟨name, value, range⟩ ⟨_, value', range'⟩ ⟨rfl, hvalue, hrange⟩
      exact .pure (.global rfl hvalue hrange)
  | env | sys | ifWord => exact Parallel.fail rfl
  | _ => exact Parallel.fail hfault

theorem statementsWith_parallel (fuel : Nat) {progress progress' : Progress}
    (hprogress : p.Progresses progress progress') :
    p.Parallel (Document.Like p.like) (statementsWith fuel progress)
      (statementsWith fuel progress') := by
  induction fuel generalizing progress progress' with
  | zero => exact Parallel.stall
  | succ fuel ih =>
    refine (Parallel.isAt .eof).bind fun ended _ heq => ?_
    cases heq
    exact .ite (.pure .nil) (hprogress.step.bind fun _ _ hseen => statement_parallel.bind
      fun _ _ hstatement => (ih hseen).bind fun _ _ hrest => .pure (.cons hstatement hrest))

/-- Documents are read side by side. -/
theorem document_parallel : p.Parallel (Document.Like p.like) document document := by
  intro cursor cursor' h
  rw [document, document, fuelFor_eq h]
  exact statementsWith_parallel _ .start _ _ h

end Grammar

/-! ## Sources -/

namespace Pairing

/-- Tokens that correspond are read side by side, from the first ones on. -/
theorem document_matching (p : Pairing) {word word' : List Token} {finish finish' : Token}
    (hword : List.Forall₂ p.Tokens word word') (hfinish : p.Tokens finish finish') :
    Matching p.Cursors p.Failures (Document.Like p.like)
      (Grammar.document ⟨p.source, [], word, finish⟩)
      (Grammar.document ⟨p.source', [], word', finish'⟩) :=
  Grammar.document_parallel _ _ ⟨rfl, rfl, .nil, hword, hfinish⟩

/-- Two sources with tokens that correspond are parsed to documents that are alike, or to
failures of the same kind. -/
theorem parse_cases (p : Pairing) {tokens tokens' : List Token}
    (htokens : p.source.tokens = .ok tokens) (htokens' : p.source'.tokens = .ok tokens')
    (hlike : List.Forall₂ p.Tokens tokens tokens') :
    (∃ document document', p.source.parse = .ok document ∧ p.source'.parse = .ok document' ∧
        Document.Like p.like document document') ∨
      ∃ failure failure', p.source.parse = .error failure ∧ p.source'.parse = .error failure' ∧
        p.Failures failure failure' := by
  obtain ⟨word, finish, rfl, hword⟩ := Source.areTokens_of_tokens htokens
  obtain ⟨word', finish', rfl, hwords, hfinish⟩ := hlike.concat_left
  rw [Source.parse_of_tokens htokens hword.kind_finish,
    Source.parse_of_tokens htokens' (hfinish.kind_eq.trans hword.kind_finish)]
  have hread := p.document_matching hwords hfinish
  generalize Grammar.document ⟨p.source, [], word, finish⟩ = result at hread ⊢
  generalize Grammar.document ⟨p.source', [], word', finish'⟩ = result' at hread ⊢
  cases hread with
  | ok hdocument _ => exact .inl ⟨_, _, rfl, rfl, hdocument⟩
  | error hfailure _ => exact .inr ⟨_, _, rfl, rfl, hfailure⟩

end Pairing

end Rune
