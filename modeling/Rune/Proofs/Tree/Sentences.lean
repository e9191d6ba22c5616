import Rune.Tree.Grammar

/-!
# Rune - the language of the grammar

What tokens make up a document is said here by rules, without a cursor and without an
order in which the tokens are tried.  A word is a list of tokens; each rule says that a
word is of a kind and which tree it spells.  Line breaks are part of the rules: where a
rule wants a token on its line, no line break lies before that token.

Main results:

- Types {lit}`Sentence.IsValue`, {lit}`Sentence.AreMembers` and
  {lit}`Sentence.IsStatement` are the rules for values, for the members of blocks and
  for statements.
- Definition {lit}`Sentence.IsDocument`: tokens are statements and the token that ends them.
- Theorems {lit}`Sentence.IsValue.starts` and {lit}`Sentence.IsStatement.starts`: which
  tokens a value and a statement begin with.
-/

namespace Rune

namespace Token

/-- A token of a kind on the line of the token before it. -/
def IsOnLine (token : Token) (kind : TokenKind) : Prop :=
  token.kind = kind ∧ token.lineBreakBefore = false

instance (token : Token) (kind : TokenKind) : Decidable (token.IsOnLine kind) :=
  inferInstanceAs (Decidable (_ ∧ _))

/-- A token stands for a scalar.  Only a numeral can fail to. -/
def Readable (token : Token) : Prop := ∃ scalar, Grammar.scalarOf token = .ok scalar

/-- The scalar that a readable token stands for. -/
def scalar (token : Token) : Scalar := (Grammar.scalarOf token).toOption.getD .null

theorem Readable.scalarOf_eq {token : Token} (h : token.Readable) :
    Grammar.scalarOf token = .ok token.scalar := by
  obtain ⟨scalar, hscalar⟩ := h
  simp [Token.scalar, hscalar, Except.toOption]

end Token

namespace Sentence

/-- The range from `start` to the end of a word. -/
def rangeFrom (start : TextRange) (word : List Token) : TextRange :=
  match word.getLast? with
  | some last => start.cover last.range
  | none => start

/-! ## Operands and conditions -/

/-- Dots with names after them, each on the line of the token before it. -/
inductive AreSegments : List Token → List String → Prop
  | nil : AreSegments [] []
  | cons {dot name : Token} {word : List Token} {names : List String} :
      dot.IsOnLine .dot → name.IsOnLine .identifier → AreSegments word names →
      AreSegments (dot :: name :: word) (name.text :: names)

/-- The operand that a name and the segments after it stand for. -/
def referenceTo (name : String) (segments : List String) (range : TextRange) : Operand :=
  match segments with
  | [] => .name name range
  | next :: rest => .path name next rest range

/-- The reference to the host under a name after a marker. -/
def hostRefTo (marker : TokenKind) (name : String) (range : TextRange) : HostRef :=
  if marker = .env then .env name range else .sys name range

/-- The kinds of literals that are no strings. -/
def isScalarKind : TokenKind → Bool
  | .int | .float | .trueWord | .falseWord | .null => true
  | _ => false

/-- A reference, a reference to the host, a string or another literal. -/
inductive IsOperand : List Token → Operand → Prop
  | reference {first : Token} {word : List Token} {names : List String} :
      first.kind = .identifier → AreSegments word names →
      IsOperand (first :: word)
        (referenceTo first.text names (rangeFrom first.range (first :: word)))
  | host {marker dot name : Token} :
      marker.kind = .env ∨ marker.kind = .sys → dot.IsOnLine .dot →
      name.IsOnLine .identifier →
      IsOperand [marker, dot, name]
        (.host (hostRefTo marker.kind name.text (rangeFrom marker.range [marker, dot, name])))
  | string {token : Token} : token.kind = .string →
      IsOperand [token] (Interpolation.operandOf token)
  | literal {token : Token} : isScalarKind token.kind →
      IsOperand [token] (.literal token.scalar token.range)

/-- One operand, or two with an equals sign between them.  The condition begins at
{lit}`start`. -/
inductive IsComparison (start : TextRange) : List Token → Condition → Prop
  | presence {word : List Token} {operand : Operand} : IsOperand word operand →
      IsComparison start word (.presence operand (rangeFrom start word))
  | equality {word word' : List Token} {left right : Operand} {equal : Token} :
      IsOperand word left → equal.kind = .equal → IsOperand word' right →
      IsComparison start (word ++ equal :: word')
        (.equality left right (rangeFrom start (word ++ equal :: word')))

/-- A comparison whose first token is on its line, perhaps between parentheses. -/
inductive IsCondition : List Token → Condition → Prop
  | bare {first : Token} {word : List Token} {condition : Condition} :
      first.lineBreakBefore = false → IsComparison first.range (first :: word) condition →
      IsCondition (first :: word) condition
  | parenthesized {opening closing : Token} {word : List Token} {condition : Condition} :
      opening.IsOnLine .leftParen → IsComparison opening.range word condition →
      closing.kind = .rightParen → IsCondition (opening :: (word ++ [closing])) condition

/-! ## Values -/

/-- A value ends with a choice that has no second value.  An `else` after it belongs to
that choice. -/
def endsOpen : ValueExpr → Bool
  | .conditional _ _ none _ => true
  | .conditional _ _ (some elseValue) _ => endsOpen elseValue
  | _ => false

mutual

/-- An operand, a raw string, an array between brackets, or a choice between two values
of which the second one may be missing. -/
inductive IsValue : List Token → ValueExpr → Prop
  | operand {word : List Token} {operand : Operand} : IsOperand word operand →
      IsValue word (.operand operand)
  | rawString {token : Token} : token.kind = .rawString →
      IsValue [token] (.rawString token.value token.range)
  | array {opening closing : Token} {word : List Token} {items : List ValueExpr} :
      opening.kind = .leftBracket → AreItems word items → closing.kind = .rightBracket →
      IsValue (opening :: (word ++ [closing]))
        (.array items (rangeFrom opening.range (opening :: (word ++ [closing]))))
  | choice {keyword : Token} {word word' : List Token} {condition : Condition}
      {thenValue : ValueExpr} :
      keyword.kind = .ifWord → IsCondition word condition → IsValue word' thenValue →
      IsValue (keyword :: (word ++ word'))
        (.conditional condition thenValue none
          (rangeFrom keyword.range (keyword :: (word ++ word'))))
  | choiceElse {keyword elseWord : Token} {word word' word'' : List Token}
      {condition : Condition} {thenValue elseValue : ValueExpr} :
      keyword.kind = .ifWord → IsCondition word condition → IsValue word' thenValue →
      -- Otherwise the `else` belongs to the choice at the end of the first value.
      endsOpen thenValue = false → elseWord.kind = .elseWord → IsValue word'' elseValue →
      IsValue (keyword :: (word ++ (word' ++ elseWord :: word'')))
        (.conditional condition thenValue (some elseValue)
          (rangeFrom keyword.range (keyword :: (word ++ (word' ++ elseWord :: word'')))))

/-- Values with a comma after each of them, or else a line break before the next one.  The
last one may have a comma after it. -/
inductive AreItems : List Token → List ValueExpr → Prop
  | nil : AreItems [] []
  | last {word : List Token} {item : ValueExpr} : IsValue word item → AreItems word [item]
  | comma {comma : Token} {word word' : List Token} {item : ValueExpr}
      {items : List ValueExpr} :
      IsValue word item → comma.kind = .comma → AreItems word' items →
      AreItems (word ++ comma :: word') (item :: items)
  | lineBreak {first : Token} {word word' : List Token} {item : ValueExpr}
      {items : List ValueExpr} :
      IsValue word item → first.lineBreakBefore = true → AreItems (first :: word') items →
      AreItems (word ++ first :: word') (item :: items)

end

/-! ## Bindings and members -/

/-- A name and a value on its line, with an equals sign between them or without one. -/
inductive IsBinding : List Token → String × ValueExpr × TextRange → Prop
  | plain {name first : Token} {word : List Token} {value : ValueExpr} :
      name.kind = .identifier → first.lineBreakBefore = false → IsValue (first :: word) value →
      IsBinding (name :: first :: word)
        (name.text, value, rangeFrom name.range (name :: first :: word))
  | assigned {name equal first : Token} {word : List Token} {value : ValueExpr} :
      name.kind = .identifier → equal.IsOnLine .equal → first.lineBreakBefore = false →
      IsValue (first :: word) value →
      IsBinding (name :: equal :: first :: word)
        (name.text, value, rangeFrom name.range (name :: equal :: first :: word))

mutual

/-- A binding, a block, or a choice between members. -/
inductive IsMember : List Token → Member → Prop
  | field {word : List Token} {name : String} {value : ValueExpr} {range : TextRange} :
      IsBinding word (name, value, range) → IsMember word (.field name value range)
  | block {word : List Token} {name : String} {children : List Member} {range : TextRange} :
      IsBlock word (name, children, range) → IsMember word (.block name children range)
  | choice {keyword colon closing : Token} {word word' : List Token} {condition : Condition}
      {children : List Member} :
      keyword.kind = .ifWord → IsCondition word condition → colon.kind = .colon →
      AreMembers word' children → closing.kind = .endifWord →
      IsMember (keyword :: (word ++ colon :: (word' ++ [closing])))
        (.conditional condition children []
          (rangeFrom keyword.range (keyword :: (word ++ colon :: (word' ++ [closing])))))
  | choiceElse {keyword colon elseWord elseColon closing : Token}
      {word word' word'' : List Token} {condition : Condition}
      {children elseChildren : List Member} :
      keyword.kind = .ifWord → IsCondition word condition → colon.kind = .colon →
      AreMembers word' children → elseWord.kind = .elseWord → elseColon.kind = .colon →
      AreMembers word'' elseChildren → closing.kind = .endifWord →
      IsMember
        (keyword :: (word ++ colon :: (word' ++ elseWord :: elseColon :: (word'' ++ [closing]))))
        (.conditional condition children elseChildren
          (rangeFrom keyword.range (keyword ::
            (word ++ colon :: (word' ++ elseWord :: elseColon :: (word'' ++ [closing]))))))

/-- Members, one after another. -/
inductive AreMembers : List Token → List Member → Prop
  | nil : AreMembers [] []
  | cons {word word' : List Token} {child : Member} {children : List Member} :
      IsMember word child → AreMembers word' children →
      AreMembers (word ++ word') (child :: children)

/-- A name with a colon after it, members, and `end`. -/
inductive IsBlock : List Token → String × List Member × TextRange → Prop
  | mk {name colon closing : Token} {word : List Token} {children : List Member} :
      name.kind = .identifier → colon.kind = .colon → AreMembers word children →
      closing.kind = .endWord →
      IsBlock (name :: colon :: (word ++ [closing]))
        (name.text, children, rangeFrom name.range (name :: colon :: (word ++ [closing])))

end

/-! ## Statements -/

/-- The alias of a gather that has none of its own. -/
def aliasOf (path : String) : String :=
  if FilePath.stem path = "" then "imported" else FilePath.stem path

/-- A binding of metadata, a gather, a block or a binding. -/
inductive IsStatement : List Token → Statement → Prop
  | metadata {marker key first : Token} {word : List Token} {value : ValueExpr} :
      marker.kind = .atSign → key.IsOnLine .identifier → first.lineBreakBefore = false →
      IsValue (first :: word) value →
      IsStatement (marker :: key :: first :: word)
        (.metadata key.text value (rangeFrom marker.range (marker :: key :: first :: word)))
  | gather {keyword path : Token} : keyword.kind = .gather → path.IsOnLine .string →
      IsStatement [keyword, path]
        (.gather ⟨path.value, aliasOf path.value, rangeFrom keyword.range [keyword, path], false⟩)
  | gatherAs {keyword path asWord name : Token} : keyword.kind = .gather →
      path.IsOnLine .string → asWord.IsOnLine .asWord → name.kind = .identifier →
      IsStatement [keyword, path, asWord, name]
        (.gather ⟨path.value, name.text,
          rangeFrom keyword.range [keyword, path, asWord, name], true⟩)
  | block {word : List Token} {name : String} {children : List Member} {range : TextRange} :
      IsBlock word (name, children, range) → IsStatement word (.block name children range)
  | global {word : List Token} {name : String} {value : ValueExpr} {range : TextRange} :
      IsBinding word (name, value, range) → IsStatement word (.global name value range)

/-- Statements, one after another. -/
inductive AreStatements : List Token → Document → Prop
  | nil : AreStatements [] []
  | cons {word word' : List Token} {statement : Statement} {document : Document} :
      IsStatement word statement → AreStatements word' document →
      AreStatements (word ++ word') (statement :: document)

/-- Tokens are statements and the token that ends them. -/
def IsDocument (tokens : List Token) (document : Document) : Prop :=
  ∃ word finish, tokens = word ++ [finish] ∧ finish.kind = .eof ∧ AreStatements word document

/-! ## First tokens -/

/-- The kinds of tokens that operands begin with. -/
def startsOperand : TokenKind → Bool
  | .identifier | .env | .sys | .string | .int | .float | .trueWord | .falseWord | .null => true
  | _ => false

/-- The kinds of tokens that values begin with. -/
def startsValue : TokenKind → Bool
  | .rawString | .leftBracket | .ifWord => true
  | kind => startsOperand kind

/-- The kinds of tokens that statements begin with. -/
def startsStatement : TokenKind → Bool
  | .atSign | .gather | .identifier => true
  | _ => false

theorem startsOperand_of_isScalarKind {kind : TokenKind} (h : isScalarKind kind) :
    startsOperand kind := by
  cases kind <;> simp_all [isScalarKind, startsOperand]

theorem startsValue_of_startsOperand {kind : TokenKind} (h : startsOperand kind) :
    startsValue kind := by
  cases kind <;> simp_all [startsOperand, startsValue]

/-- An operand begins with a token of its own. -/
theorem IsOperand.starts {word : List Token} {operand : Operand} (h : IsOperand word operand) :
    ∃ first rest, word = first :: rest ∧ startsOperand first.kind := by
  cases h with
  | reference hfirst _ => exact ⟨_, _, rfl, by simp [hfirst, startsOperand]⟩
  | host hmarker _ _ =>
    refine ⟨_, _, rfl, ?_⟩
    rcases hmarker with hmarker | hmarker <;> simp [hmarker, startsOperand]
  | string hkind => exact ⟨_, _, rfl, by simp [hkind, startsOperand]⟩
  | literal hkind => exact ⟨_, _, rfl, startsOperand_of_isScalarKind hkind⟩

/-- A comparison begins with its first operand. -/
theorem IsComparison.starts {start : TextRange} {word : List Token} {condition : Condition}
    (h : IsComparison start word condition) :
    ∃ first rest, word = first :: rest ∧ startsOperand first.kind := by
  cases h with
  | presence hoperand => exact hoperand.starts
  | equality hleft _ _ =>
    obtain ⟨first, rest, rfl, hfirst⟩ := hleft.starts
    exact ⟨first, _, rfl, hfirst⟩

/-- A value begins with a token of its own. -/
theorem IsValue.starts {word : List Token} {value : ValueExpr} (h : IsValue word value) :
    ∃ first rest, word = first :: rest ∧ startsValue first.kind := by
  cases h with
  | operand hoperand =>
    obtain ⟨first, rest, hword, hfirst⟩ := hoperand.starts
    exact ⟨first, rest, hword, startsValue_of_startsOperand hfirst⟩
  | rawString hkind => exact ⟨_, _, rfl, by simp [hkind, startsValue]⟩
  | array hopening _ _ => exact ⟨_, _, rfl, by simp [hopening, startsValue]⟩
  | choice hkeyword _ _ => exact ⟨_, _, rfl, by simp [hkeyword, startsValue]⟩
  | choiceElse hkeyword _ _ _ _ _ => exact ⟨_, _, rfl, by simp [hkeyword, startsValue]⟩

/-- Items begin with the first token of a value, unless there are none. -/
theorem AreItems.starts {word : List Token} {items : List ValueExpr} (h : AreItems word items) :
    (word = [] ∧ items = []) ∨ ∃ first rest, word = first :: rest ∧ startsValue first.kind := by
  have value_starts {word : List Token} {item : ValueExpr} (h : IsValue word item)
      (more : List Token) :
      ∃ first rest, word ++ more = first :: rest ∧ startsValue first.kind := by
    obtain ⟨first, rest, rfl, hfirst⟩ := h.starts
    exact ⟨first, rest ++ more, rfl, hfirst⟩
  cases h with
  | nil => exact .inl ⟨rfl, rfl⟩
  | last hitem => exact .inr (by simpa using value_starts hitem [])
  | comma hitem _ _ => exact .inr (value_starts hitem _)
  | lineBreak hitem _ _ => exact .inr (value_starts hitem _)

/-- A binding begins with a name that no colon follows. -/
theorem IsBinding.starts {word : List Token} {binding : String × ValueExpr × TextRange}
    (h : IsBinding word binding) : ∃ name second rest, word = name :: second :: rest ∧
      name.kind = .identifier ∧ second.kind ≠ .colon := by
  cases h with
  | plain hname _ hvalue =>
    obtain ⟨first, rest, hword, hfirst⟩ := hvalue.starts
    obtain ⟨rfl, rfl⟩ := List.cons.inj hword
    refine ⟨_, _, _, rfl, hname, fun hcolon => ?_⟩
    simp [hcolon, startsValue, startsOperand] at hfirst
  | assigned hname hequal _ _ =>
    exact ⟨_, _, _, rfl, hname, fun hcolon => absurd (hequal.1.symm.trans hcolon) (by decide)⟩

/-- A block begins with a name that a colon follows. -/
theorem IsBlock.starts {word : List Token} {block : String × List Member × TextRange}
    (h : IsBlock word block) : ∃ name second rest, word = name :: second :: rest ∧
      name.kind = .identifier ∧ second.kind = .colon := by
  cases h with
  | mk hname hcolon _ _ => exact ⟨_, _, _, rfl, hname, hcolon⟩

/-- A member begins with a name or with `if`. -/
theorem IsMember.starts {word : List Token} {child : Member} (h : IsMember word child) :
    ∃ first rest, word = first :: rest ∧ (first.kind = .identifier ∨ first.kind = .ifWord) := by
  cases h with
  | field hbinding =>
    obtain ⟨name, second, rest, rfl, hname, -⟩ := hbinding.starts
    exact ⟨_, _, rfl, .inl hname⟩
  | block hblock =>
    obtain ⟨name, second, rest, rfl, hname, -⟩ := hblock.starts
    exact ⟨_, _, rfl, .inl hname⟩
  | choice hkeyword => exact ⟨_, _, rfl, .inr hkeyword⟩
  | choiceElse hkeyword => exact ⟨_, _, rfl, .inr hkeyword⟩

/-- A statement begins with a token of its own. -/
theorem IsStatement.starts {word : List Token} {statement : Statement}
    (h : IsStatement word statement) :
    ∃ first rest, word = first :: rest ∧ startsStatement first.kind := by
  cases h with
  | metadata hmarker => exact ⟨_, _, rfl, by simp [hmarker, startsStatement]⟩
  | gather hkeyword => exact ⟨_, _, rfl, by simp [hkeyword, startsStatement]⟩
  | gatherAs hkeyword => exact ⟨_, _, rfl, by simp [hkeyword, startsStatement]⟩
  | block hblock =>
    obtain ⟨name, second, rest, rfl, hname, -⟩ := hblock.starts
    exact ⟨_, _, rfl, by simp [hname, startsStatement]⟩
  | global hbinding =>
    obtain ⟨name, second, rest, rfl, hname, -⟩ := hbinding.starts
    exact ⟨_, _, rfl, by simp [hname, startsStatement]⟩

end Sentence

end Rune
