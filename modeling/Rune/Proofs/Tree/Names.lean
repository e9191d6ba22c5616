import Rune.Proofs.Config.Paths
import Rune.Proofs.Token.Phrases
import Rune.Proofs.Tree.Acceptance

/-!
# Rune - names that a tree gives

Statements and members give names to values.  Each of these names is an identifier of the
text, so in canonical spelling it is a segment of a dotted path that stays as it is.

Main results:

- Definitions {lit}`Member.names` and {lit}`Statement.names` list the names of a tree.
- Structure {lit}`Key.IsKey` says that a key is found again in a dotted path.
- Theorem {lit}`Source.isKey_of_parse`: the names of a document are such keys.
-/

namespace Rune

/-! ## Names -/

namespace Member

mutual

/-- The names that a member gives, those of its own members included. -/
def names : Member → List String
  | .field name _ _ => [name]
  | .block name children _ => name :: namesOfAll children
  | .conditional _ children elseChildren _ => namesOfAll children ++ namesOfAll elseChildren

/-- The names that several members give. -/
def namesOfAll : List Member → List String
  | [] => []
  | child :: children => names child ++ namesOfAll children

end

end Member

/-- The names that a statement gives to values. -/
def Statement.names : Statement → List String
  | .global name _ _ => [name]
  | .metadata key _ _ => [key]
  | .block name children _ => name :: Member.namesOfAll children
  | .gather _ => []

/-- The names that a document gives to values. -/
def Document.names (document : Document) : List String := document.flatMap Statement.names

/-! ## Names among tokens -/

namespace Sentence

/-- Names are the texts of identifiers in a word. -/
def AreNames (word : List Token) (names : List String) : Prop :=
  ∀ name ∈ names, ∃ token ∈ word, token.kind = .identifier ∧ token.text = name

namespace AreNames

variable {word word' : List Token} {names names' : List String}

theorem nil (word : List Token) : AreNames word [] := nofun

theorem mono (h : AreNames word names) (hsubset : word ⊆ word') : AreNames word' names :=
  fun name hname =>
    let ⟨token, htoken, his⟩ := h name hname
    ⟨token, hsubset htoken, his⟩

theorem append (h : AreNames word names) (h' : AreNames word names') :
    AreNames word (names ++ names') := by
  intro name hname
  rcases List.mem_append.1 hname with hname | hname
  · exact h name hname
  · exact h' name hname

theorem cons {token : Token} (htoken : token ∈ word) (hkind : token.kind = .identifier)
    (h : AreNames word names) : AreNames word (token.text :: names) :=
  List.forall_mem_cons.2 ⟨⟨token, htoken, hkind, rfl⟩, h⟩

end AreNames

theorem IsBinding.areNames {word : List Token} {name : String} {value : ValueExpr}
    {range : TextRange} (h : IsBinding word (name, value, range)) : AreNames word [name] := by
  cases h with
  | plain hname => exact .cons List.mem_cons_self hname (.nil _)
  | assigned hname => exact .cons List.mem_cons_self hname (.nil _)

mutual

theorem IsMember.areNames {word : List Token} {child : Member} (h : IsMember word child) :
    AreNames word child.names := by
  match h with
  | .field hbinding => exact hbinding.areNames
  | .block hblock => exact hblock.areNames
  | .choice _ _ _ hchildren _ =>
    refine (hchildren.areNames.mono ?_).append (.nil _)
    intro token htoken
    simp [htoken]
  | .choiceElse _ _ _ hchildren _ _ helse _ =>
    refine (hchildren.areNames.mono ?_).append (helse.areNames.mono ?_) <;>
    · intro token htoken
      simp [htoken]

theorem AreMembers.areNames {word : List Token} {children : List Member}
    (h : AreMembers word children) : AreNames word (Member.namesOfAll children) := by
  match h with
  | .nil => exact .nil _
  | .cons hchild hchildren =>
    exact (hchild.areNames.mono (List.subset_append_left _ _)).append
      (hchildren.areNames.mono (List.subset_append_right _ _))

theorem IsBlock.areNames {word : List Token} {name : String} {children : List Member}
    {range : TextRange} (h : IsBlock word (name, children, range)) :
    AreNames word (name :: Member.namesOfAll children) := by
  match h with
  | .mk hname _ hchildren _ =>
    refine .cons List.mem_cons_self hname (hchildren.areNames.mono ?_)
    intro token htoken
    simp [htoken]

end

theorem IsStatement.areNames {word : List Token} {statement : Statement}
    (h : IsStatement word statement) : AreNames word statement.names := by
  cases h with
  | metadata _ hkey => exact .cons (by simp) hkey.1 (.nil _)
  | gather | gatherAs => exact .nil _
  | block hblock => exact hblock.areNames
  | global hbinding => exact hbinding.areNames

theorem AreStatements.areNames {word : List Token} {document : Document}
    (h : AreStatements word document) : AreNames word document.names := by
  induction h with
  | nil => exact .nil _
  | cons hstatement _ ih =>
    exact (hstatement.areNames.mono (List.subset_append_left _ _)).append
      (ih.mono (List.subset_append_right _ _))

end Sentence

/-! ## Keys -/

/-- A key that is found again in a dotted path: a segment in canonical spelling. -/
structure Key.IsKey (key : String) : Prop extends Key.IsSegment key where
  canonical_eq : Key.canonical key = key

/-- The characters of a name have no dot among them. -/
theorem SpellsIdentifier.isSegment {name : String} {first : Char} {more : List Char}
    (hname : name.toList = first :: more) (h : SpellsIdentifier first more) :
    Key.IsSegment name := by
  constructor
  · rw [Ne, ← String.toList_eq_nil_iff, hname]
    exact List.cons_ne_nil _ _
  · intro hdot
    rw [hname] at hdot
    rcases List.mem_cons.1 hdot with rfl | hdot
    · exact absurd h.starts (by decide +kernel)
    · exact absurd (h.continues '.' hdot) (by decide +kernel)

/-- In canonical spelling a segment is a key. -/
theorem Key.IsSegment.isKey {name : String} (h : Key.IsSegment name) :
    Key.IsKey (Key.canonical name) where
  ne_empty := by
    have hlist := h.ne_empty
    rw [Ne, ← String.toList_eq_nil_iff] at hlist ⊢
    simpa [Key.canonical] using hlist
  no_dot := by
    rw [Key.canonical, String.toList_ofList]
    intro hdot
    obtain ⟨c, hc, hdot⟩ := List.mem_map.1 hdot
    rw [Key.canonicalChar] at hdot
    split at hdot
    · exact absurd hdot (by decide)
    · exact h.no_dot (hdot ▸ hc)
  canonical_eq := Key.canonical_canonical name

/-- In canonical spelling the names of a document are keys. -/
theorem Source.isKey_of_parse {source : Source} {document : Document}
    (h : source.parse = .ok document) :
    ∀ name ∈ document.names, Key.IsKey (Key.canonical name) := by
  obtain ⟨tokens, htokens, -, word, finish, rfl, -, hword⟩ := spelled_of_parse h
  intro name hname
  obtain ⟨token, htoken, hkind, rfl⟩ := hword.areNames name hname
  obtain ⟨first, more, htext, hspells⟩ :=
    spells_of_tokens htokens (List.mem_append_left _ htoken) hkind
  exact (hspells.isSegment htext).isKey

end Rune
