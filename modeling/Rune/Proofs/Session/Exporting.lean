import Rune.Config.Query
import Rune.Proofs.Json.Spacing
import Rune.Proofs.Session.Contents
import Rune.Proofs.Token.Numerals

/-!
# Rune - what is resolved can be exported

Every number of a document is a number, so the exported data of whatever is resolved is sound.
Its text is read again as JSON, in all layouts.

Main results:

- Theorem {lit}`Source.numeric_of_parse`: every numeral of a document stands for a number.
- Theorem {lit}`Launch.resolve_json`: the text of a configuration is read into the tree of its
  exported data, and two layouts differ in white space outside of strings.
-/

namespace Rune

/-! ## Numbers of a document -/

/-- Any keys, and numbers without the one that is no number. -/
def Material.numeric : Material := ⟨(· ≠ .float .nan), fun _ => True⟩

/-- A number among operands is a numeral. -/
theorem Sentence.IsOperand.exists_numeral {word : List Token} {number : Number}
    {range : TextRange} (h : IsOperand word (.literal (.number number) range)) :
    ∃ token ∈ word, token.scalar = .number number := by
  generalize hoperand : Operand.literal (.number number) range = operand at h
  cases h with
  | literal => exact ⟨_, List.mem_cons_self, (Operand.literal.inj hoperand).1.symm⟩
  | @reference _ _ names =>
    unfold referenceTo at hoperand
    cases names <;> cases hoperand
  | host => cases hoperand
  | string =>
    unfold Interpolation.operandOf at hoperand
    dsimp only at hoperand
    split at hoperand
    · split at hoperand <;> cases hoperand
    · cases hoperand

/-- A numeral does not stand for what is no number. -/
theorem Source.scalar_ne_nan {source : Source} {tokens : List Token}
    (h : source.tokens = .ok tokens) {token : Token} (hmem : token ∈ tokens) :
    token.scalar ≠ .number (.float .nan) := by
  intro hscalar
  obtain ⟨scalar, hread, rfl⟩ : ∃ scalar, Grammar.scalarOf token = .ok scalar ∧
      scalar = .number (.float .nan) := by
    unfold Token.scalar at hscalar
    cases hread : Grammar.scalarOf token with
    | ok scalar =>
      rw [hread] at hscalar
      exact ⟨scalar, rfl, hscalar⟩
    | error fault =>
      rw [hread] at hscalar
      cases hscalar
  unfold Grammar.scalarOf at hread
  split at hread
  case h_1 => cases hint : Numeral.readInt token.text <;> rw [hint] at hread <;> cases hread
  case h_2 hkind =>
    have hdot := dot_mem_of_tokens h hmem hkind
    unfold Numeral.readFloat at hread
    cases hfloat : Numeral.readFloat? token.text with
    | none =>
      rw [hfloat] at hread
      cases hread
    | some x =>
      rw [hfloat] at hread
      cases hread
      exact Numeral.readFloat?_ne_nan hdot hfloat
  all_goals cases hread

/-- The numerals of a document stand for numbers. -/
theorem Source.numeric_of_parse {source : Source} {document : Document}
    (h : source.parse = .ok document) : document.BuiltFrom .numeric := by
  obtain ⟨tokens, htokens, -, word, finish, rfl, -, hword⟩ := spelled_of_parse h
  refine ⟨fun _ _ => trivial, fun statement hstatement number range hnumber => ?_⟩
  obtain ⟨before, word', behind, rfl, hspelled⟩ := hword.exists_word hstatement
  obtain ⟨spelling, hsub, his⟩ := hspelled.areOperands _ hnumber
  obtain ⟨token, htoken, hscalar⟩ := his.exists_numeral
  have hmem : token ∈ before ++ (word' ++ behind) ++ [finish] := by
    simp [hsub.subset htoken]
  rintro rfl
  exact scalar_ne_nan htokens hmem hscalar

/-! ## Exported data -/

/-- A value with numbers is exported as sound data. -/
theorem Value.BuiltFrom.sound_datum {value : Value} (h : value.BuiltFrom .numeric) :
    value.datum.Sound := by
  induction h with
  | string text => exact .text text
  | number hnumber => exact .number hnumber
  | bool flag => exact .bool flag
  | null => exact .null
  | pattern pattern => exact .text pattern.source
  | array _ ih =>
    rw [datum, datumItems_eq_map]
    exact .list (List.forall_mem_map.2 ih)
  | object _ _ _ ih =>
    rw [datum, datumEntries_eq_map]
    exact .record (List.forall_mem_map.2 ih)

/-- A configuration with numbers is exported as sound data. -/
theorem Config.BuiltFrom.sound_document {config : Config} (h : config.BuiltFrom .numeric) :
    config.document.Sound := by
  have hspace (space : Namespace) : (Export.entries (config.values space)).Sound :=
    (Value.builtFrom_object_iff.2 (h space)).sound_datum
  refine .record ?_
  simp only [List.forall_mem_cons]
  exact ⟨hspace .globals, hspace .items, hspace .metadata, nofun⟩

namespace Launch

open Session

variable {services : Services} {launch : Launch} {config : Config} {after : Session}

/-- The text of whatever is resolved, in any layout, is read into the tree of the exported data
and into no other one: with the keys in their order, the strings, the truth values, the nulls
and the tokens of the numbers.  Two layouts differ in white space outside of strings. -/
theorem resolve_json (h : launch.resolve services fresh = .ok config after)
    (layout layout' : JsonLayout) :
    (∀ tree, Json.Derives (config.json layout).toList tree ↔ tree = config.document.json) ∧
      Json.unspaced .outside (config.json layout).toList =
        Json.unspaced .outside (config.json layout').toList := by
  obtain ⟨entry, last, hentry⟩ := exists_entry h
  have hbuilt : config.BuiltFrom .numeric :=
    Entry.builtFrom_of_resolve Source.numeric_of_parse hentry
  exact ⟨JsonText.derives_write_iff hbuilt.sound_document layout,
    JsonText.unspaced_write layout layout' config.document⟩

/-- A file is lacking, and the other one has a string with quotes and a line feed, an array
with a negative fraction and an empty array, and an empty object. -/
theorem resolve_json_nested :
    let services := Services.ofStore [("/plain",
      "title \"say \\\"hi\\\"\\n\"\nk:\n  list [1, -2.50, [], true, null]\n  e:\n  end\nend\n")]
    let launch := Launch.fileOr "user" "plain"
    let text :=
      "\x7b\"globals\": \x7b\"title\": \"say \\\"hi\\\"\\n\"\x7d, " ++
      "\"items\": \x7b\"k\": \x7b\"list\": [1, -2.5, [], true, null], \"e\": \x7b\x7d\x7d\x7d, " ++
      "\"metadata\": \x7b\x7d\x7d"
    ∃ config after, launch.resolve services fresh = .ok config after ∧
      config.json .oneLine = text ∧
      (∀ tree, Json.Derives (config.json .oneLine).toList tree ↔ tree = config.document.json) ∧
      Json.unspaced .outside (config.json .oneLine).toList =
        Json.unspaced .outside (config.json (.lines 2)).toList := by
  intro services launch text
  have hrun : (success? (launch.resolve services fresh)).map (fun result =>
      result.1.json .oneLine) = some text := by
    decide +kernel
  obtain ⟨⟨config, after⟩, h, htext⟩ := Option.map_eq_some_iff.1 hrun
  rw [success?_eq_some_iff] at h
  exact ⟨config, after, h, htext, resolve_json h .oneLine (.lines 2)⟩

end Launch

end Rune
