import Rune.Proofs.Evaluation.Likewise
import Rune.Proofs.Session.Faults
import Rune.Proofs.Text.Lines
import Rune.Proofs.Token.Streams
import Rune.Proofs.Tree.Parallel

/-!
# Rune - diagnostics point into the right text

Tokens lie inside their text, and every range of a tree is made of ranges of tokens.  The
ranges that a document is complained about with are its own: those of its tokens, of its
tree and of its gathers.  So a diagnostic tells a place of the text of the document that it
names.

Main results:

- Definition {lit}`Source.inside` pairs a source with itself, ranges inside its text only.
- Theorems {lit}`Source.like_of_parse` and {lit}`Session.Arises.exists_diagnose`: a tree and
  every failure that arises from a document stay inside the text.
- Theorem {lit}`Launch.resolve_pointsInto`: a resolution that fails at a line points into the
  text of the document that it names.
-/

namespace Rune

open ImportGraph

/-! ## Trees inside their text -/

/-- A source beside itself, with the ranges that lie inside its text. -/
def Source.inside (source : Source) : Pairing where
  source := source
  source' := source
  tokens a b := b = a ∧ a.stop ≤ source.index.chars.length
  places a b := b = a ∧ a.stop ≤ source.index.chars.length
  places_of_tokens := id
  start_lt_iff := by
    rintro _ _ _ _ ⟨rfl, -⟩ ⟨rfl, -⟩
    rfl
  cover := by
    rintro _ _ _ _ ⟨rfl, ha⟩ ⟨rfl, hc⟩
    exact ⟨rfl, Nat.max_le.mpr ⟨ha, hc⟩⟩

namespace Source

variable {source : Source}

/-- The tokens of a source lie inside its text. -/
theorem inside_tokens {tokens : List Token} (h : source.tokens = .ok tokens) :
    List.Forall₂ source.inside.Tokens tokens tokens :=
  List.forall₂_same.mpr fun token htoken =>
    ⟨⟨rfl, stop_le_of_tokens h token htoken⟩, rfl, rfl, rfl, rfl, rfl, rfl, rfl⟩

/-- All ranges of a tree lie inside the text that it was read in. -/
theorem like_of_parse {document : Document} (h : source.parse = .ok document) :
    document.Like source.inside.like document := by
  obtain ⟨tokens, htokens⟩ := exists_tokens_of_parse h
  obtain ⟨_, _, hok, hok', hlike⟩ | ⟨_, _, herror, -, -⟩ :=
    source.inside.parse_cases htokens htokens (inside_tokens htokens)
  · cases h.symm.trans hok
    cases h.symm.trans hok'
    exact hlike
  · cases h.symm.trans herror

/-- A complaint about a text that cannot be parsed is about a range inside the text. -/
theorem exists_diagnose_of_parse {failure : Failure} (h : source.parse = .error failure)
    {d : Diagnostic} (hd : failure.diagnostic? = some d) :
    ∃ complaint range, range.stop ≤ source.index.chars.length ∧
      d = source.diagnose complaint range := by
  cases htokens : source.tokens with
  | error other =>
    obtain ⟨complaint, range, hrange, rfl⟩ := exists_diagnose_of_tokens htokens
    cases h.symm.trans (parse_of_tokens_error htokens)
    exact ⟨complaint, range, hrange, (Option.some.inj hd).symm⟩
  | ok tokens =>
    obtain ⟨_, _, hok, -, -⟩ | ⟨_, _, herror, -, hfailures⟩ :=
      source.inside.parse_cases htokens htokens (inside_tokens htokens)
    · cases h.symm.trans hok
    · cases h.symm.trans herror
      cases hfailures with
      | grammatical complaint hrange =>
        exact ⟨complaint, _, hrange.2, (Option.some.inj hd).symm⟩
      | fault | stalled => cases hd

end Source

/-! ## Failures of one document -/

theorem Flaw.Like.range {l : Likeness} {flaw flaw' : Flaw} (h : flaw.Like l flaw') :
    l.places flaw.range flaw'.range := by
  cases h <;> assumption

namespace Session

variable {services : Services}

/-- A diagnostic that arises from a document is about a range inside its text. -/
theorem Arises.exists_diagnose {node : Option String} {content : String} {failure : Failure}
    (h : Arises services node content failure) {d : Diagnostic}
    (hd : failure.diagnostic? = some d) :
    ∃ complaint range, range.stop ≤ content.toList.length ∧
      d = (Source.ofText content node).diagnose complaint range := by
  have hgather {document : Document} (hparse : (Source.ofText content node).parse = .ok document)
      {g : Gather} (hg : g ∈ document.gathers) : g.range.stop ≤ content.toList.length := by
    have hlike := (Source.like_of_parse hparse).gathers
    exact (List.forall₂_same.mp hlike g hg).range.2
  cases h with
  | unparsed hparse => exact Source.exists_diagnose_of_parse hparse hd
  | homeless | nowhere => cases hd
  | circular active path hparse hg => exact ⟨_, _, hgather hparse hg, (Option.some.inj hd).symm⟩
  | @unreadable _ g _ fault hparse hg _ =>
    cases fault with
    | undecodable bytes => cases hd
    | _ => exact ⟨_, _, hgather hparse hg, (Option.some.inj hd).symm⟩
  | @flawed document aliases resources flaw memory hparse htruthful hrun =>
    have hcanonical := Likeness.canonical_placed (Source.ofText content node).inside.places
    have hscope := Scope.ofDocument_like (Source.like_of_parse hparse) hcanonical
      (.ofText content node) (.ofText content node) services aliases
    have hresult := Scope.evaluate_likewise hscope hcanonical (.fresh resources) (.fresh resources)
      ⟨rfl, rfl, rfl, htruthful, htruthful⟩
    rw [hrun] at hresult
    cases hresult with
    | error hflaw _ =>
      obtain ⟨complaint, rfl⟩ := Flaw.exists_diagnose hd
      exact ⟨complaint, flaw.range, hflaw.range.2, rfl⟩

end Session

/-! ## Resolutions -/

namespace Launch

open Session

variable {services : Services} {launch : Launch} {failure : Failure} {after : Session}

/-- A resolution that fails at a line points into the text of the document that it names: the
range of its diagnostic lies inside that text, its line and its column are those of the
start of the range, and the text of the line is told without what breaks the line. -/
theorem resolve_pointsInto (h : launch.resolve services fresh = .error failure after)
    {d : Diagnostic} (hd : failure.diagnostic? = some d) (hline : 0 < d.line) :
    ∃ root text content, launch.Starts services root text ∧
      Reachable services root text d.sourcePath ∧
      textAt services root text d.sourcePath = some content ∧ d.PointsInto content.toList := by
  by_cases hstarts : ∃ root text, launch.Starts services root text
  case neg =>
    simp only [not_exists] at hstarts
    obtain ⟨_, _, hfails, -, hnowhere⟩ := fails_of_not_starts hstarts
    cases h.symm.trans hfails
    have hzero := hnowhere d hd
    omega
  obtain ⟨root, text, hstarts⟩ := hstarts
  obtain ⟨node, content, hreach, htext, harises⟩ := arises_of_starts hstarts h
  obtain ⟨complaint, range, hrange, rfl⟩ := harises.exists_diagnose hd
  exact ⟨root, text, content, hstarts, hreach, htext,
    Source.pointsInto_diagnose content node complaint hrange⟩

/-- The text names a file, and the file names nothing that there is. -/
theorem resolve_pointsInto_gathered :
    let services := Services.ofStore [("/part", "a 1\r\nb:\n  c nothing\r\nend\n")]
    let launch := Launch.entry (.text none "x part.b.c\ngather \"part\" as part\n")
    ∃ failure after d, launch.resolve services fresh = .error failure after ∧
      failure.diagnostic? = some d ∧ 0 < d.line ∧ d.sourcePath = some "/part" ∧
      ∃ root text content, launch.Starts services root text ∧
        Reachable services root text d.sourcePath ∧
        textAt services root text d.sourcePath = some content ∧ d.PointsInto content.toList := by
  intro services launch
  have hrun : ((Entry.failure? (launch.resolve services fresh)).bind Failure.diagnostic?).map
      (fun d => (d.line, d.sourcePath)) = some (3, some "/part") := by
    decide +kernel
  obtain ⟨d, hd, hplace⟩ := Option.map_eq_some_iff.1 hrun
  obtain ⟨failure, hfailure, hd⟩ := Option.bind_eq_some_iff.1 hd
  obtain ⟨after, h⟩ := Entry.failure?_eq_some_iff.1 hfailure
  obtain ⟨hthree, hpath⟩ := Prod.mk.inj hplace
  have hline : 0 < d.line := by
    rw [hthree]
    decide
  exact ⟨failure, after, d, h, hd, hline, hpath, resolve_pointsInto h hd hline⟩

end Launch

end Rune
