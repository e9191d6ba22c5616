import Rune.Proofs.Token.LineEndings
import Rune.Proofs.Tree.Respacing

/-!
# Rune - carriage returns before line feeds carry no meaning

A text may end its lines with line feeds alone or with a carriage return before each of
them.  Its tokens, its document and whatever is complained about are the same, at the same
lines and columns; only the offsets differ.

Main results:

- Theorem {lit}`Source.parse_crlf`: a text with carriage returns before its line feeds is
  lexed and parsed as the text is.
-/

namespace Rune

/-- A token of the text with carriage returns corresponds to that of the text. -/
theorem Token.Returns.like {chars : List Char} {token token' : Token}
    (h : token.Returns chars token') :
    token.Like (TextRange.Returns chars) token' := by
  obtain ⟨helsewhere, hrange⟩ := h
  rw [helsewhere]
  exact ⟨hrange, rfl, rfl, rfl, rfl, rfl, rfl, rfl⟩

namespace Source

variable {chars : List Char} {source source' : Source}

/-- The tokens of a text and those of the text with carriage returns correspond. -/
def Returns.pairing (chars : List Char) (source source' : Source) : Pairing where
  source := source
  source' := source'
  tokens := TextRange.Returns chars
  places := TextRange.Returns chars
  places_of_tokens := id
  start_lt_iff := TextRange.Returns.start_lt_iff
  cover := TextRange.Returns.cover

/-- No loop of the grammar stands still, since each of them takes a token. -/
theorem parse_ne_stalled (source : Source) (found : String) (range : TextRange) :
    source.parse ≠ .error (.fault (.stalled found range)) := by
  intro h
  obtain hplaced | ⟨_, _, habout⟩ := isAbout_of_parse h
  · cases hplaced
  · obtain hplaced | ⟨token, _, _, hscalar, hfault⟩ := habout
    · cases hplaced
    · cases hfault
      exact Grammar.scalarOf_ne_stalled token found range hscalar

/-- A text with carriage returns is parsed as the text is. -/
theorem Returns.parse (h : Returns chars source source') (hescape : ¬EscapesLineFeed chars) :
    Except.Rel (Failure.Alike Diagnostic.Elsewhere)
      (Document.Like (.placed (TextRange.Returns chars))) source.parse source'.parse := by
  have htokens := h.tokens hescape
  generalize hread : source.tokens = result at htokens
  generalize hread' : source'.tokens = result' at htokens
  cases htokens with
  | error hfailure =>
    rw [parse_of_tokens_error hread, parse_of_tokens_error hread']
    exact .error hfailure
  | ok hlike =>
    obtain ⟨document, document', hparse, hparse', hdocument⟩ | ⟨failure, failure', hparse, hparse',
        hfailure⟩ := (pairing chars source source').parse_cases hread hread'
          (hlike.imp fun _ _ htoken => htoken.like)
    · change source.parse = _ at hparse
      change source'.parse = _ at hparse'
      rw [hparse, hparse']
      exact .ok hdocument
    · change source.parse = _ at hparse
      change source'.parse = _ at hparse'
      rw [hparse, hparse']
      cases hfailure with
      | grammatical complaint hrange => exact .error (.grammatical (h.diagnose_eq complaint hrange))
      | fault fault => exact .error (.fault fault)
      | stalled found range range' => exact absurd hparse (source.parse_ne_stalled found range)

/-- Where no backslash stands directly before a line feed, carriage returns before the line
feeds change nothing: neither the tokens nor the document, their ranges apart, nor a
complaint of the one or the other, with its line, its column and the text of its line. -/
theorem parse_crlf (text : String) (path : Option String)
    (h : ¬EscapesLineFeed text.toList) :
    Except.Rel (Failure.Alike Diagnostic.Elsewhere) (List.Forall₂ Token.Elsewhere)
        (ofText text path).tokens (ofText (String.ofList (crlf text.toList)) path).tokens ∧
      Except.Rel (Failure.Alike Diagnostic.Elsewhere)
        (Document.Like (.placed (TextRange.Returns text.toList)))
        (ofText text path).parse (ofText (String.ofList (crlf text.toList)) path).parse := by
  have hreturns := Returns.ofText text path
  refine ⟨?_, hreturns.parse h⟩
  exact (hreturns.tokens h).imp fun _ _ htokens => htokens.imp fun _ _ htoken => htoken.elsewhere

/-- A string that is left open is complained about on its own line, with a carriage return
before the line feed or without one. -/
theorem parse_crlf_open : ¬EscapesLineFeed "x 1 # one\ny 'b\n".toList ∧
    Except.Rel (Failure.Alike Diagnostic.Elsewhere) (List.Forall₂ Token.Elsewhere)
      (ofText "x 1 # one\ny 'b\n").tokens (ofText "x 1 # one\r\ny 'b\r\n").tokens ∧
    Except.Rel (Failure.Alike Diagnostic.Elsewhere)
      (Document.Like (.placed (TextRange.Returns "x 1 # one\ny 'b\n".toList)))
      (ofText "x 1 # one\ny 'b\n").parse (ofText "x 1 # one\r\ny 'b\r\n").parse := by
  have hescape : ¬EscapesLineFeed "x 1 # one\ny 'b\n".toList := by
    unfold EscapesLineFeed
    decide +kernel
  have hcrlf : String.ofList (crlf "x 1 # one\ny 'b\n".toList) = "x 1 # one\r\ny 'b\r\n" := by
    decide +kernel
  have hparse := parse_crlf "x 1 # one\ny 'b\n" none hescape
  rw [hcrlf] at hparse
  exact ⟨hescape, hparse⟩

end Source

end Rune
