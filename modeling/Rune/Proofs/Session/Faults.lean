import Rune.Proofs.Evaluation.Blame
import Rune.Proofs.Session.Failures
import Rune.Proofs.Tree.Progress

/-!
# Rune - failures that are no complaints

A resolution that fails complains about a document, with few exceptions: a numeral that
stands for no number, a pattern whose numbers, flags or program are refused, and a path that
can name no file.  Each exception is told by a document of the resolution.

Main results:

- Type {lit}`Session.Stumbles` lists the exceptions that a document can tell, and
  {lit}`Entry.Stumbles` those of a whole resolution.
- Theorem {lit}`Entry.resolve_fails`: a resolution that fails complains, or it stumbles.
-/

namespace Rune

open ImportGraph

/-- A flaw is a complaint, unless it is a pattern whose numbers, flags or program are
refused. -/
theorem Flaw.Blames.failure_cases {mentioned : Mention → Prop} {flaw : Flaw}
    (h : flaw.Blames mentioned) (source : Source) :
    (flaw.failure source).diagnostic?.isSome ∨ ∃ fault pattern reason,
      flaw.failure source = .fault fault ∧ mentioned (.pattern pattern) ∧
      Pattern.read pattern = .error reason ∧ reason.fault? = some fault := by
  cases flaw with
  | cycle chain range => exact .inl rfl
  | fault cause range =>
    cases cause with
    | badPattern reason pattern =>
      obtain ⟨hmention, hread⟩ := h reason pattern range rfl
      simp only [Flaw.failure, RegexFault.failure]
      cases hfault : reason.fault? with
      | some fault => exact .inr ⟨fault, pattern, reason, rfl, hmention, hread, hfault⟩
      | none => exact .inl rfl
    | _ => exact .inl rfl

/-- The files of a store are texts. -/
theorem Files.ofStore_read_ne_undecodable (store : TextStore) (path : String)
    (bytes : Utf8.DecodeFault) : (ofStore store).read path ≠ .error (.undecodable bytes) := by
  simp only [ofStore, TextStore.read]
  split <;> exact nofun

namespace Session

/-- What is at fault in a document although nothing complains about it: a numeral, a pattern,
the directory of the document, or the path of a gather. -/
inductive Stumbles (services : Services) (node : Option String) (content : String) :
    Fault → Prop
  | numeral {tokens : List Token} {token : Token} {fault : Fault} :
      (Source.ofText content node).tokens = .ok tokens → token ∈ tokens →
      Grammar.scalarOf token = .error fault → Stumbles services node content fault
  | pattern {document : Document} {source : String} {reason : RegexFault} {fault : Fault} :
      (Source.ofText content node).parse = .ok document → .pattern source ∈ document.mentions →
      Pattern.read source = .error reason → reason.fault? = some fault →
      Stumbles services node content fault
  | homeless {fault : Fault} :
      directoryOf services node = .error fault → Stumbles services node content fault
  | nowhere {document : Document} {g : Gather} {directory : String} {fault : Fault} :
      (Source.ofText content node).parse = .ok document → g ∈ document.gathers →
      directoryOf services node = .ok directory →
      FilePath.locate services.standpoint directory g.path = .error fault →
      Stumbles services node content fault

variable {services : Services}

/-- A failure that arises from a document complains, or the document stumbles.  Files whose
bytes are no text are left aside. -/
theorem Arises.excuses
    (htexts : ∀ path bytes, services.files.read path ≠ .error (.undecodable bytes))
    {node : Option String} {content : String} {failure : Failure}
    (h : Arises services node content failure) :
    failure.diagnostic?.isSome ∨
      ∃ fault, failure = .fault fault ∧ Stumbles services node content fault := by
  cases h with
  | unparsed hparse =>
    rcases Source.isAbout_of_parse hparse with hsome | ⟨tokens, htokens, hsome |
      ⟨token, htoken, fault, hfault, rfl⟩⟩
    · exact .inl hsome
    · exact .inl hsome
    · exact .inr ⟨_, rfl, .numeral htokens htoken hfault⟩
  | homeless hdirectory => exact .inr ⟨_, rfl, .homeless hdirectory⟩
  | nowhere hparse hg hdirectory hpath => exact .inr ⟨_, rfl, .nowhere hparse hg hdirectory hpath⟩
  | circular => exact .inl rfl
  | @unreadable _ _ path fault _ _ hread =>
    cases fault with
    | undecodable bytes => exact absurd hread (htexts path bytes)
    | _ => exact .inl rfl
  | @flawed document aliases resources flaw memory hparse _ hrun =>
    have hblames := Evaluation.evaluate_blames
      (Scope.mentionsOnly_ofDocument (.ofText content node) services document aliases) _ _ _ hrun
    rcases hblames.failure_cases (.ofText content node) with hsome |
      ⟨fault, pattern, reason, hfailure, hmention, hread, hfault⟩
    · exact .inl hsome
    · exact .inr ⟨fault, hfailure, .pattern hparse hmention hread hfault⟩

end Session

/-! ## Entries -/

namespace Entry

open Session

/-- The path that an entry is given with. -/
def path? : Entry → Option String
  | .text path _ => path
  | .file path => some path

/-- What is at fault in a resolution although nothing complains about it: the path that it is
given, or what a document stumbles over that can be reached. -/
inductive Stumbles (services : Services) (entry : Entry) : Fault → Prop
  | nowhere {display : String} {fault : Fault} : entry.path? = some display →
      services.locate display = .error fault → Stumbles services entry fault
  | document {root node : Option String} {text content : String} {fault : Fault} :
      entry.Starts services root text → Reachable services root text node →
      textAt services root text node = some content → Session.Stumbles services node content fault →
      Stumbles services entry fault

/-- The failure that a resolution ends with. -/
def failure? {α : Type} : EStateM.Result Failure Session α → Option Failure
  | .ok _ _ => none
  | .error failure _ => some failure

theorem failure?_eq_some_iff {α : Type} {result : EStateM.Result Failure Session α}
    {failure : Failure} :
    failure? result = some failure ↔ ∃ after, result = .error failure after := by
  cases result <;> simp [failure?]

section

variable {services : Services}
  (htexts : ∀ path bytes, services.files.read path ≠ .error (.undecodable bytes))
include htexts

/-- Once it has a first document, a resolution that fails complains, or a document stumbles. -/
theorem fails_of_starts {entry : Entry} {root : Option String} {text : String}
    (hstarts : entry.Starts services root text) {failure : Failure} {after : Session}
    (h : entry.resolve services fresh = .error failure after) :
    failure.diagnostic?.isSome ∨ ∃ fault, failure = .fault fault ∧ entry.Stumbles services fault := by
  obtain ⟨node, content, hreach, htext, harises⟩ := Launch.arises_of_starts (.entry hstarts) h
  rcases harises.excuses htexts with hsome | ⟨fault, rfl, hstumbles⟩
  · exact .inl hsome
  · exact .inr ⟨fault, rfl, .document hstarts hreach htext hstumbles⟩

/-- A resolution that fails complains about a document, or it stumbles.  Files whose bytes are
no text are left aside. -/
theorem resolve_fails {entry : Entry} {failure : Failure} {after : Session}
    (h : entry.resolve services fresh = .error failure after) :
    failure.diagnostic?.isSome ∨ ∃ fault, failure = .fault fault ∧ entry.Stumbles services fault := by
  cases entry with
  | text path content =>
    cases path with
    | none => exact fails_of_starts htexts .text h
    | some display =>
      cases hpath : services.locate display with
      | ok path => exact fails_of_starts htexts (.textAt hpath) h
      | error fault =>
        cases h.symm.trans (resolveText_of_fault hpath content fresh)
        exact .inr ⟨fault, rfl, .nowhere rfl hpath⟩
  | file display =>
    cases hpath : services.locate display with
    | error fault =>
      cases h.symm.trans (resolveFile_of_fault hpath fresh)
      exact .inr ⟨fault, rfl, .nowhere rfl hpath⟩
    | ok path =>
      cases hread : services.files.read path with
      | ok content => exact fails_of_starts htexts (.file hpath hread) h
      | error fault =>
        cases h.symm.trans (resolveFile_of_unreadable hpath hread fresh)
        cases fault with
        | undecodable bytes => exact absurd hread (htexts path bytes)
        | _ => exact .inl rfl

end

/-- A number of repeats that is too large is no complaint. -/
theorem resolve_fails_repeat :
    let services := Services.ofStore []
    let entry := Entry.text none "x r\"a\x7b99999999999999999999\x7d\""
    ∃ failure, failure? (entry.resolve services fresh) = some failure ∧
      failure.diagnostic? = none ∧
      ∃ fault, failure = .fault fault ∧ entry.Stumbles services fault := by
  intro services entry
  have hrun : failure? (entry.resolve services fresh) =
      some (.fault (.overflow "the repetition number is too large")) := by
    decide +kernel
  obtain ⟨after, h⟩ := failure?_eq_some_iff.1 hrun
  rcases resolve_fails (Files.ofStore_read_ne_undecodable []) h with hsome | hstumbles
  · cases hsome
  · exact ⟨_, hrun, rfl, hstumbles⟩

/-- Nor is a numeral that stands for no number. -/
theorem resolve_superscript :
    failure? ((Entry.text none "a ²").resolve (.ofStore []) fresh) =
      some (.fault (.badNumeral "invalid literal for int() with base 10: '²'")) := by
  decide +kernel

end Entry

end Rune
