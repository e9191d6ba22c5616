import Rune.Proofs.Config.Respelling
import Rune.Proofs.Session.Likewise

/-!
# Rune - names may be respelled

In a document, hyphens and underscores of names can be exchanged: in the names of bindings,
blocks, fields and metadata, in aliases, in references and their segments, and in keys of
the system.  The document gathers the same files, and it is resolved to the same values
under the same keys, or it fails in the same way.

Main results:

- Theorem {lit}`Session.contents_likewise`: documents that are alike gather the same and are
  evaluated alike.
- Theorem {lit}`Session.resolveDocument_respelled`: a respelled document is resolved alike,
  and a respelled question has the same answer.
-/

namespace Rune

/-- Names may be respelled, and ranges do not matter. -/
def Likeness.respelled : Likeness := ⟨fun _ _ => True, Key.Respells⟩

namespace Session

variable {services : Services} {l : Likeness}

/-- Two documents with scopes that are alike are evaluated. -/
theorem evaluate_likewise_of_like {scope scope' : Scope} (hscope : scope.services = services)
    (hlike : scope.Like l scope') (hnames : l.Canonical) :
    Likewise services (Failure.Alike Diagnostic.SameCode) Config.Like (evaluate scope)
      (evaluate scope') := by
  subst hscope
  intro session session' h
  have hsame := Scope.evaluate_likewise hlike hnames (.fresh session.resources)
    (.fresh session'.resources) ⟨rfl, rfl, rfl, h.truthful, h.truthful'⟩
  unfold evaluate
  generalize scope.evaluate (.fresh session.resources) = result at hsame ⊢
  generalize scope'.evaluate (.fresh session'.resources) = result' at hsame ⊢
  cases hsame with
  | ok hconfig hafter =>
    exact .ok hconfig ⟨h.modules_eq, h.active_eq, hafter.truthful, hafter.truthful'⟩
  | error hflaw hafter =>
    exact .error (hflaw.failure_alike _ _)
      ⟨h.modules_eq, h.active_eq, hafter.truthful, hafter.truthful'⟩

/-- Documents that are alike gather the same and are evaluated alike. -/
theorem contents_likewise {document document' : Document} (hlike : document.Like l document')
    (hnames : l.Canonical) (depth : Nat) (source source' : Source) (directory : String) :
    Likewise services (Failure.Alike Diagnostic.SameCode) Config.Like
      (contents services (resolverWith services depth) source directory document)
      (contents services (resolverWith services depth) source' directory document') := by
  have hrefl := Failure.Alike.refl Diagnostic.SameCode.refl
  have hcode (complaint : Complaint) (range range' : TextRange) :
      (source.diagnose complaint range).SameCode (source'.diagnose complaint range') := rfl
  have hblaming (range range' : TextRange) :
      Blaming (Failure.Alike Diagnostic.SameCode) source source' range range' :=
    ⟨fun _ chain => .importCycle (hcode _ _ _) chain, fun _ => .importNotFound (hcode _ _ _)⟩
  refine (gatherAll_likewise hrefl (resolverWith_likewise hrefl services depth) directory hnames
    hlike.gathers (fun range range' _ => hblaming range range') []).bind fun aliases _ heq => ?_
  cases heq
  exact evaluate_likewise_of_like rfl
    (Scope.ofDocument_like hlike hnames source source' services aliases) hnames

/-! ## Respelled documents -/

/-- Names of a document may be respelled, also those in its references.  Then it is resolved
to the same values under the same keys, at the same places, or it fails in the same way; and
configurations that are alike answer respelled questions alike. -/
theorem resolveDocument_respelled {document document' : Document}
    (hrespelled : document.Like .respelled document') {session : Session}
    (htruthful : session.resources.Truthful services.system) (path : Option String)
    (source source' : Source) :
    Matching (fun _ _ => True) (Failure.Alike Diagnostic.SameCode) Config.Like
        (resolveDocument services path source document session)
        (resolveDocument services path source' document' session) ∧
      ∀ config config' : Config, config.Like config' → ∀ space question question',
        Key.Respells question question' → config.AnswersLike config' space question question' := by
  refine ⟨?_, fun _ _ hconfig space _ _ hquestion => hconfig.answers space hquestion⟩
  cases hdirectory : directoryOf services path with
  | error fault =>
    simp only [resolveDocument, hdirectory, bind, EStateM.bind, liftM, monadLift,
      MonadLift.monadLift]
    exact .error (.fault fault) trivial
  | ok directory =>
    rw [resolveDocument_of_directory hdirectory, resolveDocument_of_directory hdirectory]
    have hresult := contents_likewise hrespelled (fun _ _ h => Key.respells_iff.1 h)
      services.files.known.length source source' directory (session.entered path)
      (session.entered path) ⟨rfl, rfl, htruthful, htruthful⟩
    generalize contents services _ source directory document _ = result at hresult ⊢
    generalize contents services _ source' directory document' _ = result' at hresult ⊢
    cases hresult with
    | ok hconfig _ => exact .ok hconfig trivial
    | error hfailure _ => exact .error hfailure trivial

/-- A name, a dotted path and a key of the system are spelled in one way where they are bound
and in another one where they are referred to. -/
theorem resolveDocument_respelled_references :
    let services := { Services.ofStore [] with system := fun _ => some "6.1" }
    let place := TextRange.empty 0
    let document : Document := [
      .global "max-size" (.operand (.host (.sys "kernel_version" place))) place,
      .block "the_limits" [.field "top" (.operand (.name "max_size" place)) place] place,
      .global "y" (.operand (.path "the-limits" "top" [] place)) place]
    let document' : Document := [
      .global "max_size" (.operand (.host (.sys "kernel-version" place))) place,
      .block "the-limits" [.field "top" (.operand (.name "max-size" place)) place] place,
      .global "y" (.operand (.path "the_limits" "top" [] place)) place]
    document.Like .respelled document' ∧ Resources.Truthful services.system fresh.resources ∧
      (success? (resolveDocument services none (.ofText "") document fresh)).map
        (Entries.keys ·.1.globals) = some ["max_size", "y"] ∧
      Matching (fun _ _ => True) (Failure.Alike Diagnostic.SameCode) Config.Like
        (resolveDocument services none (.ofText "") document fresh)
        (resolveDocument services none (.ofText "") document' fresh) ∧
      ∀ config config' : Config, config.Like config' → ∀ space question question',
        Key.Respells question question' → config.AnswersLike config' space question question' := by
  intro services place document document'
  have hlike : document.Like .respelled document' := by
    have hname (name name' : String) (h : Key.canonical name' = Key.canonical name) :
        Likeness.respelled.names name name' := Key.respells_iff.2 h
    have hglobal := hname "max-size" "max_size" (by decide)
    have hsystem := hname "kernel_version" "kernel-version" (by decide)
    have hblock := hname "the_limits" "the-limits" (by decide)
    have hreference := hname "max_size" "max-size" (by decide)
    have hhead := hname "the-limits" "the_limits" (by decide)
    have hfield : Member.Like .respelled (.field "top" (.operand (.name "max_size" place)) place)
        (.field "top" (.operand (.name "max-size" place)) place) :=
      .field (hname "top" "top" rfl) (.operand (.name hreference trivial)) trivial
    have hpath : Operand.Like .respelled (.path "the-limits" "top" [] place)
        (.path "the_limits" "top" [] place) := .path hhead (hname "top" "top" rfl) .nil trivial
    exact .cons (.global hglobal (.operand (.host (.sys hsystem trivial))) trivial)
      (.cons (.block hblock (.cons hfield .nil) trivial)
        (.cons (.global (hname "y" "y" rfl) (.operand hpath) trivial) .nil))
  have htruthful := Resources.truthful_fresh services.system
  refine ⟨hlike, htruthful, by decide +kernel, ?_⟩
  exact resolveDocument_respelled hlike htruthful none (.ofText "") (.ofText "")

end Session

end Rune
