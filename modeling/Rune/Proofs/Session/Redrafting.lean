import Rune.Proofs.Evaluation.Redrafting
import Rune.Proofs.Session.Transparency

/-!
# Rune - resolving another draft of a document

A document that has been read is resolved by gathering its files and evaluating it.  How
the gathers come out does not depend on where they stand, so that another draft of the
document with the same gathers is evaluated with the same configurations.

Main results:

- Definition {lit}`Session.resolveDocument` resolves a document that has been read, with the
  theorem {lit}`Session.resolve_of_parse` that resolving a text does this.
- Definition {lit}`Session.Collects` says what the gathers of a document come to.
- Theorem {lit}`Session.Collects.redraft`: another draft with the same gathers gathers the same.
- Theorem {lit}`Session.resolveDocument_edited`: taking a choice before the document is
  resolved changes nothing, and neither does a branch that is not chosen.
-/

namespace Rune.Session

variable {services : Services} {path : Option String} {source source' : Source}
  {document document' : Document} {session after gathered : Session} {config : Config}
  {aliases : Entries Config}

/-! ## Documents that have been read -/

/-- Resolve a document that has been read. -/
def resolveDocument (services : Services) (path : Option String) (source : Source)
    (document : Document) : Resolve Config := do
  let directory ← directoryOf services path
  let config ← within path <|
    contents services (resolverWith services services.files.known.length) source directory document
  if let some path := path then keep path config
  note (.resolved path config.globals.length config.items.length config.metadata.length)
  return config

/-- Resolving a text resolves the document that is read in it. -/
theorem resolve_of_parse {text : String}
    (hparse : (Source.ofText text path).parse = .ok document) :
    resolve services path text = resolveDocument services path (.ofText text path) document := by
  unfold resolve resolveUsing resolveDocument
  simp only [hparse]
  rfl

/-- Where there is a directory to gather files from, the contents of a document decide. -/
theorem resolveDocument_of_directory {directory : String}
    (hdirectory : directoryOf services path = .ok directory) :
    resolveDocument services path source document session =
      match contents services (resolverWith services services.files.known.length) source directory
        document (session.entered path) with
      | .ok config after => .ok config ((session.left after).published path config)
      | .error failure after => .error failure (session.left after) := by
  unfold resolveDocument
  simp only [hdirectory, bind, EStateM.bind, liftM, monadLift, MonadLift.monadLift, pure,
    EStateM.pure, within, entered]
  generalize contents services _ _ _ _ _ = result
  cases result with
  | error failure after => rfl
  | ok config after => cases path <;> rfl

/-! ## What a document gathers -/

/-- The gathers of a document come to configurations under aliases, and to a session. -/
def Collects (services : Services) (path : Option String) (source : Source) (document : Document)
    (session : Session) (aliases : Entries Config) (gathered : Session) : Prop :=
  ∃ directory, directoryOf services path = .ok directory ∧
    gatherAll services (resolverWith services services.files.known.length) source directory []
      document.gathers (session.entered path) = .ok aliases gathered

/-- A document that is resolved gathers configurations and is evaluated with them. -/
theorem exists_collects (h : resolveDocument services path source document session =
      .ok config after) :
    ∃ aliases gathered memory, Collects services path source document session aliases gathered ∧
      (Scope.ofDocument source services document aliases).evaluate (.fresh gathered.resources) =
        .ok config memory := by
  cases hdirectory : directoryOf services path with
  | error fault =>
    simp only [resolveDocument, hdirectory, bind, EStateM.bind, liftM, monadLift,
      MonadLift.monadLift] at h
    cases h
  | ok directory =>
    rw [resolveDocument_of_directory hdirectory] at h
    cases hcontents : contents services (resolverWith services services.files.known.length) source
        directory document (session.entered path) with
    | error failure last =>
      rw [hcontents] at h
      cases h
    | ok result last =>
      rw [hcontents] at h
      cases h
      obtain ⟨aliases, gathered, hall, hevaluate⟩ := bind_eq_ok_iff.1 hcontents
      obtain ⟨memory, hevaluate⟩ := evaluate_eq_ok hevaluate
      exact ⟨aliases, gathered, memory, ⟨directory, hdirectory, hall⟩, hevaluate⟩

/-- A document is resolved if it is evaluated with the configurations that it gathers. -/
theorem Collects.resolveDocument_eq_ok
    (h : Collects services path source document session aliases gathered) {memory : Memory}
    (hevaluate : (Scope.ofDocument source services document aliases).evaluate
      (.fresh gathered.resources) = .ok config memory) :
    ∃ after, resolveDocument services path source document session = .ok config after := by
  obtain ⟨directory, hdirectory, hall⟩ := h
  have hcontents : contents services (resolverWith services services.files.known.length) source
      directory document (session.entered path) =
        .ok config { gathered with resources := memory.resources } := by
    refine bind_eq_ok_iff.2 ⟨aliases, gathered, hall, ?_⟩
    rw [evaluate, hevaluate]
  rw [resolveDocument_of_directory hdirectory, hcontents]
  exact ⟨_, rfl⟩

/-- It fails if its evaluation does. -/
theorem Collects.resolveDocument_eq_error
    (h : Collects services path source document session aliases gathered) {flaw : Flaw}
    {memory : Memory} (hevaluate : (Scope.ofDocument source services document aliases).evaluate
      (.fresh gathered.resources) = .error flaw memory) :
    ∃ after, resolveDocument services path source document session =
      .error (flaw.failure source) after := by
  obtain ⟨directory, hdirectory, hall⟩ := h
  have hcontents : contents services (resolverWith services services.files.known.length) source
      directory document (session.entered path) =
        .error (flaw.failure source) { gathered with resources := memory.resources } := by
    simp only [contents, bind, EStateM.bind, hall]
    rw [evaluate, hevaluate]
    rfl
  rw [resolveDocument_of_directory hdirectory, hcontents]
  exact ⟨_, rfl⟩

/-- The resources tell the truth after a document has gathered its files. -/
theorem Collects.truthful (hsession : Sound services [] session)
    (h : Collects services path source document session aliases gathered) :
    gathered.resources.Truthful services.system := by
  obtain ⟨directory, -, hall⟩ := h
  have hgather : GathersReload services path.toList (Deep services path.toList)
      (resolverWith services services.files.known.length) source directory :=
    gather_reloads (fun _ _ hnew hread hcanonical => resolver_reloads path hnew hread hcanonical)
      source directory
  have step := gatherAll_reloads hgather [] document.gathers _ (hsession.entered path)
  rw [hall] at step
  cases step with
  | value hgathered _ => exact hgathered.truthful

/-! ## Another draft -/

/-- A gather succeeds exactly if its file is not being resolved and its configuration is
known or can be resolved. -/
theorem gather_eq_ok_iff {resolver : Resolver} {directory : String} {g : Gather} :
    gather services resolver source directory g session = .ok config after ↔
      ∃ file, FilePath.locate services.standpoint directory g.path = .ok file ∧
        file ∉ session.active ∧
        (Entries.get? file session.modules = some config ∧
            session.noted (.reused file g.aliasName) = after ∨
          Entries.get? file session.modules = none ∧
            ∃ text, services.files.read file = .ok text ∧
              resolver file text ((session.noted (.fileAsked file)).noted
                (.loaded file text.length g.aliasName)) = .ok config after) := by
  constructor
  · intro h
    have step := gather_step services resolver source directory g session
    rw [h] at step
    generalize hresult : EStateM.Result.ok config after = result at step
    cases step with
    | nowhere _ | cycle _ _ | unreadable _ _ _ _ => cases hresult
    | known hfile hactive hmodule =>
      cases hresult
      exact ⟨_, hfile, hactive, .inl ⟨hmodule, rfl⟩⟩
    | anew hfile hactive hmodule hread =>
      exact ⟨_, hfile, hactive, .inr ⟨hmodule, _, hread, rfl⟩⟩
  · rintro ⟨file, hfile, hactive, ⟨hmodule, rfl⟩ | ⟨hmodule, text, hread, hrun⟩⟩
    · simp only [gather, hfile, bind, EStateM.bind, liftM, monadLift, MonadLift.monadLift, pure,
        EStateM.pure, get_eq, if_neg hactive, hmodule]
      rfl
    · simp only [gather, load, hfile, hread, bind, EStateM.bind, liftM, monadLift,
        MonadLift.monadLift, pure, EStateM.pure, get_eq, if_neg hactive, hmodule]
      exact hrun

/-- Gathers that succeed do so wherever they stand. -/
theorem gatherAll_redraft {resolver : Resolver} {directory : String}
    {gathers gathers' : List Gather}
    (halike : gathers'.map Gather.unplaced = gathers.map Gather.unplaced)
    {given : Entries Config}
    (h : gatherAll services resolver source directory given gathers session =
      .ok aliases gathered) :
    gatherAll services resolver source' directory given gathers' session =
      .ok aliases gathered := by
  induction gathers generalizing gathers' given session with
  | nil =>
    obtain rfl : gathers' = [] := by simpa using halike
    exact h
  | cons g gathers ih =>
    obtain ⟨g', gathers', rfl, hg, hgathers⟩ := List.map_eq_cons_iff.1 halike
    obtain ⟨config, mid, hone, hrest⟩ := bind_eq_ok_iff.1 h
    have hpath : g'.path = g.path := congrArg (·.path) hg
    have halias : g'.aliasName = g.aliasName := congrArg (·.aliasName) hg
    refine bind_eq_ok_iff.2 ⟨config, mid, ?_, ?_⟩
    · rw [gather_eq_ok_iff] at hone ⊢
      rwa [hpath, halias]
    · rw [halias]
      exact ih hgathers hrest

/-- Another draft of a document with the same gathers comes to the same configurations. -/
theorem Collects.redraft (h : Collects services path source document session aliases gathered)
    (source' : Source)
    (hgathers : document'.gathers.map Gather.unplaced = document.gathers.map Gather.unplaced) :
    Collects services path source' document' session aliases gathered := by
  obtain ⟨directory, hdirectory, hall⟩ := h
  exact ⟨directory, hdirectory, gatherAll_redraft hgathers hall⟩

/-! ## Choices that are taken before -/

/-- If a document is resolved with the configurations that it gathers, then so is every
document that is made of it by taking choices before, or by giving them any other branch
in place of one that is not chosen.  It comes to the same globals, items and metadata in
the same order. -/
theorem resolveDocument_edited (hsession : Sound services [] session)
    (h : resolveDocument services path source document session = .ok config after) :
    ∃ aliases gathered, Collects services path source document session aliases gathered ∧
      ∀ source' document',
        List.Forall₂ (EditsStatement (.ofDocument source services document aliases))
          document document' →
        ∃ config' after',
          resolveDocument services path source' document' session = .ok config' after' ∧
          config'.globals = config.globals ∧ config'.items = config.items ∧
          config'.metadata = config.metadata := by
  obtain ⟨aliases, gathered, memory, hcollects, hrun⟩ := exists_collects h
  refine ⟨aliases, gathered, hcollects, fun source' document' hedits => ?_⟩
  have htruthful := hcollects.truthful hsession
  obtain ⟨config', memory', hrun', hglobals, hitems, hmetadata⟩ :=
    Scope.evaluate_edited source' hedits (Memory.faithful_fresh htruthful)
      (Memory.faithful_fresh htruthful) hrun
  obtain ⟨after', hafter⟩ :=
    (hcollects.redraft source' (gathers_of_edits hedits)).resolveDocument_eq_ok hrun'
  exact ⟨config', after', hafter, hglobals, hitems, hmetadata⟩

/-- A field of a block in place of a choice that looks at a global, and null in place of a
choice without a second branch. -/
theorem resolveDocument_edited_splice :
    let services := Services.ofStore []
    let range := TextRange.nowhere
    let asks (name : String) : Condition := .presence (.name name range) range
    let x : Member := .field "x" (.operand (.literal (.bool true) range)) range
    let y : Member := .field "y" (.operand (.name "x" range)) range
    let document := [.global "a" (.operand (.literal (.bool true) range)) range,
      .block "b" [x, .conditional (asks "a") [y] [] range] range,
      .global "c" (.conditional (asks "d") (.operand (.name "d" range)) none range) range]
    let document' := [.global "a" (.operand (.literal (.bool true) range)) range,
      .block "b" [x, y] range, .global "c" (.operand (.literal .null range)) range]
    ∃ config after config' after',
      resolveDocument services none (.ofText "") document fresh = .ok config after ∧
      resolveDocument services none (.ofText "") document' fresh = .ok config' after' ∧
      config'.globals = config.globals ∧ config'.items = config.items ∧
      config'.metadata = config.metadata := by
  intro services range asks x y document document'
  have hrun : (success? (resolveDocument services none (.ofText "") document fresh)).isSome := by
    decide +kernel
  obtain ⟨⟨config, after⟩, h⟩ := Option.isSome_iff_exists.1 hrun
  rw [success?_eq_some_iff] at h
  obtain ⟨aliases, gathered, ⟨directory, -, hgathered⟩, hedited⟩ :=
    resolveDocument_edited (Sound.fresh services) h
  cases hgathered
  have hmemory : (Memory.fresh .fresh).Faithful (.ofDocument (.ofText "") services document []) :=
    Memory.faithful_fresh (Resources.truthful_fresh _)
  have hchosen : Evaluation.Chooses (.ofDocument (.ofText "") services document [])
      (some [("x", .bool true)]) (asks "a") true := ⟨1, [], _, _, hmemory, rfl⟩
  have hb : EditsMembers (.ofDocument (.ofText "") services document []) []
      [x, .conditional (asks "a") [y] [] range] ([x] ++ ([y] ++ [])) :=
    .cons (.same rfl) ⟨1, [], [], _, _, hmemory, rfl⟩
      (.cons (.splice hchosen (.same rfl)) ⟨1, [], [], _, _, hmemory, rfl⟩ (.same rfl))
  obtain ⟨config', after', h', hsame⟩ := hedited (.ofText "") document'
    (.cons (.global (.same rfl)) (.cons (.block hb)
      (.cons (.global (.takeNull ⟨1, [], _, _, hmemory, rfl⟩)) .nil)))
  exact ⟨config, after, config', after', h, h', hsame⟩

end Rune.Session
