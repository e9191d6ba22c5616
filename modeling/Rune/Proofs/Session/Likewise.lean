import Rune.Proofs.Evaluation.Likewise
import Rune.Proofs.Evaluation.Lockstep
import Rune.Proofs.Session.Redrafting

/-!
# Rune - two sessions side by side

Two sessions may have done different things before: what a step of a resolution comes to
depends on the configurations that are kept and on the files that are being resolved, but
neither on the record of events nor on what the resources remember.

Main results:

- Structure {lit}`Session.Like` relates two sessions that keep the same configurations.
- Theorem {lit}`Session.gatherAll_likewise`: documents that are alike gather the same.
- Theorem {lit}`Session.resolve_likewise`: a document is resolved to the same configuration
  or fails in the same way.
-/

namespace Rune

namespace Session

/-! ## Two sessions -/

/-- Two sessions keep the same configurations while the same files are being resolved, and
the resources of both tell the truth. -/
structure Like (services : Services) (session session' : Session) : Prop where
  modules_eq : session'.modules = session.modules
  active_eq : session'.active = session.active
  truthful : session.resources.Truthful services.system
  truthful' : session'.resources.Truthful services.system

/-- Two steps come to values that are related, or to failures that are related. -/
abbrev Likewise (services : Services) (errors : Failure → Failure → Prop) {α α' : Type}
    (values : α → α' → Prop) (x : Resolve α) (y : Resolve α') : Prop :=
  SideBySide (Like services) errors values x y

/-- What a gather fails with at one place is related to what it fails with at another. -/
structure Blaming (errors : Failure → Failure → Prop) (source source' : Source)
    (range range' : TextRange) : Prop where
  cycle (complaint : Complaint) (chain : List String) :
    errors (.importCycle (source.diagnose complaint range) chain)
      (.importCycle (source'.diagnose complaint range') chain)
  missing (complaint : Complaint) :
    errors (.importNotFound (source.diagnose complaint range))
      (.importNotFound (source'.diagnose complaint range'))

variable {services : Services} {errors : Failure → Failure → Prop} {l : Likeness}

theorem lift_likewise (hrefl : ∀ failure, errors failure failure) {α : Type}
    (x : Except Fault α) :
    Likewise services errors (· = ·) (liftM x : Resolve α) (liftM x) := by
  cases x with
  | ok a => exact .pure rfl
  | error fault => exact .throw (hrefl (.fault fault))

theorem note_likewise (event event' : Event) :
    Likewise services errors (fun _ _ => True) (note event) (note event') := fun _ _ h =>
  .ok trivial ⟨h.modules_eq, h.active_eq, h.truthful.of_facts_eq rfl, h.truthful'.of_facts_eq rfl⟩

theorem keep_likewise (path : String) (config : Config) :
    Likewise services errors (fun _ _ => True) (keep path config) (keep path config) := fun _ _ h =>
  .ok trivial ⟨congrArg (Entries.insert path config) h.modules_eq, h.active_eq, h.truthful,
    h.truthful'⟩

theorem within_likewise {α α' : Type} {values : α → α' → Prop} {x : Resolve α} {y : Resolve α'}
    (path : Option String) (h : Likewise services errors values x y) :
    Likewise services errors values (within path x) (within path y) := by
  intro session session' hsession
  have hentered := h { session with active := session.active ++ path.toList }
    { session' with active := session'.active ++ path.toList }
    ⟨hsession.modules_eq, congrArg (· ++ path.toList) hsession.active_eq, hsession.truthful,
      hsession.truthful'⟩
  unfold within
  generalize x _ = result at hentered ⊢
  generalize y _ = result' at hentered ⊢
  cases hentered with
  | ok hvalue hafter =>
    exact .ok hvalue ⟨hafter.modules_eq, hsession.active_eq, hafter.truthful, hafter.truthful'⟩
  | error hfailure hafter =>
    exact .error hfailure ⟨hafter.modules_eq, hsession.active_eq, hafter.truthful, hafter.truthful'⟩

theorem load_likewise (hrefl : ∀ failure, errors failure failure) (path : String) :
    Likewise services errors (· = ·) (load services path) (load services path) := by
  refine (note_likewise _ _).bind fun _ _ _ => ?_
  cases services.files.read path with
  | ok text => exact .pure rfl
  | error fault =>
    cases fault with
    | undecodable bytes => exact .throw (hrefl _)
    | _ => exact .pure rfl

/-- One document is evaluated in both sessions. -/
theorem evaluate_likewise (hrefl : ∀ failure, errors failure failure) {scope : Scope}
    (hscope : scope.services = services) :
    Likewise services errors (· = ·) (evaluate scope) (evaluate scope) := by
  subst hscope
  intro session session' h
  have hsame := scope.evaluate_lockstep (.fresh session.resources) (.fresh session'.resources)
    ⟨rfl, rfl, rfl, h.truthful, h.truthful'⟩
  unfold evaluate
  generalize scope.evaluate (.fresh session.resources) = result at hsame ⊢
  generalize scope.evaluate (.fresh session'.resources) = result' at hsame ⊢
  cases hsame with
  | ok hafter => exact .ok rfl ⟨h.modules_eq, h.active_eq, hafter.truthful, hafter.truthful'⟩
  | error hafter =>
    exact .error (hrefl _) ⟨h.modules_eq, h.active_eq, hafter.truthful, hafter.truthful'⟩

/-! ## Gathering -/

section

variable {resolver : Resolver} (hrefl : ∀ failure, errors failure failure)
  (hresolver : ∀ path text,
    Likewise services errors (· = ·) (resolver path text) (resolver path text))
  {source source' : Source} (directory : String)
include hrefl hresolver

/-- Gathers of one file come to the same configuration. -/
theorem gather_likewise {g g' : Gather} (hgather : g.Like l g')
    (hblaming : Blaming errors source source' g.range g'.range) :
    Likewise services errors (· = ·) (gather services resolver source directory g)
      (gather services resolver source' directory g') := by
  unfold gather
  rw [hgather.path_eq]
  refine (lift_likewise hrefl _).bind fun path _ heq => ?_
  cases heq
  refine SideBySide.get.bind fun session session' hsession => ?_
  simp only [hsession.active_eq, hsession.modules_eq]
  have hcycle : Likewise services errors (fun _ _ => True)
      (throw (cycle session.active path (source.diagnose · g.range)) : Resolve Unit)
      (throw (cycle session.active path (source'.diagnose · g'.range)) : Resolve Unit) :=
    .throw (hblaming.cycle _ _)
  refine .ite (hcycle.bind fun _ _ _ => ?rest) ?rest
  cases Entries.get? path session.modules with
  | some config => exact (note_likewise _ _).bind fun _ _ _ => .pure rfl
  | none =>
    refine (load_likewise hrefl path).bind fun loaded _ heq => ?_
    cases heq
    cases loaded with
    | error reason =>
      refine .throw ?_
      unfold missing
      rw [hgather.path_eq]
      exact hblaming.missing _
    | ok text => exact (note_likewise _ _).bind fun _ _ _ => hresolver path text

theorem gatherAll_likewise (hnames : l.Canonical) {gathers gathers' : List Gather}
    (hgathers : List.Forall₂ (Gather.Like l) gathers gathers')
    (hblaming : ∀ range range', l.places range range' →
      Blaming errors source source' range range')
    (aliases : Entries Config) :
    Likewise services errors (· = ·) (gatherAll services resolver source directory aliases gathers)
      (gatherAll services resolver source' directory aliases gathers') := by
  induction hgathers generalizing aliases with
  | nil => exact .pure rfl
  | cons hgather _ ih =>
    refine (gather_likewise hrefl hresolver directory hgather
      (hblaming _ _ hgather.range)).bind fun config _ heq => ?_
    cases heq
    rw [hnames hgather.aliasName]
    exact ih _

end

/-! ## Documents -/

section

variable (hrefl : ∀ failure, errors failure failure)
include hrefl

/-- A text is resolved to the same configuration in both sessions, if the files that it
gathers are. -/
theorem resolveUsing_likewise {resolver : Resolver}
    (hresolver : ∀ path text,
      Likewise services errors (· = ·) (resolver path text) (resolver path text))
    (path : Option String) (text : String) :
    Likewise services errors (· = ·) (resolveUsing services resolver path text)
      (resolveUsing services resolver path text) := by
  unfold resolveUsing
  dsimp only
  cases (Source.ofText text path).parse with
  | error failure => exact .throw (hrefl _)
  | ok document =>
    refine (lift_likewise hrefl _).bind fun directory _ heq => ?_
    cases heq
    have hgathers : List.Forall₂ (Gather.Like (.placed (· = ·))) document.gathers
        document.gathers := List.forall₂_same.mpr fun _ _ => ⟨rfl, rfl, rfl, rfl⟩
    have hcontents : Likewise services errors (· = ·)
        (contents services resolver (.ofText text path) directory document)
        (contents services resolver (.ofText text path) directory document) := by
      refine (gatherAll_likewise hrefl hresolver directory (Likeness.canonical_placed _) hgathers
        (fun _ _ heq => heq ▸ ⟨fun _ _ => hrefl _, fun _ => hrefl _⟩) []).bind
          fun aliases _ heq => ?_
      cases heq
      exact evaluate_likewise hrefl rfl
    refine (within_likewise path hcontents).bind fun config _ heq => ?_
    cases heq
    cases path with
    | none => exact (note_likewise _ _).bind fun _ _ _ => .pure rfl
    | some path =>
      exact (keep_likewise path config).bind fun _ _ _ =>
        (note_likewise _ _).bind fun _ _ _ => .pure rfl

/-- So is every file that is gathered. -/
theorem resolverWith_likewise (services : Services) (depth : Nat) (path text : String) :
    Likewise services errors (· = ·) (resolverWith services depth path text)
      (resolverWith services depth path text) := by
  induction depth generalizing path text with
  | zero =>
    intro session session' hsession
    simp only [resolverWith, hsession.active_eq]
    exact .error (hrefl _) hsession
  | succ depth ih => exact resolveUsing_likewise hrefl ih (some path) text

/-- A document is resolved to the same configuration in both sessions. -/
theorem resolve_likewise (services : Services) (path : Option String) (text : String) :
    Likewise services errors (· = ·) (resolve services path text) (resolve services path text) :=
  resolveUsing_likewise hrefl (resolverWith_likewise hrefl services _) path text

end

end Session

end Rune
