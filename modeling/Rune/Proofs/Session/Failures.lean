import Rune.Proofs.Evaluation.Lockstep
import Rune.Proofs.Session.ImportGraph
import Rune.Proofs.Session.Termination

/-!
# Rune - where failures come from

When a resolution fails, one document is to blame: it cannot be parsed, it has no
directory to gather files from, one of its gathers fails, or its evaluation does.  That
document can be reached from the first one, and its own text is the one that the failure
is told with.

Main results:

- Type {lit}`Session.Arises` lists the failures that one document can give rise to.
- Theorem {lit}`Launch.arises_of_starts`: once a resolution has a first document, its failure
  arises from a document that can be reached.
-/

namespace Rune

open ImportGraph

namespace Session

/-! ## One document -/

/-- The failures that a document gives rise to, those of the files that it gathers left
aside. -/
inductive Arises (services : Services) (node : Option String) (content : String) :
    Failure → Prop
  | unparsed {failure : Failure} : (Source.ofText content node).parse = .error failure →
      Arises services node content failure
  | homeless {fault : Fault} : directoryOf services node = .error fault →
      Arises services node content (.fault fault)
  | nowhere {document : Document} {g : Gather} {directory : String} {fault : Fault} :
      (Source.ofText content node).parse = .ok document → g ∈ document.gathers →
      directoryOf services node = .ok directory →
      FilePath.locate services.standpoint directory g.path = .error fault →
      Arises services node content (.fault fault)
  | circular {document : Document} {g : Gather} (active : List String) (path : String) :
      (Source.ofText content node).parse = .ok document → g ∈ document.gathers →
      Arises services node content
        (cycle active path ((Source.ofText content node).diagnose · g.range))
  | unreadable {document : Document} {g : Gather} {path : String} {fault : ReadFault} :
      (Source.ofText content node).parse = .ok document → g ∈ document.gathers →
      services.files.read path = .error fault →
      Arises services node content
        (fault.failure (missing g · ((Source.ofText content node).diagnose · g.range)))
  | flawed {document : Document} {aliases : Entries Config} {resources : Resources}
      {flaw : Flaw} {memory : Memory} :
      (Source.ofText content node).parse = .ok document →
      resources.Truthful services.system →
      (Scope.ofDocument (.ofText content node) services document aliases).evaluate
        (.fresh resources) = .error flaw memory →
      Arises services node content (flaw.failure (.ofText content node))

/-- A failure arises from a document that can be reached from the first one. -/
def Blamed (services : Services) (root : Option String) (text : String) (failure : Failure) :
    Prop :=
  ∃ node content, Reachable services root text node ∧
    textAt services root text node = some content ∧ Arises services node content failure

/-- All failures of a step arise from documents.  A step that succeeds leaves the files that
are being resolved as they are, and the resources still tell the truth. -/
def Accounts (services : Services) (root : Option String) (text : String) (active : List String)
    {α : Type} (x : Resolve α) : Prop :=
  ∀ session, session.active = active → session.resources.Truthful services.system →
    match x session with
    | .ok _ after => after.active = active ∧ after.resources.Truthful services.system
    | .error failure _ => Blamed services root text failure

variable {services : Services} {root : Option String} {text : String} {active : List String}

namespace Accounts

variable {α β : Type}

theorem pure (a : α) : Accounts services root text active (pure a) :=
  fun _ hactive htruthful => ⟨hactive, htruthful⟩

theorem bind {x : Resolve α} {f : α → Resolve β} (hx : Accounts services root text active x)
    (hf : ∀ a, Accounts services root text active (f a)) :
    Accounts services root text active (x >>= f) := by
  intro session hactive htruthful
  have first := hx session hactive htruthful
  simp only [Bind.bind, EStateM.bind]
  cases hrun : x session with
  | ok a next =>
    rw [hrun] at first
    exact hf a next first.1 first.2
  | error failure next =>
    rw [hrun] at first
    exact first

end Accounts

section

variable {node : Option String} {content directory : String} {document : Document}
  (hreach : Reachable services root text node)
  (htext : textAt services root text node = some content)
  (hparse : (Source.ofText content node).parse = .ok document)
include hreach htext hparse

/-- An evaluation fails over a flaw of its document. -/
theorem evaluate_accounts (aliases : Entries Config) : Accounts services root text active
    (evaluate (.ofDocument (.ofText content node) services document aliases)) := by
  intro session hactive htruthful
  have halike : (Memory.fresh session.resources).Alike
      (.ofDocument (.ofText content node) services document aliases) (.fresh session.resources) :=
    ⟨rfl, rfl, rfl, htruthful, htruthful⟩
  have hsame := Scope.evaluate_lockstep _ _ _ halike
  unfold evaluate
  cases hrun : (Scope.ofDocument (.ofText content node) services document aliases).evaluate
      (.fresh session.resources) with
  | ok config memory =>
    rw [hrun] at hsame
    cases hsame with
    | ok hafter => exact ⟨hactive, hafter.truthful⟩
  | error flaw memory => exact ⟨node, content, hreach, htext, .flawed hparse htruthful hrun⟩

variable (hdirectory : directoryOf services node = .ok directory) {resolver : Resolver}
  (hresolver : ∀ path content, Edge services root text node (some path) → path ∉ active →
    services.files.read path = .ok content →
    Accounts services root text active (resolver path content))
include hdirectory hresolver

/-- A gather fails for its path or for its file, or because its file fails. -/
theorem gather_accounts {g : Gather} (hg : g ∈ document.gathers) :
    Accounts services root text active
      (gather services resolver (.ofText content node) directory g) := by
  intro session hactive htruthful
  have step := gather_step services resolver (.ofText content node) directory g session
  generalize gather services resolver (.ofText content node) directory g session = result at step ⊢
  cases step with
  | nowhere hpath => exact ⟨node, content, hreach, htext, .nowhere hparse hg hdirectory hpath⟩
  | cycle => exact ⟨node, content, hreach, htext, .circular _ _ hparse hg⟩
  | known => exact ⟨hactive, htruthful.of_facts_eq rfl⟩
  | unreadable _ _ _ hread => exact ⟨node, content, hreach, htext, .unreadable hparse hg hread⟩
  | @anew path _ hpath hnew _ hread =>
    have hgathers := (gathers_iff htext hparse hdirectory).2 ⟨hg, hpath⟩
    exact hresolver path _ ⟨g, path, hgathers, rfl⟩ (hactive ▸ hnew) hread _ hactive
      (htruthful.of_facts_eq rfl)

theorem gatherAll_accounts (gathers : List Gather) (hgathers : gathers ⊆ document.gathers)
    (aliases : Entries Config) : Accounts services root text active
      (gatherAll services resolver (.ofText content node) directory aliases gathers) := by
  induction gathers generalizing aliases with
  | nil => exact .pure _
  | cons g gathers ih =>
    have hfirst := gather_accounts hreach htext hparse hdirectory hresolver
      (hgathers List.mem_cons_self)
    exact hfirst.bind fun config => ih (fun _ hmem => hgathers (List.mem_cons_of_mem _ hmem)) _

end

/-- A document fails by itself, or a file that it gathers fails. -/
theorem resolveUsing_accounts {node : Option String} {content : String}
    (hreach : Reachable services root text node)
    (htext : textAt services root text node = some content) {resolver : Resolver}
    (hresolver : ∀ path content, Edge services root text node (some path) →
      path ∉ active ++ node.toList → services.files.read path = .ok content →
      Accounts services root text (active ++ node.toList) (resolver path content)) :
    Accounts services root text active (resolveUsing services resolver node content) := by
  intro session hactive htruthful
  have step := resolve_step services resolver node content session
  generalize resolveUsing services resolver node content session = result at step ⊢
  have hcontents {document : Document} {directory : String}
      (hparse : (Source.ofText content node).parse = .ok document)
      (hdirectory : directoryOf services node = .ok directory) :
      Accounts services root text (active ++ node.toList)
        (contents services resolver (.ofText content node) directory document) :=
    (gatherAll_accounts hreach htext hparse hdirectory hresolver _ (fun _ => id) _).bind
      fun _ => evaluate_accounts hreach htext hparse _
  have hentered : (session.entered node).active = active ++ node.toList := by
    simp [entered, hactive]
  cases step with
  | unparsed hparse => exact ⟨node, content, hreach, htext, .unparsed hparse⟩
  | homeless _ hdirectory => exact ⟨node, content, hreach, htext, .homeless hdirectory⟩
  | stopped hparse hdirectory hrun =>
    have hresult := hcontents hparse hdirectory _ hentered htruthful
    rw [hrun] at hresult
    exact hresult
  | resolved hparse hdirectory hrun =>
    have hresult := hcontents hparse hdirectory _ hentered htruthful
    rw [hrun] at hresult
    exact ⟨hactive, hresult.2.of_facts_eq rfl⟩

/-! ## All documents -/

/-- So does every file that can be reached. -/
theorem resolver_accounts {path content : String} (hnew : path ∉ root.toList)
    (hread : services.files.read path = .ok content)
    (hreach : Reachable services root text (some path)) :
    Accounts services root text root.toList
      (resolverWith services services.files.known.length path content) := by
  have hall := resolver_induction (P := fun rest path content resolver =>
    Reachable services root text (some path) →
      Accounts services root text (root.toList ++ rest) (resolver path content)) ?_ hnew hread
  · simpa using hall hreach
  intro depth rest path content hpath hread ih hreach
  have hother : some path ≠ root := by
    rintro rfl
    simp at hpath
  have htext : textAt services root text (some path) = some content := by
    simp [textAt, hother, hread, Except.toOption]
  refine resolveUsing_accounts hreach htext fun other content' hedge hnew hread' => ?_
  rw [Option.toList_some, List.append_assoc] at hnew ⊢
  exact ih other content' hnew hread' (hreach.tail hedge)

/-- So does the first document. -/
theorem resolve_accounts (services : Services) (root : Option String) (text : String) :
    Accounts services root text [] (resolve services root text) := by
  refine resolveUsing_accounts .refl (by simp [textAt]) fun path content hedge hnew hread => ?_
  rw [List.nil_append] at hnew ⊢
  exact resolver_accounts hnew hread (.single hedge)

end Session

namespace Launch

open Session

variable {services : Services} {launch : Launch} {failure : Failure} {after : Session}

/-- Once a resolution has a first document, its failure arises from a document that can be
reached. -/
theorem arises_of_starts {root : Option String} {text : String}
    (hstarts : launch.Starts services root text)
    (h : launch.resolve services fresh = .error failure after) :
    Blamed services root text failure := by
  obtain ⟨session, hactive, htruthful, hresolve⟩ := begins_of_starts hstarts
  have hfinish (config : Config) : Accounts services root text [] (finish config) := by
    intro session hactive htruthful
    obtain ⟨event, hrun⟩ := finish_eq config session
    rw [hrun]
    exact ⟨hactive, htruthful.of_facts_eq rfl⟩
  have hrun := (resolve_accounts services root text).bind hfinish session hactive htruthful
  rwa [hresolve.symm.trans h] at hrun

end Launch

end Rune
