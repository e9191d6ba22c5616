import Rune.Session.Gather
import Mathlib.Data.List.Chain
import Mathlib.Data.List.Nodup
import Mathlib.Logic.Relation

/-!
# Rune - which documents gather which

The documents of a resolution are nodes of a graph: the first one, and the files that
are gathered.  An edge leads from a document to each file that it gathers.

Main results:

- Structure {lit}`ImportGraph.Gathers` and definition {lit}`ImportGraph.Edge` are the edges,
  and {lit}`ImportGraph.Acyclic` says that no document that can be reached gathers itself.
- Structure {lit}`ImportGraph.Reports` says what a report of a file that gathers itself has
  to show.
- Theorem {lit}`ImportGraph.Route.reports`: what is reported along a route of edges is such
  a file.
- Theorem {lit}`ImportGraph.Settled.acyclic`: where the files that a document gathers were
  settled, each one after those that it gathers itself, the graph is acyclic.
-/

namespace Rune

namespace ImportGraph

open Relation

/-! ## The graph -/

section

variable (services : Services) (root : Option String) (text : String)

/-- The text of a document: the first one has its own, and any other one that of its
file. -/
def textAt (node : Option String) : Option String :=
  if node = root then some text
  else node.bind fun path => (services.files.read path).toOption

/-- A document gathers a file. -/
structure Gathers (node : Option String) (g : Gather) (path : String) : Prop where
  intro ::
  parses : ∃ content document, textAt services root text node = some content ∧
    (Source.ofText content node).parse = .ok document ∧ g ∈ document.gathers
  locates : ∃ directory, Session.directoryOf services node = .ok directory ∧
    FilePath.locate services.standpoint directory g.path = .ok path

/-- An edge leads from a document to a file that it gathers. -/
def Edge (node next : Option String) : Prop :=
  ∃ g path, Gathers services root text node g path ∧ next = some path

/-- A document can be reached from the first one. -/
def Reachable (node : Option String) : Prop := ReflTransGen (Edge services root text) root node

/-- No document that can be reached gathers itself, directly or through others. -/
def Acyclic : Prop :=
  ∀ node, Reachable services root text node → ¬ TransGen (Edge services root text) node node

/-- What the report of a file that gathers itself shows: a chain of different files from
a file that can be reached back to it, each one gathering the next, and the gather that
closes the chain, in the text of the last file. -/
structure Reports (diagnostic : Diagnostic) (chain : List String) : Prop where
  length : 2 ≤ chain.length
  closed : chain.head? = chain.getLast?
  nodup : chain.dropLast.Nodup
  edges : chain.IsChain fun path next => Edge services root text (some path) (some next)
  reachable : ∀ path ∈ chain, Reachable services root text (some path)
  place : ∃ last first content g message, chain.dropLast.getLast? = some last ∧
    chain.getLast? = some first ∧ textAt services root text (some last) = some content ∧
    Gathers services root text (some last) g first ∧
    diagnostic = (Source.ofText content (some last)).diagnose (.worded .importCycle message) g.range

end

section

variable {services : Services} {root : Option String} {text : String}

/-- What a document gathers is read off its tree. -/
theorem gathers_iff {node : Option String} {content directory : String} {document : Document}
    (htext : textAt services root text node = some content)
    (hparse : (Source.ofText content node).parse = .ok document)
    (hdirectory : Session.directoryOf services node = .ok directory) {g : Gather} {path : String} :
    Gathers services root text node g path ↔
      g ∈ document.gathers ∧ FilePath.locate services.standpoint directory g.path = .ok path := by
  constructor
  · rintro ⟨⟨content', document', htext', hparse', hg⟩, directory', hdirectory', hpath⟩
    rw [htext] at htext'
    cases htext'
    rw [hparse] at hparse'
    cases hparse'
    rw [hdirectory] at hdirectory'
    cases hdirectory'
    exact ⟨hg, hpath⟩
  · rintro ⟨hg, hpath⟩
    exact ⟨⟨content, document, htext, hparse, hg⟩, directory, hdirectory, hpath⟩

/-- A report shows a document that gathers itself. -/
theorem Reports.not_acyclic {diagnostic : Diagnostic} {chain : List String}
    (h : Reports services root text diagnostic chain) : ¬ Acyclic services root text := by
  intro hacyclic
  have hedges := h.edges
  have hclosed := h.closed
  match chain, h.length with
  | first :: second :: later, _ =>
    obtain ⟨hedge, hchain⟩ := List.isChain_cons_cons.1 hedges
    have hlast : (second :: later).getLast (List.cons_ne_nil _ _) = first := by
      rw [List.getLast?_cons_cons, List.getLast?_eq_some_getLast (List.cons_ne_nil _ _)] at hclosed
      exact (Option.some.inj hclosed).symm
    have hback := List.relationReflTransGen_of_exists_isChain_cons later hchain hlast
    have hcycle : TransGen (Edge services root text) (some first) (some first) :=
      .head' hedge (hback.lift some fun _ _ h => h)
    exact hacyclic _ (h.reachable first List.mem_cons_self) hcycle

/-! ## One more document -/

section

variable {path : String} {content : String}
  (hread : services.files.read path = .ok content)
  (hroot : ∀ file, root = some file → ¬ Reachable services (some path) content (some file))
include hread hroot

/-- From a file that does not lead to the first document, the graph is that of the file. -/
theorem edge_of_reachable {node next : Option String}
    (hnode : Reachable services (some path) content node)
    (hedge : Edge services root text node next) :
    Edge services (some path) content node next := by
  obtain ⟨g, file, ⟨⟨content', document, htext, hparse, hg⟩, hlocates⟩, rfl⟩ := hedge
  refine ⟨g, file, ⟨⟨content', document, ?_, hparse, hg⟩, hlocates⟩, rfl⟩
  have hother : node ≠ root := by
    rintro rfl
    cases hnode' : node with
    | none =>
      subst hnode'
      rcases ReflTransGen.cases_tail hnode with heq | ⟨_, -, _, _, -, heq⟩ <;> cases heq
    | some file => exact hroot file hnode' (hnode' ▸ hnode)
  rw [textAt, if_neg hother] at htext
  unfold textAt
  split
  · rename_i heq
    rw [heq] at htext
    simpa [hread, Except.toOption] using htext
  · exact htext

/-- What can be reached from such a file is the same. -/
theorem reachable_of_reflTransGen {node : Option String}
    (h : ReflTransGen (Edge services root text) (some path) node) :
    Reachable services (some path) content node := by
  induction h with
  | refl => exact .refl
  | tail _ hedge ih => exact ih.tail (edge_of_reachable hread hroot ih hedge)

/-- A document that gathers nothing but such a file gathers itself only if a file does that
the file leads to. -/
theorem Acyclic.before (h : Acyclic services (some path) content)
    (honly : ∀ next, Edge services root text root next → next = some path) :
    Acyclic services root text := by
  -- A cycle around a node that the file leads to is a cycle in the graph of the file.
  have inside {node : Option String} (hnode : Reachable services (some path) content node) :
      ¬ TransGen (Edge services root text) node node := by
    intro hcycle
    suffices lifted : ∀ {last}, TransGen (Edge services root text) node last →
        Reachable services (some path) content last ∧
          TransGen (Edge services (some path) content) node last from
      h node hnode (lifted hcycle).2
    intro last hlast
    induction hlast with
    | single hedge =>
      have hedge := edge_of_reachable hread hroot hnode hedge
      exact ⟨hnode.tail hedge, .single hedge⟩
    | tail _ hedge ih =>
      have hedge := edge_of_reachable hread hroot ih.1 hedge
      exact ⟨ih.1.tail hedge, ih.2.tail hedge⟩
  intro node hnode hcycle
  rcases ReflTransGen.cases_head hnode with rfl | ⟨next, hedge, hrest⟩
  · obtain ⟨next, hedge, hback⟩ := TransGen.head'_iff.1 hcycle
    obtain rfl := honly next hedge
    have hreach := reachable_of_reflTransGen hread hroot hback
    exact inside hreach hcycle
  · obtain rfl := honly next hedge
    exact inside (reachable_of_reflTransGen hread hroot hrest) hcycle

end

end

/-! ## Routes -/

section

variable {services : Services} {root : Option String} {text : String}

/-- The document at the end of the files that are being resolved after the first one. -/
def here (root : Option String) (rest : List String) : Option String := rest.getLast?.or root

/-- The files being resolved after the first document are a route: each one is gathered
by the document before it, and all of them are different. -/
inductive Route (services : Services) (root : Option String) (text : String) :
    List String → Prop
  | root : Route services root text []
  | snoc {rest : List String} {path : String} : Route services root text rest →
      Edge services root text (here root rest) (some path) → path ∉ root.toList ++ rest →
      Route services root text (rest ++ [path])

namespace Route

variable {rest : List String}

theorem nodup (h : Route services root text rest) : (root.toList ++ rest).Nodup := by
  induction h with
  | root => cases root <;> simp
  | @snoc rest path _ _ hnew ih =>
    rw [← List.append_assoc, ← List.concat_eq_append]
    exact List.Nodup.concat hnew ih

/-- The end of a route can be reached. -/
theorem reachable_here (h : Route services root text rest) :
    Reachable services root text (here root rest) := by
  induction h with
  | root => exact .refl
  | snoc _ hedge _ ih =>
    rw [here, List.getLast?_concat, Option.some_or]
    exact ih.tail hedge

/-- All files of a route can be reached. -/
theorem reachable (h : Route services root text rest) :
    ∀ path ∈ root.toList ++ rest, Reachable services root text (some path) := by
  induction h with
  | root =>
    intro path hpath
    obtain rfl : root = some path := by simpa using hpath
    exact .refl
  | @snoc rest last hroute hedge _ ih =>
    intro path hpath
    rw [← List.append_assoc] at hpath
    rcases List.mem_append.1 hpath with hpath | hpath
    · exact ih path hpath
    · obtain rfl := List.mem_singleton.1 hpath
      exact hroute.reachable_here.tail hedge

/-- From any of its files on, a route is a chain of edges up to its end. -/
theorem exists_dropWhile (h : Route services root text rest) :
    ∀ path ∈ root.toList ++ rest, ∃ later,
      (root.toList ++ rest).dropWhile (· ≠ path) = path :: later ∧
      (path :: later).getLast? = here root rest ∧
      (path :: later).IsChain fun path next => Edge services root text (some path) (some next) := by
  induction h with
  | root =>
    intro path hpath
    obtain rfl : root = some path := by simpa using hpath
    exact ⟨[], by simp, by simp [here], by simp⟩
  | @snoc rest last hroute hedge hnew ih =>
    intro path hpath
    rw [← List.append_assoc] at hpath ⊢
    have hhere : here root (rest ++ [last]) = some last := by simp [here]
    rcases List.mem_append.1 hpath with hold | hpath
    · obtain ⟨later, hdrop, hlast, hchain⟩ := ih path hold
      refine ⟨later ++ [last], ?_, ?_, ?_⟩
      · rw [List.dropWhile_append, hdrop]
        simp
      · rw [← List.cons_append, List.getLast?_concat, hhere]
      · rw [← List.cons_append, List.isChain_append]
        refine ⟨hchain, by simp, fun other hother next hnext => ?_⟩
        obtain rfl : last = next := by simpa using hnext
        rw [Option.mem_def, hlast] at hother
        rwa [← hother]
    · obtain rfl := List.mem_singleton.1 hpath
      refine ⟨[], ?_, by simp [hhere], by simp⟩
      rw [List.dropWhile_append_of_pos fun other hother => by
        simpa using fun heq : other = path => hnew (heq ▸ hother)]
      simp

/-- A gather at the end of a route that leads back to one of its files is reported with
the files from there on. -/
theorem reports (h : Route services root text rest) {content path : String} {g : Gather}
    (htext : textAt services root text (here root rest) = some content)
    (hgather : Gathers services root text (here root rest) g path)
    (hpath : path ∈ root.toList ++ rest) (message : String) :
    Reports services root text
      ((Source.ofText content (here root rest)).diagnose (.worded .importCycle message) g.range)
      ((root.toList ++ rest).dropWhile (· ≠ path) ++ [path]) := by
  obtain ⟨later, hdrop, hlast, hchain⟩ := h.exists_dropWhile path hpath
  have hsublist : (path :: later).Sublist (root.toList ++ rest) :=
    hdrop ▸ List.dropWhile_sublist _
  have hlast' : (path :: later).getLast? = some ((path :: later).getLast (by simp)) :=
    List.getLast?_eq_some_getLast _
  have hhere := hlast.symm.trans hlast'
  generalize (path :: later).getLast _ = last at hlast' hhere
  rw [hhere] at htext hgather ⊢
  rw [hdrop]
  have hend : (path :: later ++ [path]).getLast? = some path := List.getLast?_concat
  constructor
  case length => simp
  case closed =>
    rw [hend]
    rfl
  case nodup =>
    rw [List.dropLast_concat]
    exact h.nodup.sublist hsublist
  case edges =>
    rw [List.isChain_append]
    refine ⟨hchain, by simp, fun other hother next hnext => ?_⟩
    obtain rfl : path = next := by simpa using hnext
    rw [hlast', Option.mem_some] at hother
    exact hother ▸ ⟨g, path, hgather, rfl⟩
  case reachable =>
    intro other hother
    rcases List.mem_append.1 hother with hother | hother
    · exact h.reachable other (hsublist.subset hother)
    · obtain rfl := List.mem_singleton.1 hother
      exact h.reachable other hpath
  case place =>
    refine ⟨last, path, content, g, message, ?_, hend, htext, hgather, rfl⟩
    rw [List.dropLast_concat, hlast']

end Route

/-! ## Settled files -/

/-- Files are settled one after another, each one after all files that it gathers. -/
inductive Settled (services : Services) (root : Option String) (text : String) :
    List String → Prop
  | nil : Settled services root text []
  | snoc {paths : List String} {path : String} : Settled services root text paths →
      (∀ next, Edge services root text (some path) (some next) → next ∈ paths) →
      Settled services root text (paths ++ [path])

namespace Settled

variable {paths : List String}

/-- What is gathered by a settled file is settled. -/
theorem mem_of_edge (h : Settled services root text paths) {path next : String}
    (hpath : path ∈ paths) (hedge : Edge services root text (some path) (some next)) :
    next ∈ paths := by
  induction h with
  | nil => simp at hpath
  | snoc _ hnext ih =>
    rcases List.mem_append.1 hpath with hpath | hpath
    · exact List.mem_append_left _ (ih hpath)
    · obtain rfl := List.mem_singleton.1 hpath
      exact List.mem_append_left _ (hnext next hedge)

/-- From a settled file only settled files can be reached. -/
theorem exists_mem (h : Settled services root text paths) {path : String} (hpath : path ∈ paths)
    {node : Option String} (hreach : ReflTransGen (Edge services root text) (some path) node) :
    ∃ other ∈ paths, node = some other := by
  induction hreach with
  | refl => exact ⟨path, hpath, rfl⟩
  | tail _ hedge ih =>
    obtain ⟨other, hother, rfl⟩ := ih
    obtain ⟨g, next, hgather, rfl⟩ := hedge
    exact ⟨next, h.mem_of_edge hother ⟨g, next, hgather, rfl⟩, rfl⟩

/-- No settled file gathers itself.  The induction is on the order in which files were
settled: a cycle through the last one would lead back to it from an earlier one. -/
theorem not_cycle (h : Settled services root text paths) {path : String} (hpath : path ∈ paths) :
    ¬ TransGen (Edge services root text) (some path) (some path) := by
  induction h generalizing path with
  | nil => simp at hpath
  | @snoc paths last hsettled hnext ih =>
    by_cases hold : path ∈ paths
    · exact ih hold
    · obtain rfl : path = last := by simpa [hold] using hpath
      intro hcycle
      obtain ⟨node, hedge, hback⟩ := TransGen.head'_iff.1 hcycle
      obtain ⟨g, next, hgather, rfl⟩ := hedge
      obtain ⟨other, hother, heq⟩ :=
        hsettled.exists_mem (hnext next ⟨g, next, hgather, rfl⟩) hback
      cases heq
      exact hold hother

/-- Where all files that the first document gathers are settled, no document gathers
itself. -/
theorem acyclic (h : Settled services root text paths)
    (hroot : ∀ next, Edge services root text root (some next) → next ∈ paths) :
    Acyclic services root text := by
  -- What can be reached in at least one step is settled.
  have beyond {node : Option String} (hnode : TransGen (Edge services root text) root node) :
      ∃ path ∈ paths, node = some path := by
    obtain ⟨_, hedge, hreach⟩ := TransGen.head'_iff.1 hnode
    obtain ⟨g, next, hgather, rfl⟩ := hedge
    exact h.exists_mem (hroot next ⟨g, next, hgather, rfl⟩) hreach
  intro node hnode hcycle
  obtain ⟨path, hpath, rfl⟩ := beyond (TransGen.trans_right hnode hcycle)
  exact h.not_cycle hpath hcycle

end Settled

end

end ImportGraph

end Rune
