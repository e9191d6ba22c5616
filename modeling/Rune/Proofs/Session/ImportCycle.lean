import Rune.Proofs.Entries
import Rune.Proofs.Session.Entry
import Rune.Proofs.Session.ImportGraph

/-!
# Rune - files that gather themselves are found

A resolution walks through the import graph with the files being resolved as its route,
and it keeps the configuration of a file only after those of all files that it gathers.
So it succeeds only on graphs without cycles, and what it reports is a cycle.

Main results:

- Definition {lit}`Session.Explores` says what a step of a resolution does to the files that
  are settled, and what it may report.
- Theorem {lit}`Entry.resolve_importCycle`: cycles are found, and nothing else is reported
  as one.
-/

namespace Rune

namespace Session

open ImportGraph

variable {services : Services} {root : Option String} {text : String}

/-! ## Exploring -/

/-- What a step that succeeds leaves behind: the same files are being resolved, and the
files that were settled are still settled, as are those that were found. -/
structure Explored (services : Services) (root : Option String) (text : String)
    (active before : List String) (after : Session) (found : String → Prop) : Prop where
  active_eq : after.active = active
  settled : Settled services root text (Entries.keys after.modules)
  kept : ∀ path ∈ before, path ∈ Entries.keys after.modules
  found : ∀ path, found path → path ∈ Entries.keys after.modules

/-- A step explores the import graph while files are being resolved: if it succeeds,
more files are settled, among them those that it has to find, and a file that gathers
itself is reported as it should. -/
def Explores (services : Services) (root : Option String) (text : String) (active : List String)
    {α : Type} (x : Resolve α) (found : String → Prop) : Prop :=
  ∀ session, session.active = active →
    Settled services root text (Entries.keys session.modules) →
    match x session with
    | .ok _ after => Explored services root text active (Entries.keys session.modules) after found
    | .error failure _ => ∀ diagnostic chain, failure = .importCycle diagnostic chain →
      Reports services root text diagnostic chain

/-- A failure of another kind may always happen. -/
theorem reports_of_not_isImportCycle {failure : Failure} (h : ¬ failure.IsImportCycle)
    (diagnostic : Diagnostic) (chain : List String)
    (heq : failure = .importCycle diagnostic chain) :
    Reports services root text diagnostic chain := by
  subst heq
  exact absurd trivial h

namespace Explores

variable {active : List String} {α β : Type} {found more : String → Prop}

/-- A value without computation finds nothing. -/
theorem pure (a : α) (h : ∀ path, ¬ found path) :
    Explores services root text active (pure a) found :=
  fun _ hactive hsettled =>
    ⟨hactive, hsettled, fun _ h => h, fun path hpath => absurd hpath (h path)⟩

/-- One step after another finds what both of them find. -/
theorem bind {x : Resolve α} {f : α → Resolve β}
    (hx : Explores services root text active x found)
    (hf : ∀ a, Explores services root text active (f a) more) :
    Explores services root text active (x >>= f) fun path => found path ∨ more path := by
  intro session hactive hsettled
  have first := hx session hactive hsettled
  simp only [Bind.bind, EStateM.bind]
  generalize x session = result at first ⊢
  cases result with
  | error failure after => exact first
  | ok a after =>
    have rest := hf a after first.active_eq first.settled
    dsimp only
    generalize f a after = result at rest ⊢
    cases result with
    | error failure last => exact rest
    | ok b last =>
      refine ⟨rest.active_eq, rest.settled,
        fun path hpath => rest.kept path (first.kept path hpath), fun path hpath => ?_⟩
      rcases hpath with hpath | hpath
      · exact rest.kept path (first.found path hpath)
      · exact rest.found path hpath

/-- Less has to be found. -/
theorem mono {x : Resolve α} (h : Explores services root text active x found)
    (hmore : ∀ path, more path → found path) : Explores services root text active x more := by
  intro session hactive hsettled
  have result := h session hactive hsettled
  generalize x session = ended at result ⊢
  cases ended with
  | error failure after => exact result
  | ok a after =>
    exact ⟨result.active_eq, result.settled, result.kept,
      fun path hpath => result.found path (hmore path hpath)⟩

end Explores

/-- Evaluation settles no files. -/
theorem evaluate_explores (active : List String) (scope : Scope) :
    Explores services root text active (evaluate scope) (fun _ => False) := by
  intro session hactive hsettled
  unfold evaluate
  cases scope.evaluate (.fresh session.resources) with
  | ok config memory => exact ⟨hactive, hsettled, fun _ h => h, fun _ h => h.elim⟩
  | error flaw memory => exact reports_of_not_isImportCycle (flaw.failure_not_isImportCycle _)

/-! ## Gathering -/

/-- All gathers of a document explore the graph. -/
theorem gatherAll_explores {active : List String} {resolver : Resolver} {source : Source}
    {directory : String} {gathers : List Gather}
    (hgather : ∀ g ∈ gathers, Explores services root text active
      (gather services resolver source directory g)
      (fun path => FilePath.locate services.standpoint directory g.path = .ok path))
    (aliases : Entries Config) :
    Explores services root text active
      (gatherAll services resolver source directory aliases gathers)
      (fun path => ∃ g ∈ gathers,
        FilePath.locate services.standpoint directory g.path = .ok path) := by
  induction gathers generalizing aliases with
  | nil => exact .pure _ (by simp)
  | cons g gathers ih =>
    have hrest (config : Config) :=
      ih (fun other hother => hgather other (List.mem_cons_of_mem _ hother))
        (Entries.insert (Key.canonical g.aliasName) config aliases)
    refine ((hgather g List.mem_cons_self).bind hrest).mono fun path hpath => ?_
    simpa using hpath

section

-- A document at the end of a route, and files that explore the graph when it leads to them.
variable {rest : List String} {resolver : Resolver} {content directory : String}
  {document : Document} (hroute : Route services root text rest)
  (htext : textAt services root text (here root rest) = some content)
  (hparse : (Source.ofText content (here root rest)).parse = .ok document)
  (hdirectory : directoryOf services (here root rest) = .ok directory)
  (hresolver : ∀ path text', path ∉ root.toList ++ rest → services.files.read path = .ok text' →
    Edge services root text (here root rest) (some path) →
    Explores services root text (root.toList ++ rest) (resolver path text') (· = path))

include hroute htext hparse hdirectory hresolver

/-- A gather explores the graph. -/
theorem gather_explores {g : Gather} (hg : g ∈ document.gathers) :
    Explores services root text (root.toList ++ rest)
      (gather services resolver (.ofText content (here root rest)) directory g)
      (fun path => FilePath.locate services.standpoint directory g.path = .ok path) := by
  have hgather {path : String}
      (hpath : FilePath.locate services.standpoint directory g.path = .ok path) :
      Gathers services root text (here root rest) g path :=
    (gathers_iff htext hparse hdirectory).2 ⟨hg, hpath⟩
  intro session hactive hsettled
  have step := gather_step services resolver (.ofText content (here root rest)) directory g session
  generalize gather services resolver _ directory g session = result at step ⊢
  cases step with
  | nowhere hpath => exact reports_of_not_isImportCycle id
  | @cycle path hpath hmem =>
    rw [hactive] at hmem ⊢
    rintro diagnostic chain ⟨⟩
    exact hroute.reports htext (hgather hpath) hmem _
  | @known path config hpath _ hmodule =>
    refine ⟨hactive, hsettled, fun _ h => h, fun other hother => ?_⟩
    obtain rfl : path = other := by simpa [hpath] using hother
    exact Entries.mem_keys_of_get? hmodule
  | @unreadable path fault hpath _ _ _ =>
    exact reports_of_not_isImportCycle (ReadFault.failure_not_isImportCycle (fun _ => id) fault)
  | @anew path text' hpath hmem _ hread =>
    rw [hactive] at hmem
    have hedge : Edge services root text (here root rest) (some path) :=
      ⟨g, path, hgather hpath, rfl⟩
    have hfound (other : String)
        (hother : FilePath.locate services.standpoint directory g.path = .ok other) :
        other = path := by
      simpa [hpath, eq_comm] using hother
    exact (hresolver path text' hmem hread hedge).mono hfound ((session.noted _).noted _) hactive
      hsettled

/-- Gathering and evaluating explores the graph. -/
theorem contents_explores :
    Explores services root text (root.toList ++ rest)
      (contents services resolver (.ofText content (here root rest)) directory document)
      (fun path => Edge services root text (here root rest) (some path)) := by
  have hgathers := gatherAll_explores (fun g (hg : g ∈ document.gathers) =>
    gather_explores hroute htext hparse hdirectory hresolver hg) []
  refine (hgathers.bind fun aliases => evaluate_explores _ _).mono fun path hedge => .inl ?_
  obtain ⟨g, path', hgather, heq⟩ := hedge
  cases heq
  exact ⟨g, (gathers_iff htext hparse hdirectory).1 hgather⟩

end

/-- Keeping the configuration of a document settles it, if it is a file. -/
theorem Explored.published {node : Option String} {inner before : List String} {after : Session}
    {found : String → Prop} (h : Explored services root text inner before after found)
    (hnode : ∀ next, Edge services root text node (some next) →
      next ∈ Entries.keys after.modules) (session : Session) (config : Config) :
    Explored services root text session.active before ((session.left after).published node config)
      (fun path => node = some path ∨ found path) := by
  cases node with
  | none =>
    refine ⟨rfl, h.settled, h.kept, fun path hpath => ?_⟩
    exact h.found path (hpath.resolve_left nofun)
  | some path =>
    have hmem {other : String} (hother : other = path ∨ other ∈ Entries.keys after.modules) :
        other ∈ Entries.keys ((session.left after).published (some path) config).modules :=
      Entries.mem_keys_insert.2 hother
    refine ⟨rfl, ?_, fun other hother => hmem (.inr (h.kept other hother)), fun other hother => ?_⟩
    · change Settled services root text (Entries.keys (Entries.insert path config after.modules))
      rw [Entries.keys_insert]
      split
      · exact h.settled
      · exact h.settled.snoc hnode
    · rcases hother with heq | hother
      · exact hmem (.inl (Option.some.inj heq).symm)
      · exact hmem (.inr (h.found other hother))

/-- A document at the end of a route settles the files that it gathers, and itself if it
is a file. -/
theorem resolveUsing_explores {rest active : List String} {resolver : Resolver}
    (hroute : Route services root text rest)
    (hactive : active ++ (here root rest).toList = root.toList ++ rest) {content : String}
    (htext : textAt services root text (here root rest) = some content)
    (hresolver : ∀ path text', path ∉ root.toList ++ rest →
      services.files.read path = .ok text' →
      Edge services root text (here root rest) (some path) →
      Explores services root text (root.toList ++ rest) (resolver path text') (· = path)) :
    Explores services root text active (resolveUsing services resolver (here root rest) content)
      (fun path => here root rest = some path ∨
        Edge services root text (here root rest) (some path)) := by
  intro session hsession hsettled
  have hentered : (session.entered (here root rest)).active = root.toList ++ rest := by
    rw [← hactive, ← hsession]
    rfl
  have step := resolve_step services resolver (here root rest) content session
  generalize resolveUsing services resolver (here root rest) content session = result at step ⊢
  cases step with
  | unparsed hparse =>
    exact reports_of_not_isImportCycle (Source.isSyntactic_of_parse hparse).not_isImportCycle
  | homeless _ _ => exact reports_of_not_isImportCycle id
  | stopped hparse hdirectory hrun =>
    have result :=
      contents_explores hroute htext hparse hdirectory hresolver _ hentered hsettled
    rw [hrun] at result
    exact result
  | @resolved document directory config after hparse hdirectory hrun =>
    have result :=
      contents_explores hroute htext hparse hdirectory hresolver _ hentered hsettled
    rw [hrun] at result
    have hnode (next : String) (hedge : Edge services root text (here root rest) (some next)) :=
      result.found next hedge
    have published := result.published hnode session config
    rw [hsession] at published
    exact published

/-- A file that is gathered by others settles itself. -/
theorem resolver_explores {path text' : String} (hnew : path ∉ root.toList)
    (hread : services.files.read path = .ok text')
    (hedge : Edge services root text root (some path)) :
    Explores services root text root.toList
      (resolverWith services services.files.known.length path text') (· = path) := by
  have all := resolver_induction (P := fun rest path text' resolver =>
    Route services root text rest → Edge services root text (here root rest) (some path) →
      Explores services root text (root.toList ++ rest) (resolver path text') (· = path)) ?_
    hnew hread .root hedge
  · simpa using all
  · intro depth rest path text' hnew hread ih hroute hedge
    have hroute' := hroute.snoc hedge hnew
    have hhere : here root (rest ++ [path]) = some path := by simp [here]
    have hactive : root.toList ++ rest ++ (here root (rest ++ [path])).toList =
        root.toList ++ (rest ++ [path]) := by simp [hhere]
    have hne : some path ≠ root := by
      rintro rfl
      simp at hnew
    have htext : textAt services root text (here root (rest ++ [path])) = some text' := by
      simp [hhere, textAt, hne, hread, Except.toOption]
    have explores := resolveUsing_explores hroute' hactive htext fun other text'' hother hread'
      hedge' => ih other text'' hother hread' hroute' hedge'
    rw [hhere] at explores
    exact explores.mono fun other hother => .inl (congrArg some hother.symm)

/-- The first document settles the files that it gathers. -/
theorem resolve_explores (services : Services) (root : Option String) (text : String) :
    Explores services root text [] (resolve services root text)
      (fun path => root = some path ∨ Edge services root text root (some path)) :=
  resolveUsing_explores .root (by simp [here]) (by simp [here, textAt])
    fun path text' hnew hread hedge => by
      simp only [List.append_nil] at hnew ⊢
      exact resolver_explores hnew hread hedge

/-- A document that is resolved leads to no file that gathers itself. -/
theorem acyclic_of_resolve {config : Config} {after : Session}
    (h : resolve services root text fresh = .ok config after) : Acyclic services root text := by
  have explored := resolve_explores services root text fresh rfl .nil
  rw [h] at explored
  exact explored.settled.acyclic fun next hedge => explored.found next (.inr hedge)

end Session

/-! ## Entries -/

namespace Entry

open ImportGraph Session

/-- Resolving an entry explores the import graph from its first document on. -/
theorem resolve_explores (services : Services) (entry : Entry) :
    match entry.resolve services fresh with
    | .ok _ _ => ∃ root text, entry.Starts services root text ∧ Acyclic services root text
    | .error failure _ => ∀ diagnostic chain, failure = .importCycle diagnostic chain →
      ∃ root text, entry.Starts services root text ∧
        Reports services root text diagnostic chain := by
  rcases resolve_cases services entry with
    ⟨root, text, session, hstarts, hactive, hmodules, -, hresolve⟩ |
    ⟨failure, after, hresolve, hother⟩
  · have hsettled : Settled services root text (Entries.keys session.modules) := by
      rw [hmodules]
      exact .nil
    have result := Session.resolve_explores services root text session hactive hsettled
    rw [hresolve]
    simp only [bind, EStateM.bind]
    generalize Session.resolve services root text session = ended at result ⊢
    cases ended with
    | error failure after =>
      intro diagnostic chain heq
      exact ⟨root, text, hstarts, result diagnostic chain heq⟩
    | ok config after =>
      exact ⟨root, text, hstarts,
        result.settled.acyclic fun next hedge => result.found next (.inr hedge)⟩
  · rw [hresolve]
    rintro diagnostic chain rfl
    exact absurd trivial hother

/-- The import cycle that a resolution reports: its diagnostic and its chain. -/
def reported? : EStateM.Result Failure Session Config → Option (Diagnostic × List String)
  | .error (.importCycle diagnostic chain) _ => some (diagnostic, chain)
  | _ => none

theorem reported?_eq_some_iff {result : EStateM.Result Failure Session Config}
    {diagnostic : Diagnostic} {chain : List String} :
    reported? result = some (diagnostic, chain) ↔
      ∃ after, result = .error (.importCycle diagnostic chain) after := by
  constructor
  · intro h
    unfold reported? at h
    split at h
    · rename_i after
      cases h
      exact ⟨after, rfl⟩
    · cases h
  · rintro ⟨after, rfl⟩
    rfl

/-- Import cycles are detected exactly.  A resolution that succeeds has an import graph
without cycles; a reported cycle is one of the graph, found at the gather that closes
it; hence none is reported where there is none. -/
theorem resolve_importCycle (services : Services) (entry : Entry) :
    (∀ config after, entry.resolve services fresh = .ok config after →
      ∃ root text, entry.Starts services root text ∧ Acyclic services root text) ∧
    (∀ diagnostic chain after,
      entry.resolve services fresh = .error (.importCycle diagnostic chain) after →
      ∃ root text, entry.Starts services root text ∧
        Reports services root text diagnostic chain) ∧
    ∀ root text, entry.Starts services root text → Acyclic services root text →
      ∀ diagnostic chain after,
        entry.resolve services fresh ≠ .error (.importCycle diagnostic chain) after := by
  have explored := resolve_explores services entry
  refine ⟨fun config after h => ?_, fun diagnostic chain after h => ?_,
    fun root text hstarts hacyclic diagnostic chain after h => ?_⟩
  · rw [h] at explored
    exact explored
  · rw [h] at explored
    exact explored diagnostic chain rfl
  · rw [h] at explored
    obtain ⟨root', text', hstarts', hreports⟩ := explored diagnostic chain rfl
    obtain ⟨rfl, rfl⟩ := hstarts.unique hstarts'
    exact hreports.not_acyclic hacyclic

/-- A text that gathers a file without gathers, and one that leads to two files which
gather each other. -/
theorem resolve_importCycle_below :
    let services := Services.ofStore [
      ("/a", "gather \"b\"\n"), ("/b", "gather \"./a\"\n"), ("/c", "x 1\n")]
    (∃ root text, (Entry.text none "gather \"c\"\n").Starts services root text ∧
      Acyclic services root text ∧ ∀ diagnostic chain after,
        (Entry.text none "gather \"c\"\n").resolve services fresh ≠
          .error (.importCycle diagnostic chain) after) ∧
    ∃ root text diagnostic, (Entry.text none "gather \"a\"\n").Starts services root text ∧
      Reports services root text diagnostic ["/a", "/b", "/a"] := by
  intro services
  constructor
  · have hrun : (success? ((Entry.text none "gather \"c\"\n").resolve services fresh)).isSome := by
      decide +kernel
    obtain ⟨⟨config, after⟩, h⟩ := Option.isSome_iff_exists.1 hrun
    rw [success?_eq_some_iff] at h
    obtain ⟨acyclic, -, noReport⟩ := resolve_importCycle services (.text none "gather \"c\"\n")
    obtain ⟨root, text, hstarts, hacyclic⟩ := acyclic config after h
    exact ⟨root, text, hstarts, hacyclic, noReport root text hstarts hacyclic⟩
  · have hrun : (reported? ((Entry.text none "gather \"a\"\n").resolve services fresh)).map (·.2) =
        some ["/a", "/b", "/a"] := by
      decide +kernel
    obtain ⟨⟨diagnostic, chain⟩, h, hchain⟩ := Option.map_eq_some_iff.1 hrun
    obtain ⟨after, h⟩ := reported?_eq_some_iff.1 h
    obtain ⟨-, reports, -⟩ := resolve_importCycle services (.text none "gather \"a\"\n")
    obtain ⟨root, text, hstarts, hreports⟩ := reports diagnostic chain after h
    exact ⟨root, text, diagnostic, hstarts, hchain ▸ hreports⟩

end Entry

end Rune
