import Rune.Proofs.File.Detours
import Rune.Proofs.Session.Once
import Rune.Proofs.Session.Survival
import Mathlib.Data.List.Chain

/-!
# Rune - one module for all spellings of a path

A document that is being resolved inside another one is the file that the other one gathers
next, under its canonical path.  So whatever configuration is handed on was put into the
table of modules under that path before, or was found there, and it stays there to the end.
Two gathers whose paths lead to one file, in whatever spellings and from whatever
directories, are handed one and the same configuration, and the file is asked for once.

Main results:

- Structure {lit}`Traversal.Linked` is the invariant of the steps, with the theorem
  {lit}`Traversal.Linked.step` that every step keeps it.
- Definition {lit}`Entry.Hands` says which configurations are handed to which gathers.
  Theorem {lit}`Entry.Hands.stands` says where they stand in the end, and
  {lit}`Entry.Begins.handed_again` that later gathers are handed them too.
- Theorem {lit}`Entry.resolve_samePath`: spellings of one path lead to one file, share one
  configuration in a resolution, and find one text in a store.
-/

namespace Rune

/-- The gather at hand of a document leads to a file. -/
def Visit.AtHand (services : Services) (visit : Visit) (path : String) : Prop :=
  ∃ g gathers, visit.rest = g :: gathers ∧
    FilePath.locate services.standpoint visit.directory g.path = .ok path

namespace Traversal

open Session

variable {services : Services} {root : Option String} {t next : Traversal}

/-! ## Documents within documents -/

/-- A document is the file that the document around it gathers. -/
def Serves (services : Services) (inner outer : Visit) : Prop :=
  ∃ path, inner.path = some path ∧ outer.AtHand services path

/-- Every document is the file that the one around it gathers, also while it is entered, and a
configuration that is given to a document stands under the path of the file that the document
gathers.  That file is not the first document. -/
structure Linked (services : Services) (root : Option String) (t : Traversal) : Prop where
  chain : t.visits.IsChain (Serves services)
  enters : ∀ path text visit visits, t.turn = .enter path text → t.visits = visit :: visits →
    ∃ file, path = some file ∧ visit.AtHand services file
  gives : ∀ config visit visits, t.turn = .give config → t.visits = visit :: visits →
    ∃ path, visit.AtHand services path ∧ root ≠ some path ∧
      Entries.get? path t.session.modules = some config

namespace Linked

variable {visit : Visit} {visits : List Visit} {session : Session}

/-- While neither a document is entered nor a configuration given, only the documents count. -/
theorem of_chain {turn : Turn} (hchain : visits.IsChain (Serves services))
    (henter : ∀ path text, turn ≠ .enter path text) (hgive : ∀ config, turn ≠ .give config) :
    Linked services root ⟨turn, visits, session⟩ :=
  ⟨hchain, fun path text _ _ hturn => absurd hturn (henter path text),
    fun config _ _ hturn => absurd hturn (hgive config)⟩

/-- The state before the first document. -/
theorem start (text : String) (session : Session) :
    Linked services root ⟨.enter root text, [], session⟩ :=
  ⟨.nil, by simp, by simp⟩

/-- Entering a document puts it inside the one that gathers it. -/
theorem enter {path : Option String} {text : String}
    (h : Linked services root ⟨.enter path text, visits, session⟩) :
    Linked services root (Traversal.enter services path text visits session) := by
  unfold Traversal.enter
  dsimp only
  split
  · exact of_chain h.chain (by simp) (by simp)
  · split
    · exact of_chain h.chain (by simp) (by simp)
    · refine of_chain ?_ (by simp) (by simp)
      cases visits with
      | nil => exact .singleton _
      | cons outer visits =>
        obtain ⟨file, hfile, hhand⟩ := h.enters path text outer visits rfl rfl
        exact .cons_cons ⟨file, hfile, hhand⟩ h.chain

/-- What a gather finds or enters is the file at hand. -/
theorem gatherNext {g : Gather} {gathers : List Gather} (hrest : visit.rest = g :: gathers)
    (hchain : (visit :: visits).IsChain (Serves services))
    (hroot : ∀ path, root = some path → path ∈ session.active) :
    Linked services root (Traversal.gatherNext services g visit visits session) := by
  unfold Traversal.gatherNext
  dsimp only
  split
  · exact of_chain hchain (by simp) (by simp)
  · rename_i path hpath
    have hhand : visit.AtHand services path := ⟨g, gathers, hrest, hpath⟩
    split
    · exact of_chain hchain (by simp) (by simp)
    · rename_i hnew
      split
      · rename_i config hmodule
        refine ⟨hchain, by simp, ?_⟩
        rintro _ _ _ ⟨⟩ ⟨⟩
        exact ⟨path, hhand, fun heq => hnew (hroot path heq), hmodule⟩
      · split
        · exact of_chain hchain (by simp) (by simp)
        · refine ⟨hchain, ?_, by simp⟩
          rintro _ _ _ _ ⟨⟩ ⟨⟩
          exact ⟨path, rfl, hhand⟩

/-- A document that is left with a configuration is the file at hand of the one around it. -/
theorem evaluateNext (hchain : (visit :: visits).IsChain (Serves services))
    (hnested : Nested services root (visit :: visits) session.active) :
    Linked services root (Traversal.evaluateNext services visit visits session) := by
  unfold Traversal.evaluateNext
  split
  · rename_i config after _
    refine ⟨hchain.tail, by simp, ?_⟩
    rintro _ outer visits ⟨⟩ rfl
    obtain ⟨path, hpath, hhand⟩ := (List.isChain_cons_cons.mp hchain).1
    refine ⟨path, hhand, fun hroot => ?_, ?_⟩
    · exact absurd (hnested.visits_eq_nil hpath hroot) (List.cons_ne_nil _ _)
    · simp only [published, noted, hpath]
      exact Entries.get?_insert_self _ _ _
  · exact of_chain hchain (by simp) (by simp)

/-- Every step keeps the invariant. -/
theorem step (h : Linked services root t) (horderly : Orderly services root t)
    (hstep : Traversal.step services t = some next) : Linked services root next := by
  obtain ⟨turn, visits, session⟩ := t
  cases turn with
  | enter path text =>
    cases hstep
    exact h.enter
  | work =>
    cases visits with
    | nil => cases hstep
    | cons visit visits =>
      simp only [Traversal.step] at hstep
      split at hstep <;> cases hstep
      · exact evaluateNext h.chain horderly.nested
      · rename_i g gathers hrest
        refine gatherNext hrest h.chain fun path hroot => ?_
        obtain ⟨rest, hactive, -⟩ := horderly.nested.exists_distinct
        dsimp only at hactive
        rw [hactive, hroot]
        simp
  | give config =>
    cases visits with
    | nil => cases hstep
    | cons visit visits =>
      cases hstep
      refine of_chain ?_ (by simp) (by simp)
      cases visits with
      | nil => exact .singleton _
      | cons outer visits =>
        obtain ⟨⟨path, hserves, hhand⟩, hchain⟩ := List.isChain_cons_cons.mp h.chain
        exact .cons_cons ⟨path, (visit.bind_path config).trans hserves, hhand⟩ hchain
  | fail failure =>
    cases visits with
    | nil => cases hstep
    | cons visit visits =>
      cases hstep
      exact of_chain h.chain.tail (by simp) (by simp)

/-- Any number of steps keeps the invariant. -/
theorem leads (h : Linked services root t) (horderly : Orderly services root t)
    (hleads : Leads services t next) : Linked services root next := by
  induction hleads with
  | refl => exact h
  | tail hleads hstep ih => exact ih.step (horderly.leads hleads) hstep

end Linked

/-! ## Files that were asked for -/

/-- Every file that is present was asked for, apart from that of the first document. -/
def Recorded (root : Option String) (t : Traversal) : Prop :=
  ∀ path ∈ t.present, root ≠ some path → path ∈ t.session.resources.asked

/-- A step that asks for no file makes none present. -/
theorem Recorded.of_subset (h : Recorded root t) (hpresent : next.present ⊆ t.present)
    (hasked : next.session.resources.asked = t.session.resources.asked) : Recorded root next :=
  fun path hpath hroot => hasked ▸ h path (hpresent hpath) hroot

/-- Every step keeps the invariant. -/
theorem Recorded.step (h : Recorded root t) (horderly : Orderly services root t)
    (hmoves : Moves services t next) : Recorded root next := by
  cases hmoves with
  | refused => exact h.of_subset (by simp [present]) rfl
  | strayed | given => exact h.of_subset (List.Subset.refl _) rfl
  | entered =>
    refine h.of_subset (fun other hother => ?_) rfl
    simp only [present, entered, List.append_nil, List.mem_append] at hother ⊢
    exact or_right_comm.mp hother
  | reused => exact h.of_subset (List.Subset.refl _) (Resources.asked_note_of_none rfl _)
  | flawed hconsulted => exact h.of_subset (List.Subset.refl _) hconsulted.asked_eq
  | left =>
    refine h.of_subset (fun other hother => ?_) rfl
    have hnested := horderly.nested.active_eq
    dsimp only at hnested
    simp only [present, popped, List.append_nil, List.mem_append] at hother ⊢
    rw [hnested, List.mem_append]
    exact hother.imp_left .inl
  | unreadable =>
    intro other hother hroot
    rw [noted, Resources.asked_note]
    exact List.mem_append_left _ (h other hother hroot)
  | @read visit visits session path text aliasName =>
    intro other hother hroot
    rw [noted, noted, Resources.asked_note_of_none rfl, Resources.asked_note]
    obtain hpresent | hpath := List.mem_append.mp hother
    · exact List.mem_append_left _ (h other (List.mem_append_left _ hpresent) hroot)
    · exact List.mem_append_right _ hpath
  | @evaluated visit visits session resources config hrest hevaluate hconsulted =>
    refine h.of_subset ?_ ((Resources.asked_note_of_none rfl resources).trans hconsulted.asked_eq)
    intro other hother
    -- The document that is left was being resolved.
    have hnested := horderly.nested.active_eq
    dsimp only at hnested
    simp only [present, List.append_nil, List.mem_append, mem_keys_published] at hother ⊢
    rw [hnested, List.mem_append]
    exact or_assoc.mpr hother

/-- Any number of steps keeps the invariant. -/
theorem Recorded.leads (h : Recorded root t) (horderly : Orderly services root t)
    (hleads : Leads services t next) : Recorded root next := by
  induction hleads with
  | refl => exact h
  | tail hleads hstep ih => exact ih.step (horderly.leads hleads) (moves_of_step hstep)

/-! ## Configurations that are handed on -/

/-- The directory of the innermost document and the path that it gathers, with the configuration
that is handed to it. -/
def handed? : Traversal → Option (String × String × Config)
  | ⟨.give config, visit :: _, _⟩ =>
    visit.rest.head?.map fun g => (visit.directory, g.path, config)
  | _ => none

/-- The directory of the innermost document and the path that it gathers next. -/
def gathering? : Traversal → Option (String × String)
  | ⟨.work, visit :: _, _⟩ => visit.rest.head?.map fun g => (visit.directory, g.path)
  | _ => none

/-- What is handed to a document stands under the file that the document gathers, and the file
was asked for. -/
theorem exists_of_handed? (hlinked : Linked services root t) (hrecorded : Recorded root t)
    {directory path : String} {config : Config} (h : t.handed? = some (directory, path, config)) :
    ∃ located, FilePath.locate services.standpoint directory path = .ok located ∧
      root ≠ some located ∧ Entries.get? located t.session.modules = some config ∧
      located ∈ t.session.resources.asked := by
  unfold handed? at h
  split at h
  case h_2 => cases h
  case h_1 given visit visits session =>
    obtain ⟨located, ⟨g, gathers, hrest, hlocated⟩, hroot, hget⟩ := hlinked.gives _ _ _ rfl rfl
    rw [hrest] at h
    cases h
    refine ⟨located, hlocated, hroot, hget, hrecorded located ?_ hroot⟩
    exact List.mem_append_left _ (List.mem_append_right _ (Entries.mem_keys_of_get? hget))

/-- A document that gathers a file which is known, and is not the first document, is handed its
configuration. -/
theorem exists_handed? (hunfinished : Unfinished services root t) {directory path located : String}
    (hgathering : t.gathering? = some (directory, path))
    (hlocated : FilePath.locate services.standpoint directory path = .ok located)
    (hroot : root ≠ some located) {config : Config}
    (hget : Entries.get? located t.session.modules = some config) :
    ∃ next, Traversal.step services t = some next ∧
      next.handed? = some (directory, path, config) := by
  have hnew : located ∉ t.session.active := by
    intro hactive
    rw [hunfinished.active located hactive hroot] at hget
    cases hget
  unfold gathering? at hgathering
  split at hgathering
  case h_2 => cases hgathering
  case h_1 visit visits session =>
    obtain ⟨g, hhead, heq⟩ := Option.map_eq_some_iff.mp hgathering
    cases heq
    obtain ⟨gathers, hrest⟩ := List.head?_eq_some_iff.mp hhead
    refine ⟨⟨.give config, visit :: visits, session.noted (.reused located g.aliasName)⟩, ?_, ?_⟩
    · dsimp only at hnew hget
      simp [Traversal.step, hrest, Traversal.gatherNext, hlocated, hnew, hget]
    · simp [handed?, hrest]

end Traversal

/-! ## Resolutions -/

namespace Entry

open Session

variable {services : Services} {entry : Entry}

/-- In a resolution a configuration is handed to a document that gathers a path from a
directory. -/
def Hands (services : Services) (entry : Entry) (directory path : String) (config : Config) :
    Prop :=
  ∃ first t, entry.Begins services first ∧ Traversal.Leads services first t ∧
    t.handed? = some (directory, path, config)

/-- The steps from the first document keep the invariants, and they come to an end which tells what
is known after the resolution and which files it asked for. -/
theorem Begins.exists_last {first : Traversal} (h : entry.Begins services first) :
    ∃ root last, Traversal.Unfinished services root first ∧
      Traversal.Linked services root first ∧ Traversal.Recorded root first ∧
      Traversal.Leads services first last ∧ Traversal.step services last = none ∧
      let after := Traversal.sessionOf (entry.resolve services fresh)
      after.modules = last.session.modules ∧
        after.resources.asked = last.session.resources.asked := by
  have hmodules : first.session.modules = [] := by cases h <;> rfl
  obtain ⟨root, text, session, rfl, hactive, hresolve⟩ := h.exists_resolve
  dsimp only at hmodules
  refine ⟨root, _, .start text hactive, .start text session, fun path hpath hroot => ?_,
    Traversal.resolve_leads root text session hactive, Traversal.step_answered _, ?_⟩
  · -- Nothing is present but the first document.
    simp only [Traversal.present, hactive, hmodules, Entries.keys] at hpath
    exact absurd (Option.mem_toList.mp hpath) hroot
  · rw [hresolve]
    simp only [bind, EStateM.bind]
    generalize Session.resolve services root text session = result
    cases result with
    | ok config after => exact ⟨rfl, Resources.asked_note_of_none rfl _⟩
    | error failure after => exact ⟨rfl, rfl⟩

/-- A configuration that was handed on is known under the file of the gather, the file was asked
for, and it is not the first document. -/
theorem Begins.known_of_handed? {first t : Traversal} (hfirst : entry.Begins services first)
    (hleads : Traversal.Leads services first t) {directory path : String} {config : Config}
    (hhanded : t.handed? = some (directory, path, config)) :
    ∃ root located, Traversal.Unfinished services root t ∧
      FilePath.locate services.standpoint directory path = .ok located ∧ root ≠ some located ∧
      Entries.get? located t.session.modules = some config ∧
      located ∈ t.session.resources.asked := by
  obtain ⟨root, _, hunfinished, hlinked, hrecorded, -⟩ := hfirst.exists_last
  have horderly := hunfinished.orderly
  obtain ⟨located, hlocated, hroot, hget, hasked⟩ := Traversal.exists_of_handed?
    (hlinked.leads horderly hleads) (hrecorded.leads horderly hleads) hhanded
  exact ⟨root, located, hunfinished.leads hleads, hlocated, hroot, hget, hasked⟩

/-- A configuration that was handed on stands under the file of the gather in the end, and that
file was asked for once. -/
theorem Hands.stands {directory path : String} {config : Config}
    (h : entry.Hands services directory path config) :
    let after := Traversal.sessionOf (entry.resolve services fresh)
    ∃ located, FilePath.locate services.standpoint directory path = .ok located ∧
      Entries.get? located after.modules = some config ∧
      after.resources.asked.count located = 1 := by
  intro after
  obtain ⟨first, t, hfirst, hleads, hhanded⟩ := h
  obtain ⟨_, last, -, -, -, hlast, hend, hmodules, hasked⟩ := hfirst.exists_last
  obtain ⟨root, located, hunfinished, hlocated, hroot, hget, hmem⟩ :=
    hfirst.known_of_handed? hleads hhanded
  have hrest : Traversal.Leads services t last := hlast.on hend hleads
  refine ⟨located, hlocated, ?_, ?_⟩
  · rw [hmodules]
    exact hunfinished.get?_of_leads hrest hroot hget
  · refine List.count_eq_one_of_mem (resolve_ledger services entry).2 ?_
    exact hasked ▸ hrest.proceeded.asked_subset hmem

/-- A later gather that leads to the same file is handed the same configuration at once. -/
theorem Begins.handed_again {first t t' : Traversal} (hfirst : entry.Begins services first)
    (hleads : Traversal.Leads services first t) {directory path : String} {config : Config}
    (hhanded : t.handed? = some (directory, path, config))
    (hlater : Traversal.Leads services t t') {directory' path' : String}
    (hgathering : t'.gathering? = some (directory', path'))
    (hsame : FilePath.locate services.standpoint directory path =
      FilePath.locate services.standpoint directory' path') :
    ∃ next, Traversal.step services t' = some next ∧
      next.handed? = some (directory', path', config) := by
  obtain ⟨root, located, hunfinished, hlocated, hroot, hget, -⟩ :=
    hfirst.known_of_handed? hleads hhanded
  exact Traversal.exists_handed? (hunfinished.leads hlater) hgathering (hsame ▸ hlocated) hroot
    (hunfinished.get?_of_leads hlater hroot hget)

/-- Paths lead to files, whatever they are spelled like and wherever they are looked at from.  A
path is refused exactly for a NUL in it, or in the base that it is relative to.  Every other path
is located: the file stands at the end of proper segments from the root on, and its own path leads
to it from everywhere.  Spellings of one path lead to one file.  In a resolution all gathers that
lead to one file are handed one and the same configuration, the later ones at once; it stands under
the file in the end, and the file was asked for once.  A store finds a text under every spelling of
its path, unless a later text was put there. -/
theorem resolve_samePath (services : Services) (entry : Entry) :
    (∀ (standpoint : FilePath.Standpoint) (base path : String),
      FilePath.locate standpoint base path = .error .nullInPath ↔ '\x00' ∈ path.toList ∨
        '\x00' ∈ base.toList ∧
          (FilePath.expandHome standpoint path.toList).head? ≠ some '/') ∧
      (∀ (standpoint : FilePath.Standpoint) (base path : String),
        FilePath.locate standpoint base path ≠ .error .nullInPath →
        ∃ located segments, FilePath.locate standpoint base path = .ok located ∧
          located.toList = FilePath.rooted segments ∧
          (∀ segment ∈ segments, FilePath.Proper segment) ∧
          ∀ standpoint' base', FilePath.locate standpoint' base' located = .ok located) ∧
      (∀ path path', FilePath.SamePath path path' → ∀ standpoint base,
        FilePath.locate standpoint base path = FilePath.locate standpoint base path') ∧
      (∀ directory directory' path path' config config',
        entry.Hands services directory path config →
        entry.Hands services directory' path' config' →
        FilePath.locate services.standpoint directory path =
          FilePath.locate services.standpoint directory' path' →
        let after := Traversal.sessionOf (entry.resolve services fresh)
        config = config' ∧
          ∃ located, FilePath.locate services.standpoint directory path = .ok located ∧
            Entries.get? located after.modules = some config ∧
            after.resources.asked.count located = 1) ∧
      (∀ first t t' directory directory' path path' config, entry.Begins services first →
        Traversal.Leads services first t → t.handed? = some (directory, path, config) →
        Traversal.Leads services t t' → t'.gathering? = some (directory', path') →
        FilePath.locate services.standpoint directory path =
          FilePath.locate services.standpoint directory' path' →
        ∃ next, Traversal.step services t' = some next ∧
          next.handed? = some (directory', path', config)) ∧
      ∀ (standpoint : FilePath.Standpoint) (texts : List (String × String)),
        (∀ given ∈ texts, '\x00' ∉ given.1.toList) →
        ∃ store, TextStore.ofList standpoint texts = .ok store ∧
          ∀ earlier path text later, texts = earlier ++ (path, text) :: later →
            (∀ other ∈ later, FilePath.locateHere standpoint other.1 ≠
              FilePath.locateHere standpoint path) →
            ∀ spelling, FilePath.SamePath path spelling →
              TextStore.load standpoint store spelling = .ok text := by
  refine ⟨fun standpoint base path => FilePath.locate_eq_error_iff,
    fun standpoint base path hnul => ?_, fun path path' h => h.locate_eq, ?_, ?_, ?_⟩
  · obtain ⟨located, segments, hlocated, hsegments, hproper⟩ := FilePath.exists_locate hnul
    exact ⟨located, segments, hlocated, hsegments, hproper,
      FilePath.isCanonical_of_locate hlocated⟩
  · intro directory directory' path path' config config' hhands hhands' hsame after
    obtain ⟨located, hlocated, hget, hcount⟩ := hhands.stands
    obtain ⟨located', hlocated', hget', -⟩ := hhands'.stands
    obtain rfl : located = located' := by
      rw [hlocated, hlocated', Except.ok.injEq] at hsame
      exact hsame
    rw [hget, Option.some.injEq] at hget'
    exact ⟨hget', located, hlocated, hget, hcount⟩
  · intro first t t' directory directory' path path' config hfirst hleads hhanded hlater
    exact hfirst.handed_again hleads hhanded hlater
  · intro standpoint texts htexts
    obtain ⟨store, hstore⟩ := TextStore.exists_ofList fun given hgiven =>
      FilePath.exists_locateHere standpoint (htexts given hgiven)
    refine ⟨store, hstore, ?_⟩
    rintro earlier path text later rfl hlast spelling hspelling
    exact TextStore.load_ofList hstore hlast (hspelling.locate_eq standpoint _).symm

/-- A document that gathers one file in two spellings, and a store in which the file is found
under both. -/
theorem resolve_samePath_twice :
    let services := Services.ofStore [("/a/m", "x 1\n")]
    let entry := Entry.text none "gather \"a/m\"\ngather \"a/s/../m\" as n\n"
    let after := Traversal.sessionOf (entry.resolve services fresh)
    let standpoint := services.standpoint
    FilePath.SamePath "a/m" "a/s/../m" ∧
      FilePath.locate standpoint "/" "a\x00b" = .error .nullInPath ∧
      (∃ located, FilePath.locate standpoint "/" "a/s/../m" = .ok located ∧
        ∀ standpoint' base', FilePath.locate standpoint' base' located = .ok located) ∧
      (∃ config located, entry.Hands services "/" "a/m" config ∧
        entry.Hands services "/" "a/s/../m" config ∧ after.resources.asked.count located = 1) ∧
      ∃ store, TextStore.ofList standpoint [("a/m", "x 1\n")] = .ok store ∧
        TextStore.load standpoint store "a/s/../m" = .ok "x 1\n" := by
  intro services entry after standpoint
  obtain ⟨hrefuses, hlocates, hsame, hshares, hagain, hloads⟩ := resolve_samePath services entry
  have hspelling : FilePath.SamePath "a/m" "a/s/../m" := by
    have hdetour := @FilePath.Detour.parent "a" "m" "s" ⟨by decide, by decide, by decide, by decide⟩
      (by decide)
    have hlong : "a" ++ "/" ++ "s" ++ "/../" ++ "m" = "a/s/../m" := by decide +kernel
    have hshort : "a" ++ "/" ++ "m" = "a/m" := by decide +kernel
    exact .symm _ _ (.rel _ _ (hshort ▸ hlong ▸ hdetour))
  -- The module is handed on after the fourth step, and in the next one the document goes on.
  let first : Traversal := ⟨.enter none "gather \"a/m\"\ngather \"a/s/../m\" as n\n", [], fresh⟩
  have hrun : ((Traversal.after services 4 first).bind fun t =>
      (Traversal.after services 1 t).bind fun t' => t.handed?.bind fun handed =>
        t'.gathering?.map fun gathering => (handed.1, handed.2.1, gathering)) =
      some ("/", "a/m", "/", "a/s/../m") := by
    decide +kernel
  obtain ⟨t, ht, hrun⟩ := Option.bind_eq_some_iff.mp hrun
  obtain ⟨t', ht', hrun⟩ := Option.bind_eq_some_iff.mp hrun
  obtain ⟨⟨directory, path, config⟩, hhanded, hrun⟩ := Option.bind_eq_some_iff.mp hrun
  obtain ⟨gathering, hgathering, heq⟩ := Option.map_eq_some_iff.mp hrun
  cases heq
  have hleads := Traversal.leads_of_after ht
  have hlater := Traversal.leads_of_after ht'
  obtain ⟨next, hnext, hhanded'⟩ := hagain first t t' _ _ _ _ config .text hleads hhanded hlater
    hgathering (hsame _ _ hspelling _ _)
  have hfirst : entry.Hands services "/" "a/m" config := ⟨first, t, .text, hleads, hhanded⟩
  have hsecond : entry.Hands services "/" "a/s/../m" config :=
    ⟨first, next, .text, (hleads.trans hlater).tail hnext, hhanded'⟩
  obtain ⟨-, module, -, -, hcount⟩ := hshares _ _ _ _ _ _ hfirst hsecond (hsame _ _ hspelling _ _)
  obtain ⟨located, _, hlocated, -, -, hcanonical⟩ :=
    hlocates standpoint "/" "a/s/../m" (by rw [ne_eq, hrefuses]; decide)
  obtain ⟨store, hstore, hload⟩ := hloads standpoint [("a/m", "x 1\n")] (by simp)
  have hnul : FilePath.locate standpoint "/" "a\x00b" = .error .nullInPath :=
    (hrefuses _ _ _).mpr (.inl (by decide))
  exact ⟨hspelling, hnul, ⟨located, hlocated, hcanonical⟩,
    ⟨config, module, hfirst, hsecond, hcount⟩, store, hstore,
    hload [] "a/m" "x 1\n" [] rfl (by simp) _ hspelling⟩

end Entry

end Rune
