import Rune.Proofs.Session.Moves

/-!
# Rune - what a resolution does once

A file is asked for if it is neither being resolved nor known.  Asking for it makes it one of the
two, unless the resolution fails, which is the end of asking.  So one resolution asks for no file
twice, whatever files gather each other; and because all documents share the resources, it asks
for no fact and reads no pattern twice either.

Main results:

- Structure {lit}`Traversal.Asking` is the invariant of the steps, with the theorem
  {lit}`Traversal.Asking.step` that every step keeps it.
- Definition {lit}`Entry.Issues` says which raw strings are evaluated in a resolution.
- Theorem {lit}`Entry.resolve_once`: what a resolution asks for, reads and evaluates.
-/

namespace Rune

/-- The files that were asked for, in their order. -/
def Resources.asked (resources : Resources) : List String :=
  resources.history.filterMap Event.path?

namespace Resources

theorem asked_note (event : Event) (resources : Resources) :
    (resources.note event).asked = resources.asked ++ event.path?.toList :=
  filterMap_history_note Event.path? event resources

/-- Other events ask for no file. -/
theorem asked_note_of_none {event : Event} (h : event.path? = none) (resources : Resources) :
    (resources.note event).asked = resources.asked := by
  rw [asked_note, h]
  exact List.append_nil _

/-- An evaluation asks for no file. -/
theorem Consulted.asked_eq {system : String → Option String} {before after : Resources}
    (h : Consulted system before after) : after.asked = before.asked := by
  simp only [asked, history, List.filterMap_reverse, h.paths_eq]

/-- A file that was asked for before was asked for afterwards. -/
theorem Proceeded.asked_subset {system : String → Option String} {before after : Resources}
    (h : Proceeded system before after) : before.asked ⊆ after.asked := by
  induction h with
  | refl => exact List.Subset.refl _
  | tail _ hstep ih =>
    cases hstep with
    | consults hconsults => exact (Consulted.asked_eq (.single hconsults)) ▸ ih
    | notes =>
      rw [asked_note]
      exact List.subset_append_of_subset_left _ ih

end Resources

namespace Traversal

open Session

variable {services : Services} {root : Option String} {t next : Traversal}

/-! ## Files -/

/-- The files that are being resolved, are known or are entered next. -/
def present (t : Traversal) : List String :=
  t.session.active ++ Entries.keys t.session.modules ++
    match t.turn with
    | .enter path _ => path.toList
    | _ => []

/-- No file was asked for twice, and unless the resolution has failed, every file that was asked
for is present. -/
structure Asking (t : Traversal) : Prop where
  nodup : t.session.resources.asked.Nodup
  accounted : (∀ failure, t.turn ≠ .fail failure) → t.session.resources.asked ⊆ t.present

namespace Asking

variable {visits : List Visit} {session : Session} {path : String}

/-- A failure with no file asked for twice. -/
theorem of_fail {failure : Failure} (hnodup : session.resources.asked.Nodup) :
    Asking ⟨.fail failure, visits, session⟩ :=
  ⟨hnodup, fun hturn => absurd rfl (hturn failure)⟩

/-- A file that is neither being resolved nor known was not asked for. -/
theorem nodup_snoc (h : Asking ⟨.work, visits, session⟩) (hnew : path ∉ session.active)
    (hmodule : Entries.get? path session.modules = none) :
    (session.resources.asked ++ [path]).Nodup := by
  rw [← List.concat_eq_append]
  refine List.Nodup.concat (fun hmem => ?_) h.nodup
  have hpresent := h.accounted (by simp) hmem
  simp only [present, List.append_nil, List.mem_append] at hpresent
  exact hpresent.elim hnew (Entries.get?_eq_none_iff.mp hmodule)

/-- Every step keeps the invariant. -/
theorem step (h : Asking t) (horderly : Orderly services root t)
    (hmoves : Moves services t next) : Asking next := by
  cases hmoves with
  | refused | strayed | left => exact of_fail h.nodup
  | @entered path text visits session visit hpath =>
    refine ⟨h.nodup, fun _ other hother => ?_⟩
    have hpresent := h.accounted (by simp) hother
    simp only [present, entered, List.append_nil, List.mem_append] at hpresent ⊢
    exact or_right_comm.mp hpresent
  | @reused visit visits session path aliasName config hmodule =>
    have hasked := @Resources.asked_note_of_none (.reused path aliasName) rfl session.resources
    exact ⟨hasked ▸ h.nodup, fun _ => hasked ▸ h.accounted (by simp)⟩
  | @unreadable visit visits session path failure hnew hmodule =>
    have hasked := Resources.asked_note (.fileAsked path) session.resources
    exact of_fail (hasked ▸ h.nodup_snoc hnew hmodule)
  | @read visit visits session path text aliasName hnew hmodule hread =>
    have hasked : ((session.resources.note (.fileAsked path)).note
        (.loaded path text.length aliasName)).asked = session.resources.asked ++ [path] :=
      (Resources.asked_note_of_none rfl _).trans (Resources.asked_note _ _)
    refine ⟨hasked ▸ h.nodup_snoc hnew hmodule, fun _ => hasked ▸ ?_⟩
    have hpresent := h.accounted (by simp)
    simp only [present, List.append_nil] at hpresent ⊢
    exact List.append_subset.mpr
      ⟨List.subset_append_of_subset_left _ hpresent, List.subset_append_right _ _⟩
  | @evaluated visit visits session resources config hrest hevaluate hconsulted =>
    have hasked := (@Resources.asked_note_of_none (.resolved visit.path config.globals.length
      config.items.length config.metadata.length) rfl resources).trans hconsulted.asked_eq
    refine ⟨hasked ▸ h.nodup, fun _ => hasked ▸ fun other hother => ?_⟩
    -- The document that is left is known from now on.
    have hpresent := h.accounted (by simp) hother
    have hnested := horderly.nested.active_eq
    dsimp only at hnested
    simp only [present, List.append_nil, List.mem_append] at hpresent ⊢
    rw [hnested, List.mem_append] at hpresent
    rw [mem_keys_published]
    exact or_assoc.mp hpresent
  | flawed hconsulted => exact of_fail (hconsulted.asked_eq ▸ h.nodup)
  | given => exact ⟨h.nodup, fun _ => h.accounted (by simp)⟩

/-- Any number of steps keeps the invariant. -/
theorem leads (h : Asking t) (horderly : Orderly services root t)
    (hleads : Leads services t next) : Asking next := by
  induction hleads with
  | refl => exact h
  | tail hleads hstep ih => exact ih.step (horderly.leads hleads) (moves_of_step hstep)

end Asking

end Traversal

/-! ## Resolutions -/

namespace Entry

open Session

variable {services : Services} {entry : Entry}

/-- The state in which the first document of a resolution is entered: no file was asked for yet,
unless the document is that of a file. -/
inductive Begins (services : Services) : Entry → Traversal → Prop
  | text {text : String} : Begins services (.text none text) ⟨.enter none text, [], fresh⟩
  | textAt {display path text : String} : services.locate display = .ok path →
      Begins services (.text (some display) text) ⟨.enter (some path) text, [], fresh⟩
  | file {display path text : String} : services.locate display = .ok path →
      services.files.read path = .ok text →
      Begins services (.file display)
        ⟨.enter (some path) text, [], fresh.noted (.fileAsked path)⟩

/-- A raw string is evaluated in a resolution: with the first document, or with one that it
gathers. -/
def Issues (services : Services) (entry : Entry) (issue : Issue) : Prop :=
  ∃ first t, entry.Begins services first ∧ Traversal.Leads services first t ∧
    issue ∈ t.issues services

/-- Without a first document a resolution fails, and at most one file was asked for. -/
theorem resolve_of_not_begins (h : ∀ first, ¬ entry.Begins services first) :
    ∃ failure after, entry.resolve services fresh = .error failure after ∧
      (after = fresh ∨ ∃ path, after = fresh.noted (.fileAsked path)) := by
  cases entry with
  | text display content =>
    cases display with
    | none => exact absurd .text (h _)
    | some display =>
      cases hpath : services.locate display with
      | error fault => exact ⟨_, _, resolveText_of_fault hpath content fresh, .inl rfl⟩
      | ok path => exact absurd (.textAt hpath) (h _)
  | file display =>
    cases hpath : services.locate display with
    | error fault => exact ⟨_, _, resolveFile_of_fault hpath fresh, .inl rfl⟩
    | ok path =>
      cases hread : services.files.read path with
      | error fault =>
        exact ⟨_, _, resolveFile_of_unreadable hpath hread fresh, .inr ⟨path, rfl⟩⟩
      | ok content => exact absurd (.file hpath hread) (h _)

namespace Begins

variable {first : Traversal}

/-- The first document is resolved while no file is being resolved. -/
theorem exists_resolve (h : entry.Begins services first) :
    ∃ root text session, first = ⟨.enter root text, [], session⟩ ∧ session.active = [] ∧
      entry.resolve services fresh = (Session.resolve services root text >>= finish) session := by
  cases h with
  | text => exact ⟨_, _, _, rfl, rfl, congrFun (resolveText_none _) _⟩
  | textAt hpath => exact ⟨_, _, _, rfl, rfl, congrFun (resolveText_some hpath _) _⟩
  | file hpath hread => exact ⟨_, _, _, rfl, rfl, resolveFile_of_read hpath hread fresh⟩

/-- Nothing is known then, and a file that was asked for is that of the first document. -/
theorem ledger_asking (h : entry.Begins services first) :
    first.session.resources.Ledger ∧ first.Asking := by
  cases h with
  | text | textAt => exact ⟨.fresh, List.nodup_nil, fun _ => List.nil_subset _⟩
  | file =>
    exact ⟨Resources.Ledger.fresh.note rfl rfl, List.nodup_singleton _,
      fun _ => List.Subset.refl _⟩

/-- The steps from the first document come to their end, which is recorded if there is a
configuration. -/
theorem comes_to (h : entry.Begins services first) :
    ∃ root last, Traversal.Orderly services root first ∧ Traversal.Leads services first last ∧
      Traversal.step services last = none ∧
      let resources := (Traversal.sessionOf (entry.resolve services fresh)).resources
      Resources.Proceeded services.system last.session.resources resources ∧
        resources.asked = last.session.resources.asked := by
  obtain ⟨root, text, session, rfl, hactive, hresolve⟩ := h.exists_resolve
  refine ⟨root, _, .start text hactive, Traversal.resolve_leads root text session hactive,
    Traversal.step_answered _, ?_⟩
  rw [hresolve]
  simp only [bind, EStateM.bind]
  generalize Session.resolve services root text session = result
  cases result with
  | error failure after => exact ⟨.refl, rfl⟩
  | ok config after =>
    exact ⟨.single (.notes _ rfl rfl), Resources.asked_note_of_none rfl _⟩

end Begins

/-- The record of a resolution is a ledger, and no file was asked for twice. -/
theorem resolve_ledger (services : Services) (entry : Entry) :
    let resources := (Traversal.sessionOf (entry.resolve services fresh)).resources
    resources.Ledger ∧ resources.asked.Nodup := by
  intro resources
  by_cases hbegins : ∃ first, entry.Begins services first
  · obtain ⟨first, hfirst⟩ := hbegins
    obtain ⟨hledger, hasking⟩ := hfirst.ledger_asking
    obtain ⟨root, last, horderly, hleads, -, hproceeded, hasked⟩ := hfirst.comes_to
    refine ⟨(hledger.proceeded hleads.proceeded).proceeded hproceeded, ?_⟩
    exact hasked ▸ (hasking.leads horderly hleads).nodup
  · obtain ⟨failure, after, hresolve, hafter⟩ :=
      resolve_of_not_begins fun first hfirst => hbegins ⟨first, hfirst⟩
    have hresources : resources = after.resources := by
      simp only [resources, hresolve, Traversal.sessionOf]
    obtain rfl | ⟨path, rfl⟩ := hafter
    · exact hresources ▸ ⟨.fresh, List.nodup_nil⟩
    · exact hresources ▸ ⟨Resources.Ledger.fresh.note rfl rfl, List.nodup_singleton path⟩

/-- The pattern of a raw string is in its place to the end. -/
theorem Issues.stands {issue : Issue} (h : entry.Issues services issue) :
    issue.Stands (Traversal.sessionOf (entry.resolve services fresh)).resources.patterns := by
  obtain ⟨first, t, hfirst, hleads, hissue⟩ := h
  obtain ⟨root, last, -, hlast, hend, hproceeded, -⟩ := hfirst.comes_to
  obtain ⟨next, hstep, hstands⟩ := Traversal.exists_step_stands hissue
  -- The document is evaluated on the way to the end, and patterns are kept from then on.
  have hnext : Traversal.Leads services next last := hlast.on hend (hleads.tail hstep)
  exact (hstands.keeps hnext.proceeded.keeps).keeps hproceeded.keeps

/-- What one resolution does once, whether it succeeds or fails.  It asks for no file twice.  It
asks for no fact twice, and for none that is not on the list of facts.  It reads no pattern
twice, and that of every raw string that is evaluated once.  All raw strings with the same text,
in whatever documents they stand, have one and the same pattern: it stands in one place among the
patterns that were read, and their value is that pattern. -/
theorem resolve_once (services : Services) (entry : Entry) :
    let resources := (Traversal.sessionOf (entry.resolve services fresh)).resources
    resources.asked.Nodup ∧
      (resources.history.filterMap Event.key?).Nodup ∧
      (∀ key ∈ resources.history.filterMap Event.key?, ∃ known : SystemKey, known.name = key) ∧
      (resources.history.filterMap Event.pattern?).Nodup ∧
      (∀ issue, entry.Issues services issue → issue.Stands resources.patterns ∧
        (resources.history.filterMap Event.pattern?).count issue.source = 1) ∧
      ∀ issue issue', entry.Issues services issue → entry.Issues services issue' →
        issue.source = issue'.source → issue = issue' := by
  intro resources
  obtain ⟨hledger, hasked⟩ := resolve_ledger services entry
  refine ⟨hasked, hledger.keys_eq ▸ hledger.keys_nodup, hledger.keys_eq ▸ hledger.keys_known,
    hledger.sources_eq ▸ hledger.sources_nodup,
    fun _ hissue => ⟨hissue.stands, hissue.stands.count_eq_one hledger⟩, ?_⟩
  intro issue issue' hissue hissue' hsource
  exact hissue.stands.unique hissue'.stands hledger hsource

/-- Two documents with the same raw string, one of which gathers the other. -/
theorem resolve_once_shared :
    let services := Services.ofStore [("/m", "k r\"a\"\n")]
    let entry := Entry.text none "gather \"m\"\nx r\"a\"\n"
    ∃ issue issue', entry.Issues services issue ∧ entry.Issues services issue' ∧
      issue.source = "a" ∧ issue'.source = "a" ∧ issue = issue' := by
  intro services entry
  let first : Traversal := ⟨.enter none "gather \"m\"\nx r\"a\"\n", [], fresh⟩
  -- The module is evaluated in the fourth step and the first document in the sixth one.
  have hissues (n : Nat) (h : (Traversal.after services n first).map (fun t =>
      (t.issues services).map (·.source)) = some ["a"]) :
      ∃ issue, entry.Issues services issue ∧ issue.source = "a" := by
    obtain ⟨t, ht, hsources⟩ := Option.map_eq_some_iff.mp h
    obtain ⟨issue, hissue, hsource⟩ := List.mem_map.mp (hsources ▸ List.mem_singleton_self "a")
    exact ⟨issue, ⟨first, t, .text, Traversal.leads_of_after ht, hissue⟩, hsource⟩
  obtain ⟨issue, hissue, hsource⟩ := hissues 3 (by decide +kernel)
  obtain ⟨issue', hissue', hsource'⟩ := hissues 5 (by decide +kernel)
  obtain ⟨-, -, -, -, -, hunique⟩ := resolve_once services entry
  exact ⟨issue, issue', hissue, hissue', hsource, hsource',
    hunique issue issue' hissue hissue' (hsource.trans hsource'.symm)⟩

end Entry

end Rune
