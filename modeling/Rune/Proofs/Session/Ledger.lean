import Mathlib.Data.List.Nodup
import Mathlib.Logic.Relation
import Rune.Proofs.Entries
import Rune.Session.Resources
import Rune.System.Key

/-!
# Rune - resources keep a ledger

Resources change in two ways while a document is evaluated: a pattern is read, or the system
is asked for a fact.  What they know already is neither lost nor changed, and their record
of events has every pattern that was read and every fact that was asked for, once.

Main results:

- Relation {lit}`Resources.Consults` says what an evaluation may do to resources.
- Structure {lit}`Resources.Keeps`: some resources know what others know.
- Structure {lit}`Resources.Ledger`: the record of events tells what is known, with theorem
  {lit}`Resources.Ledger.consults` that it goes on doing so.
-/

namespace Rune

namespace Event

/-- The path of a file that was asked for. -/
def path? : Event → Option String
  | .fileAsked path => some path
  | _ => none

/-- The key of a fact that was asked for. -/
def key? : Event → Option String
  | .factAsked key => some key
  | _ => none

/-- The source of a pattern that was read. -/
def pattern? : Event → Option String
  | .compiled source => some source
  | _ => none

end Event

namespace Resources

/-! ## What may be done -/

/-- What an evaluation may do to resources: ask for a pattern that can be read, and ask for
a fact from the list of facts. -/
inductive Consults (system : String → Option String) : Resources → Resources → Prop
  | pattern {before after : Resources} {source : String} {p : Pattern}
      (h : before.compile source = .ok (p, after)) : Consults system before after
  | fact (before : Resources) (key : SystemKey) :
    Consults system before (before.fact system key.name).2

/-- A pattern that is asked for is found, or it is read and put behind the others. -/
theorem compile_eq_ok {before after : Resources} {source : String} {p : Pattern}
    (h : before.compile source = .ok (p, after)) :
    (before.patterns.find? source = some p ∧
      after = { before with patterns :=
        { before.patterns with hits := before.patterns.hits + 1 } }) ∨
    (before.patterns.find? source = none ∧ p.source = source ∧
      after = note (.compiled source) { before with patterns :=
        { before.patterns with patterns := before.patterns.patterns ++ [p] } }) := by
  unfold compile at h
  cases hcompile : before.patterns.compile source with
  | error fault =>
    rw [hcompile] at h
    cases h
  | ok result =>
    obtain ⟨q, patterns⟩ := result
    have hsource := PatternCache.source_of_compile hcompile
    rw [hcompile] at h
    cases h
    unfold PatternCache.compile at hcompile
    cases hfind : before.patterns.find? source with
    | some known =>
      rw [hfind] at hcompile
      cases hcompile
      exact .inl ⟨rfl, by simp [PatternCache.contains, hfind]⟩
    | none =>
      rw [hfind] at hcompile
      cases hread : Pattern.read source with
      | error fault => simp [hread] at hcompile
      | ok read =>
        simp only [hread] at hcompile
        cases hcompile
        exact .inr ⟨rfl, hsource, by simp [PatternCache.contains, hfind]⟩

/-- A fact that is asked for is known, or the system is asked and the answer is put behind
the others. -/
theorem fact_cases (system : String → Option String) (key : String) (before : Resources) :
    (∃ known, Entries.get? key before.facts = some known ∧
      before.fact system key = (known, before)) ∨
      (Entries.get? key before.facts = none ∧ before.fact system key = (system key,
        note (.factAsked key) { before with facts := before.facts ++ [(key, system key)] })) := by
  unfold fact
  cases hget : Entries.get? key before.facts with
  | some known => exact .inl ⟨known, rfl, rfl⟩
  | none =>
    have hinsert := Entries.insert_of_get?_eq_none hget (system key)
    exact .inr ⟨rfl, by simp only [hinsert]⟩

/-! ## What is known -/

/-- What some resources know, others know too: the same patterns and the same facts, in the
same places. -/
structure Keeps (before after : Resources) : Prop where
  patterns : before.patterns.patterns <+: after.patterns.patterns
  facts : before.facts <+: after.facts

namespace Keeps

variable {before mid after : Resources}

theorem refl (resources : Resources) : Keeps resources resources :=
  ⟨List.prefix_rfl, List.prefix_rfl⟩

theorem trans (h : Keeps before mid) (h' : Keeps mid after) : Keeps before after :=
  ⟨h.patterns.trans h'.patterns, h.facts.trans h'.facts⟩

theorem note (event : Event) (resources : Resources) : Keeps resources (resources.note event) :=
  ⟨List.prefix_rfl, List.prefix_rfl⟩

/-- An evaluation loses nothing that is known. -/
theorem of_consults {system : String → Option String} (h : Consults system before after) :
    Keeps before after := by
  cases h with
  | pattern hcompile =>
    obtain ⟨-, rfl⟩ | ⟨-, -, rfl⟩ := compile_eq_ok hcompile
    · exact ⟨List.prefix_rfl, List.prefix_rfl⟩
    · exact ⟨List.prefix_append _ _, List.prefix_rfl⟩
  | fact key =>
    obtain ⟨_, -, heq⟩ | ⟨-, heq⟩ := fact_cases system key.name before
    · rw [heq]
      exact refl before
    · rw [heq]
      exact ⟨List.prefix_rfl, List.prefix_append _ _⟩

/-- A pattern that is known is found afterwards. -/
theorem find? (h : Keeps before after) {source : String} {p : Pattern}
    (hfind : before.patterns.find? source = some p) : after.patterns.find? source = some p := by
  obtain ⟨more, hmore⟩ := h.patterns
  unfold PatternCache.find? at hfind ⊢
  rw [← hmore, List.find?_append, hfind]
  rfl

/-- A fact that is known is known afterwards. -/
theorem get? (h : Keeps before after) {key : String} {answer : Option String}
    (hget : Entries.get? key before.facts = some answer) :
    Entries.get? key after.facts = some answer := by
  obtain ⟨more, hmore⟩ := h.facts
  rw [← hmore, Entries.get?_append, hget]
  rfl

end Keeps

/-! ## What is recorded -/

/-- An event that is recorded stands at the end of the record. -/
theorem filterMap_history_note {κ : Type} (f : Event → Option κ) (event : Event)
    (resources : Resources) : (resources.note event).history.filterMap f =
      resources.history.filterMap f ++ (f event).toList := by
  cases hevent : f event <;> simp [note, history, hevent]

/-- The record of events tells what is known: the patterns, in the order in which they were
read, and the facts, in the order in which they were asked for.  None of them stands there
twice, and the facts are from the list of facts. -/
structure Ledger (resources : Resources) : Prop where
  keys_eq : resources.history.filterMap Event.key? = Entries.keys resources.facts
  keys_nodup : (Entries.keys resources.facts).Nodup
  keys_known : ∀ key ∈ Entries.keys resources.facts, ∃ known : SystemKey, known.name = key
  sources_eq : resources.history.filterMap Event.pattern? =
    resources.patterns.patterns.map (·.source)
  sources_nodup : (resources.patterns.patterns.map (·.source)).Nodup

namespace Ledger

variable {before after : Resources}

theorem fresh : Ledger fresh := ⟨rfl, List.nodup_nil, by simp [Resources.fresh, Entries.keys], rfl,
  List.nodup_nil⟩

/-- Other events are recorded beside. -/
theorem note (h : Ledger before) {event : Event} (hkey : event.key? = none)
    (hpattern : event.pattern? = none) : Ledger (before.note event) where
  keys_eq := by
    rw [filterMap_history_note, hkey]
    exact (List.append_nil _).trans h.keys_eq
  keys_nodup := h.keys_nodup
  keys_known := h.keys_known
  sources_eq := by
    rw [filterMap_history_note, hpattern]
    exact (List.append_nil _).trans h.sources_eq
  sources_nodup := h.sources_nodup

/-- An evaluation goes on with the record. -/
theorem consults {system : String → Option String} (h : Ledger before)
    (hconsults : Consults system before after) : Ledger after := by
  obtain ⟨hkeys, hkeysNodup, hknown, hsources, hsourcesNodup⟩ := h
  cases hconsults with
  | @pattern _ source p hcompile =>
    obtain ⟨-, rfl⟩ | ⟨hfind, rfl, rfl⟩ := compile_eq_ok hcompile
    · exact ⟨hkeys, hkeysNodup, hknown, hsources, hsourcesNodup⟩
    · have hnew : p.source ∉ before.patterns.patterns.map (·.source) := by
        simpa [PatternCache.find?] using hfind
      refine ⟨?_, hkeysNodup, hknown, ?_, ?_⟩
      · rw [filterMap_history_note]
        exact (List.append_nil _).trans hkeys
      · rw [filterMap_history_note]
        exact (congrArg (· ++ [p.source]) hsources).trans (by simp [Resources.note])
      · simpa [Resources.note] using List.Nodup.concat hnew hsourcesNodup
  | fact key =>
    obtain ⟨_, -, heq⟩ | ⟨hget, heq⟩ := fact_cases system key.name before
    · rw [heq]
      exact ⟨hkeys, hkeysNodup, hknown, hsources, hsourcesNodup⟩
    · have hnew : key.name ∉ Entries.keys before.facts := Entries.get?_eq_none_iff.mp hget
      have happend : Entries.keys (before.facts ++ [(key.name, system key.name)]) =
          Entries.keys before.facts ++ [key.name] := by simp [Entries.keys]
      rw [heq]
      refine ⟨?_, ?_, ?_, ?_, hsourcesNodup⟩
      · rw [filterMap_history_note]
        exact (congrArg (· ++ [key.name]) hkeys).trans happend.symm
      · simpa [Resources.note, happend] using List.Nodup.concat hnew hkeysNodup
      · simp only [Resources.note, happend, List.mem_append, List.mem_singleton]
        rintro other (hother | rfl)
        · exact hknown other hother
        · exact ⟨key, rfl⟩
      · rw [filterMap_history_note]
        exact (List.append_nil _).trans hsources

end Ledger

/-! ## What a session does to resources -/

/-- What a session may do to resources: consult them, or record an event beside. -/
inductive Proceeds (system : String → Option String) : Resources → Resources → Prop
  | consults {before after : Resources} (h : Consults system before after) :
    Proceeds system before after
  | notes (before : Resources) {event : Event} (hkey : event.key? = none)
      (hpattern : event.pattern? = none) : Proceeds system before (before.note event)

/-- What was done to resources, one thing after another. -/
abbrev Proceeded (system : String → Option String) : Resources → Resources → Prop :=
  Relation.ReflTransGen (Proceeds system)

section

variable {system : String → Option String} {before after : Resources}

/-- A session loses nothing that is known. -/
theorem Proceeded.keeps (h : Proceeded system before after) : before.Keeps after := by
  induction h with
  | refl => exact .refl before
  | tail _ hstep ih =>
    cases hstep with
    | consults hconsults => exact ih.trans (.of_consults hconsults)
    | notes => exact ih.trans (.note _ _)

/-- A session goes on with the record. -/
theorem Ledger.proceeded (h : Ledger before) (hproceeded : Proceeded system before after) :
    Ledger after := by
  induction hproceeded with
  | refl => exact h
  | tail _ hstep ih =>
    cases hstep with
    | consults hconsults => exact ih.consults hconsults
    | notes hkey hpattern => exact ih.note hkey hpattern

/-- An evaluation asks for no file. -/
theorem Consults.paths_eq (h : Consults system before after) :
    after.events.filterMap Event.path? = before.events.filterMap Event.path? := by
  cases h with
  | pattern hcompile =>
    obtain ⟨-, rfl⟩ | ⟨-, -, rfl⟩ := compile_eq_ok hcompile
    · rfl
    · rfl
  | fact key =>
    obtain ⟨_, -, heq⟩ | ⟨-, heq⟩ := fact_cases system key.name before
    · rw [heq]
    · rw [heq]
      rfl

/-- What an evaluation did to resources, one thing after another. -/
abbrev Consulted (system : String → Option String) : Resources → Resources → Prop :=
  Relation.ReflTransGen (Consults system)

theorem Consulted.proceeded (h : Consulted system before after) :
    Proceeded system before after := by
  induction h with
  | refl => exact .refl
  | tail _ hstep ih => exact ih.tail (.consults hstep)

theorem Consulted.paths_eq (h : Consulted system before after) :
    after.events.filterMap Event.path? = before.events.filterMap Event.path? := by
  induction h with
  | refl => rfl
  | tail _ hstep ih => exact hstep.paths_eq.trans ih

end

end Resources

end Rune
