import Rune.Proofs.Config.Descent
import Rune.Proofs.Session.Layers
import Rune.Proofs.Session.Origin

/-!
# Rune - which values are the same

The origin of a value is found in the documents of a configuration: its own, or one that it
gathers, directly or through others.  Their scopes are found again by gathering their files
anew, and what they evaluate to is the configuration, so that every value has an origin.

Main results:

- Inductive {lit}`Config.Regained`: the scope of a configuration is found again, and so are
  those of all configurations that it gathers.
- Theorem {lit}`Entry.regained_of_resolve`: that holds of whatever is resolved.
- Theorem {lit}`Entry.origin?_makes`: the value at a path has an origin, which makes it.
- Theorem {lit}`Entry.same_iff`: when two paths lead to one and the same value.
-/

namespace Rune

open Origin (Makes)

variable {services : Services}

/-! ## Scopes that are found again -/

/-- The scope of a configuration is found again, it comes to the configuration, and so it is
with all that the scope has gathered, at most so many files deep. -/
inductive Config.Regained (services : Services) : Nat → Config → Prop
  | intro {depth : Nat} {config : Config} {scope : Scope} :
      config.scope? services = some scope → scope.Includes scope.includes config →
      (∀ gathered, scope.HasGathered gathered → Regained services depth gathered) →
      Regained services (depth + 1) config

/-- A scope is that of a configuration or of one that it gathers. -/
inductive Config.Involves (services : Services) : Config → Scope → Prop
  | own {config : Config} {scope : Scope} : config.scope? services = some scope →
      Involves services config scope
  | gathered {config next : Config} {scope inner : Scope} :
      config.scope? services = some scope → scope.HasGathered next →
      Involves services next inner → Involves services config inner

namespace Session

open Reloading (exists_of_file exists_of_resolveUsing file_mono forall_of_gatherAll)

/-- Gathering anew comes to what is gathered without a memory. -/
theorem gatherAll_eq_ok {root : Option String} {source : Source} {directory : String}
    {aliases : Entries Config} {gathers : List Gather} {depth : Nat}
    (hdirectory : directoryOf services root = .ok directory)
    (h : Reloading.gatherAll services (Reloading.file services depth) source directory []
      gathers = .value aliases) :
    ∃ after, ((directoryOf services root : Resolve String) >>= fun directory =>
      gatherAll services (resolverWith services services.files.known.length) source directory []
        gathers) fresh = .ok aliases after := by
  obtain ⟨after, hrun, -⟩ := (gatherAll_reloads (root_gathers_reload none source directory) []
    gathers fresh (Sound.fresh services)).ok_of_eq (Deep.nil services) h
  exact ⟨after, bind_eq_ok_iff.2 ⟨directory, fresh, by rw [hdirectory]; rfl, hrun⟩⟩

/-- A document is regained if the files that it gathers are. -/
theorem regained_of_document {depth files : Nat} {root : Option String} {text : String}
    {config : Config} (hfiles : ∀ path known, Reloading.file services depth path = .value known →
      known.Regained services files)
    (h : Reloading.resolveUsing services (Reloading.file services depth) root text =
      .value config) : config.Regained services (files + 1) := by
  obtain ⟨document, directory, aliases, memory, hparse, hdirectory, hgathers, hevaluate⟩ :=
    exists_of_resolveUsing h
  have hsource : config.source = .ofText text root := Scope.source_of_evaluate hevaluate
  have hregained := forall_of_gatherAll hfiles (by simp [Entries.get?]) hgathers
  obtain ⟨after, hrun⟩ := gatherAll_eq_ok hdirectory hgathers
  have hscope : config.scope? services =
      some (.ofDocument (.ofText text root) services document aliases) := by
    have hpath : (Source.ofText text root).path = root := rfl
    simp only [Config.scope?, Config.sourcePath, hsource, hparse, hpath, hrun]
  refine .intro hscope (Scope.includes_of_evaluate (Resources.truthful_fresh _) hevaluate) ?_
  rintro gathered (hincluded | ⟨name, hname⟩)
  · obtain ⟨g, -, hget⟩ := List.mem_filterMap.1 hincluded
    exact hregained _ gathered hget
  · exact hregained name gathered hname

end Session

namespace Config.Regained

/-- Files may be gathered less deep. -/
theorem mono {depth depth' : Nat} {config : Config} (h : config.Regained services depth)
    (hdepth : depth ≤ depth') : config.Regained services depth' := by
  induction h generalizing depth' with
  | intro hscope hincludes _ ih =>
    cases depth' with
    | zero => omega
    | succ depth' =>
      exact .intro hscope hincludes fun gathered hgathered => ih gathered hgathered (by omega)

/-- No key is given twice in a configuration whose scope is found again. -/
theorem nodup_keys {depth : Nat} {config : Config} (h : config.Regained services depth)
    (space : Namespace) : (Entries.keys (config.values space)).Nodup := by
  obtain ⟨-, hincludes, -⟩ := h
  cases space with
  | globals =>
    obtain ⟨own, -, heq⟩ := hincludes.globals
    rw [Config.values, heq]
    exact Entries.nodup_keys_ofList _
  | items =>
    obtain ⟨own, -, heq⟩ := hincludes.items
    rw [Config.values, heq]
    exact Entries.nodup_keys_ofList _
  | metadata =>
    obtain ⟨own, -, heq⟩ := hincludes.metadata
    rw [Config.values, heq]
    exact Entries.nodup_keys_ofList _

end Config.Regained

namespace Session

open Reloading (exists_of_file file_mono)

/-- How many files have a configuration where they gather each other less than {lit}`depth`
deep. -/
def resolvable (services : Services) (depth : Nat) : Nat :=
  weightAt (fun path depth => Reloading.file services depth path) (fun _ => 1) depth
    services.files.known

theorem resolvable_le (depth : Nat) :
    resolvable services depth ≤ services.files.known.length := by
  have hlength : ∀ paths : List String,
      (paths.map fun _ => 1).foldr (· + ·) 0 = paths.length := by
    intro paths
    induction paths with
    | nil => rfl
    | cons path paths ih => rw [List.map_cons, List.foldr_cons, ih, List.length_cons, Nat.add_comm]
  rw [← hlength]
  exact weightAt_le _ _ depth _

/-- A file is regained: what it gathers can be resolved one level less deep, where it cannot be
resolved itself.  The induction is down to the least depth at which it can. -/
theorem regained_of_file {depth : Nat} {path : String} {config : Config}
    (h : Reloading.file services depth path = .value config) :
    config.Regained services (resolvable services depth) := by
  induction depth generalizing path config with
  | zero => cases h
  | succ depth ih =>
    have hmono : ∀ path known, Reloading.file services depth path = .value known →
        Reloading.file services (depth + 1) path = .value known :=
      fun _ _ hfile => file_mono (Nat.le_succ depth) hfile
    by_cases hbelow : ∃ known, Reloading.file services depth path = .value known
    · obtain ⟨known, hknown⟩ := hbelow
      have hsame := hmono path known hknown
      rw [h] at hsame
      cases hsame
      exact (ih hknown).mono (weightAt_mono _ hmono _)
    · obtain ⟨below, text, hdepth, hread, hdocument⟩ := exists_of_file h
      cases hdepth
      have hnew := fun known hknown => hbelow ⟨known, hknown⟩
      exact (regained_of_document (fun _ _ hfile => ih hfile) hdocument).mono
        (weightAt_add_le _ hmono (services.files.mem_known hread) hnew h)

end Session

open Session

/-- The configuration of an entry is regained: files gather each other at most as deep as there
are files. -/
theorem Entry.regained_of_resolve {entry : Entry} {config : Config} {after : Session}
    (h : entry.resolve services fresh = .ok config after) :
    config.Regained services (services.files.known.length + 1) := by
  obtain ⟨root, text, depth, -, hdocument⟩ := exists_reload h
  exact regained_of_document
    (fun _ _ hfile => (regained_of_file hfile).mono (resolvable_le depth)) hdocument

/-! ## Where keys lead -/

namespace Origin

variable {scope : Scope} {key : String} {value : Value}

/-- A top-level binding that yields a value is a target that stands for it. -/
theorem denotes_of_yields {slot : Slot} (h : ByName.Yields scope (.slot slot) value) :
    ∃ target steps, slotTarget? scope slot = some target ∧ Denotes scope steps target value ∧
      steps ≤ target.weight + scope.weight := by
  obtain ⟨depth, hdepth⟩ := Bare.yields_iff.1 h
  obtain ⟨target, htarget, hdenotes⟩ := denotes_of_slot hdepth
  exact ⟨target, _, htarget, hdenotes,
    Nat.le_trans (settledWeight_le scope depth) (Nat.le_add_left _ _)⟩

/-- So is a binding of metadata. -/
theorem denotes_of_metadata {bound : ValueExpr × TextRange}
    (hbound : Entries.get? key scope.metadata.reverse = some bound)
    (h : ByName.Yields scope (.metadata bound.1) value) :
    ∃ target steps, topTarget? scope .metadata key = some target ∧
      Denotes scope steps target value ∧ steps ≤ target.weight + scope.weight := by
  obtain ⟨depth, hdepth⟩ := Bare.yields_iff.1 h
  have htop : topTarget? scope .metadata key = some (.here (.top (.value bound.1))) := by
    simp only [topTarget?, hbound, Option.map_some]
  refine ⟨_, settledWeight scope depth + bound.1.weight, htop,
    .here (.value (.top htop) hdepth (.nil (fun _ => rfl) _) (Nat.le_refl _) (Nat.le_refl _)), ?_⟩
  have hsettled := settledWeight_le scope depth
  have hweight : (Target.here (.top (.value bound.1))).weight = bound.1.weight := rfl
  omega

/-- A key leads to what is bound in the document, or else to what is included. -/
theorem denotes_of_fills {β : Type} {space : Namespace} {slot : String → Slot}
    {bindings : List (String × β)} {own : Entries Value}
    (hown : ByName.Fills scope (fun bound => .slot (slot bound.1)) bindings own)
    (hbound : topTarget? scope space key = slotTarget? scope (slot key))
    (hunbound : Entries.get? key bindings = none → topTarget? scope space key = none)
    (hnodup : ∀ included ∈ scope.includes, (Entries.keys (included.values space)).Nodup)
    (hvalue : Entries.get? key (Entries.ofList (scope.includes.flatMap (·.values space) ++ own)) =
      some value) :
    ∃ target steps, target? scope space key = some target ∧ Denotes scope steps target value ∧
      steps ≤ target.weight + scope.weight := by
  rw [Entries.get?_ofList, List.reverse_append, Entries.get?_append] at hvalue
  unfold target?
  cases hknown : Entries.get? key own.reverse with
  | some known =>
    rw [hknown, Option.some_or] at hvalue
    cases hvalue
    obtain ⟨_, -, hyields⟩ := (hown.reverse.get?_iff key value).1 hknown
    obtain ⟨target, steps, htarget, hdenotes, hsteps⟩ := denotes_of_yields hyields
    exact ⟨target, steps, by rw [hbound, htarget, Option.some_or], hdenotes, hsteps⟩
  | none =>
    have hnone : Entries.get? key bindings = none := by
      rw [Entries.get?_eq_none_iff, hown.reverse.keys_eq] at hknown
      rw [Entries.get?_eq_none_iff]
      simpa [Entries.keys] using hknown
    rw [hknown, Option.none_or, ← Entries.get?_ofList,
      Entries.get?_ofList_flatMap key _ hnodup] at hvalue
    have hincluded : (scope.includes.reverse.findSome? fun included =>
        [space].findSome? fun space => Entries.get? key (included.values space)) = some value := by
      simpa only [List.findSome?_singleton] using hvalue
    obtain ⟨target, htarget, hdenotes⟩ := denotes_of_included hincluded 0
    exact ⟨target, 0, by rw [hunbound hnone, Option.none_or, htarget], hdenotes, Nat.zero_le _⟩

/-- A key of the configuration of a document leads to what stands for its value. -/
theorem denotes_of_value {config : Config} {space : Namespace}
    (hincludes : scope.Includes scope.includes config)
    (hnodup : ∀ included ∈ scope.includes, (Entries.keys (included.values space)).Nodup)
    (hvalue : Entries.get? key (config.values space) = some value) :
    ∃ target steps, target? scope space key = some target ∧ Denotes scope steps target value ∧
      steps ≤ target.weight + scope.weight := by
  cases space with
  | globals =>
    obtain ⟨own, hown, heq⟩ := hincludes.globals
    rw [Config.values, heq] at hvalue
    exact denotes_of_fills hown rfl (fun hnone => by rw [topTarget?, hnone, Option.map_none])
      hnodup hvalue
  | items =>
    obtain ⟨own, hown, heq⟩ := hincludes.items
    rw [Config.values, heq] at hvalue
    exact denotes_of_fills hown rfl (fun hnone => by rw [topTarget?, hnone, Option.map_none])
      hnodup hvalue
  | metadata =>
    obtain ⟨own, hown, heq⟩ := hincludes.metadata
    rw [Config.values, heq, Entries.get?_ofList] at hvalue
    obtain ⟨bound, hbound, hyields⟩ := (hown.reverse.get?_iff key value).1 hvalue
    obtain ⟨target, steps, htarget, hdenotes, hsteps⟩ := denotes_of_metadata hbound hyields
    exact ⟨target, steps, by rw [target?, htarget, Option.some_or], hdenotes, hsteps⟩

end Origin

/-! ## Origins -/

/-- The value at a path of a configuration whose scope is found again has an origin, which makes
it.  The induction is on the configurations that are gathered. -/
theorem Config.Regained.exists_origin {depth depth' : Nat} {config : Config}
    (h : config.Regained services depth) (hdepth : depth ≤ depth') {space : Namespace}
    {key : String} {path : List String} {value found : Value}
    (hvalue : Entries.get? key (config.values space) = some value)
    (hwalk : Lookup.walk path value = .ok (some found)) :
    ∃ origin scope, originWith services depth' config space (key :: path) = some origin ∧
      config.Involves services scope ∧ origin.document = scope.source.path ∧
      Makes scope origin.range found := by
  induction h generalizing depth' space key path value with
  | @intro depth config scope hscope hincludes hgathered ih =>
    cases depth' with
    | zero => omega
    | succ depth' =>
      obtain ⟨target, steps, htarget, hdenotes, hsteps⟩ := Origin.denotes_of_value hincludes
        (fun included hincluded => (hgathered included (.inl hincluded)).nodup_keys space) hvalue
      have hanswers := Origin.found?_answers (originWith services depth')
        ⟨value, hdenotes, hwalk⟩ hsteps
      have hstart : originWith services (depth' + 1) config space (key :: path) =
          Origin.found? scope (originWith services depth') target path := by
        simp [originWith, hscope, htarget]
      rw [hstart]
      generalize Origin.found? scope (originWith services depth') target path = answer
        at hanswers
      cases hanswers with
      | made hmakes => exact ⟨_, scope, rfl, .own hscope, rfl, hmakes⟩
      | elsewhere hnext hknown hrest =>
        obtain ⟨origin, inner, horigin, hinvolves, hdocument, hmakes⟩ :=
          ih _ hnext (Nat.le_of_succ_le_succ hdepth) hknown hrest
        exact ⟨origin, inner, horigin, .gathered hscope hnext hinvolves, hdocument, hmakes⟩

namespace Config

variable {config : Config} {space : Namespace} {path other : String} {left right : Value}

/-- Two paths lead to one and the same value if the values are equal and there is only one such
value, or they have one origin. -/
theorem same_eq_true_iff (hleft : config.value space path = .ok left)
    (hright : config.value space other = .ok right) :
    config.same services space path other = .ok true ↔ left = right ∧
      (left.isUnique = true ∨
        config.origin? services space path = config.origin? services space other) := by
  simp [same, hleft, hright, bind, Except.bind, pure, Except.pure]

/-- To lead to one and the same value is an equivalence of the paths that have values. -/
theorem same_equivalence (services : Services) (config : Config) (space : Namespace) :
    Equivalence fun path other : { path // ∃ value, config.value space path = .ok value } =>
      config.same services space path other = .ok true where
  refl := by
    rintro ⟨path, value, hvalue⟩
    exact (same_eq_true_iff hvalue hvalue).2 ⟨rfl, .inr rfl⟩
  symm := by
    rintro ⟨path, left, hleft⟩ ⟨other, right, hright⟩ h
    obtain ⟨rfl, hsame⟩ := (same_eq_true_iff hleft hright).1 h
    exact (same_eq_true_iff hright hleft).2 ⟨rfl, hsame.imp id Eq.symm⟩
  trans := by
    rintro ⟨path, left, hleft⟩ ⟨other, middle, hmiddle⟩ ⟨third, right, hright⟩ h h'
    obtain ⟨rfl, hsame⟩ := (same_eq_true_iff hleft hmiddle).1 h
    obtain ⟨rfl, hsame'⟩ := (same_eq_true_iff hmiddle hright).1 h'
    refine (same_eq_true_iff hleft hright).2 ⟨rfl, ?_⟩
    rcases hsame, hsame' with ⟨hunique | heq, hunique' | heq'⟩
    · exact .inl hunique
    · exact .inl hunique
    · exact .inl hunique'
    · exact .inr (heq.trans heq')

end Config

namespace Entry

variable {entry : Entry} {config : Config} {after : Session} {space : Namespace}

/-- The value at a path of a configuration has an origin, in a document of the configuration,
and the origin makes the value. -/
theorem origin?_makes (h : entry.resolve services fresh = .ok config after) {path : String}
    {found : Value} (hfound : config.value space path = .ok found) :
    ∃ origin scope, config.origin? services space path = some origin ∧
      config.Involves services scope ∧ origin.document = scope.source.path ∧
      Makes scope origin.range found := by
  rw [Config.value_eq_ok_iff, Config.find, Lookup.find] at hfound
  unfold Config.origin?
  cases hpath : Key.path path with
  | nil =>
    rw [hpath] at hfound
    cases hfound
  | cons key rest =>
    rw [hpath] at hfound
    dsimp only at hfound
    cases hvalue : Entries.get? key (config.values space) with
    | none =>
      rw [hvalue] at hfound
      cases hfound
    | some value =>
      rw [hvalue] at hfound
      exact (regained_of_resolve h).exists_origin (Nat.le_refl _) hvalue hfound

/-- Two paths lead to one and the same value exactly if the values are equal and there is only one
such value, or one place in a document of the configuration makes both. -/
theorem same_iff (h : entry.resolve services fresh = .ok config after) {path other : String}
    {left right : Value} (hleft : config.value space path = .ok left)
    (hright : config.value space other = .ok right) :
    config.same services space path other = .ok true ↔ left = right ∧ (left.isUnique = true ∨
      ∃ origin scope, config.origin? services space path = some origin ∧
        config.origin? services space other = some origin ∧ config.Involves services scope ∧
        origin.document = scope.source.path ∧ Makes scope origin.range left) := by
  rw [Config.same_eq_true_iff hleft hright]
  refine and_congr_right fun _ => or_congr_right ?_
  constructor
  · intro hsame
    obtain ⟨origin, scope, horigin, hinvolves, hdocument, hmakes⟩ := origin?_makes h hleft
    exact ⟨origin, scope, horigin, hsame ▸ horigin, hinvolves, hdocument, hmakes⟩
  · rintro ⟨origin, -, horigin, horigin', -⟩
    rw [horigin, horigin']

/-- An array and a reference to it are one and the same, and an equal array is another one. -/
example :
    let services := Services.ofStore []
    (success? (resolveText services none "a [1]\nb a\nc [1]\n" fresh)).map (fun resolved =>
      ["b", "c"].map fun other =>
        (resolved.1.same services .globals "a" other).toOption) = some [some true, some false] := by
  decide +kernel

end Entry

end Rune
