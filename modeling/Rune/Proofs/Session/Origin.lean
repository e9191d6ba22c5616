import Rune.Proofs.Session.Standing

/-!
# Rune - what an origin makes

A path is followed through a document one step at a time.  Every step keeps the value at
the end of the path: it goes on from a place whose value has that value at the rest of the
path.  Every step leaves fewer steps to do.  So the steps come to an end, and there the value
is made.

Main results:

- Inductive {lit}`Origin.Makes`: what stands at a range of a document makes a value.
- Theorem {lit}`Origin.step_arrives`: one step along a path keeps the value at its end, and
  fewer steps are left.
- Theorem {lit}`Origin.found?_answers`: the origin that is found makes the value at the end of
  the path, or the path goes on from a key of another configuration that has this value.
-/

/-- Of two places to look in the first one counts. -/
theorem List.findSome?_pair {α β : Type} (f : α → Option β) (a b : α) :
    [a, b].findSome? f = (f a).or (f b) := by
  rw [findSome?_cons, findSome?_singleton]
  cases f a <;> rfl

namespace Rune

open Evaluation (sibling? topEffects)

namespace Origin

variable {scope : Scope}

/-! ## Where references lead -/

/-- A key of a configuration that is gathered stands for its value. -/
theorem denotes_of_key {config : Config} (hgathered : scope.HasGathered config) (key : String)
    (spaces : List Namespace) (steps : Nat) :
    match spaces.findSome? fun space => Entries.get? key (config.values space) with
    | some value => ∃ target, keyTarget? spaces key config = some target ∧
        Denotes scope steps target value
    | none => keyTarget? spaces key config = none := by
  induction spaces with
  | nil => rfl
  | cons space spaces ih =>
    cases hvalue : Entries.get? key (config.values space) with
    | some value =>
      simp only [List.findSome?_cons, hvalue]
      exact ⟨.elsewhere config space key, by simp [keyTarget?, Entries.contains, hvalue],
        .elsewhere hgathered hvalue⟩
    | none =>
      have hskip : keyTarget? (space :: spaces) key config = keyTarget? spaces key config := by
        simp [keyTarget?, Entries.contains, hvalue]
      simpa only [List.findSome?_cons, hvalue, hskip] using ih

/-- What is included under a key stands for its value: the last configuration that has the key
in one of the namespaces counts. -/
theorem denotes_of_included {key : String} {value : Value} {spaces : List Namespace}
    (h : (scope.includes.reverse.findSome? fun config =>
      spaces.findSome? fun space => Entries.get? key (config.values space)) = some value)
    (steps : Nat) :
    ∃ target, scope.includes.reverse.findSome? (keyTarget? spaces key) = some target ∧
      Denotes scope steps target value := by
  have hincluded : ∀ config ∈ scope.includes.reverse, scope.HasGathered config :=
    fun config hconfig => .inl (List.mem_reverse.1 hconfig)
  generalize scope.includes.reverse = configs at h hincluded
  induction configs with
  | nil => cases h
  | cons config configs ih =>
    have hkey := denotes_of_key (hincluded config List.mem_cons_self) key spaces steps
    rw [List.findSome?_cons] at h ⊢
    cases hfound : spaces.findSome? fun space => Entries.get? key (config.values space) with
    | some found =>
      rw [hfound] at h hkey
      cases h
      obtain ⟨target, htarget, hdenotes⟩ := hkey
      exact ⟨target, by rw [htarget], hdenotes⟩
    | none =>
      rw [hfound] at h hkey
      rw [hkey]
      exact ih h fun other hother => hincluded other (List.mem_cons_of_mem _ hother)

/-- A name leads to what has its value. -/
theorem denotes_of_name {fields : Siblings} {places : List (String × Site)} {depth steps : Nat}
    {name : String} {range : TextRange} {value : Value} (hbacked : Backed scope steps fields places)
    (hsteps : settledWeight scope depth ≤ steps)
    (h : Evaluation.nameValue scope (Bare.effectsAt scope depth) fields name range =
      .value value) :
    ∃ target, nameTarget? scope places (Key.canonical name) = some target ∧
      Denotes scope steps target value := by
  obtain ⟨hkeys, hstands⟩ := hbacked
  have hkey := hkeys (Key.canonical name)
  simp only [Evaluation.nameValue] at h
  unfold nameTarget?
  cases hplace : Entries.get? (Key.canonical name) places with
  | some site =>
    rw [hplace] at hkey
    obtain ⟨known, hknown⟩ := Option.isSome_iff_exists.1 hkey.symm
    rw [hknown] at h
    cases h
    exact ⟨_, rfl, .here (hstands _ _ _ hplace hknown)⟩
  | none =>
    rw [hplace] at hkey
    have hnone : sibling? fields (Key.canonical name) = none := by simpa using hkey.symm
    rw [hnone] at h
    cases hslot : scope.slot? (Key.canonical name) with
    | some slot =>
      rw [hslot] at h
      obtain ⟨target, htarget, hdenotes⟩ := denotes_of_slot h
      exact ⟨target, htarget, hdenotes.mono hsteps⟩
    | none =>
      rw [hslot] at h
      cases hincluded : scope.included? (Key.canonical name) with
      | some found =>
        rw [hincluded] at h
        cases h
        refine denotes_of_included ?_ steps
        simpa only [Scope.included?, List.findSome?_pair, Config.values] using hincluded
      | none =>
        rw [hincluded] at h
        cases h

/-- Going down a value by names is the beginning of a walk. -/
theorem walk_of_descend {segments walked keys : List String} {value found : Value}
    (h : Evaluation.descend segments walked keys value = .ok found) (path : List String) :
    Lookup.walk (keys.map Key.canonical ++ path) value = Lookup.walk path found := by
  induction keys generalizing walked value with
  | nil =>
    cases h
    rfl
  | cons key keys ih =>
    unfold Evaluation.descend at h
    cases value with
    | object entries =>
      cases hnext : Entries.get? (Key.canonical key) entries with
      | none => simp [Value.member?, hnext] at h
      | some next =>
        simp only [Value.member?, hnext] at h
        simp only [List.map_cons, List.cons_append, Lookup.walk, Lookup.child, hnext]
        exact ih h
    | _ => cases h

/-- A path may be followed from a target to a value, in at most so many steps after the first. -/
def Reaches (scope : Scope) (steps : Nat) (target : Target) (path : List String) (found : Value) :
    Prop :=
  ∃ value, Denotes scope steps target value ∧ Lookup.walk path value = .ok (some found)

/-- A reference leads to where the rest of a path goes on from. -/
theorem reaches_of_reference {fields : Siblings} {places : List (String × Site)}
    {depth steps : Nat} {operand : Operand} {value found : Value} {path keys : List String}
    {target : Option Target} (hbacked : Backed scope steps fields places)
    (hsteps : settledWeight scope depth ≤ steps)
    (hvalue : Evaluation.operandValue scope (Bare.effectsAt scope depth) fields operand =
      .value value)
    (href : reference? scope places operand = some (target, keys))
    (hwalk : Lookup.walk path value = .ok (some found)) :
    ∃ next, target = some next ∧ Reaches scope steps next (keys ++ path) found := by
  cases operand with
  | name name range =>
    cases href
    obtain ⟨next, hnext, hdenotes⟩ := denotes_of_name hbacked hsteps hvalue
    exact ⟨next, hnext, value, hdenotes, hwalk⟩
  | path head next rest range =>
    obtain ⟨led, hled, hvalue⟩ := Outcome.bind_eq_value_iff.1 hvalue
    cases led with
    | error fault => cases hvalue
    | ok led =>
      cases hvalue
      simp only [reference?] at href
      simp only [Evaluation.pathValue] at hled
      cases halias : Entries.get? (Key.canonical head) scope.aliases with
      | some config =>
        rw [halias] at href hled
        cases href
        dsimp only at hled
        have hkey := denotes_of_key (.inr ⟨_, halias⟩) (Key.canonical next) [.items, .globals] steps
        have hmember : ([.items, .globals].findSome? fun space =>
            Entries.get? (Key.canonical next) (config.values space)) = config.member? next := by
          rw [List.findSome?_pair]
          rfl
        rw [hmember] at hkey
        cases hvalue : config.member? next with
        | none =>
          rw [hvalue] at hled
          cases hled
        | some value =>
          rw [hvalue] at hled hkey
          obtain ⟨onto, honto, hdenotes⟩ := hkey
          exact ⟨onto, honto, value, hdenotes,
            (walk_of_descend (Outcome.value.inj hled) path).trans hwalk⟩
      | none =>
        rw [halias] at href hled
        cases href
        dsimp only at hled
        split at hled
        · obtain ⟨value, hvalue, hdescend⟩ := Outcome.bind_eq_value_iff.1 hled
          obtain ⟨onto, honto, hdenotes⟩ := denotes_of_name hbacked hsteps hvalue
          exact ⟨onto, honto, value, hdenotes,
            (walk_of_descend (Outcome.value.inj hdescend) path).trans hwalk⟩
        · cases hled
  | _ => cases href

/-! ## What makes a value -/

/-- An expression that makes a value of its own: it neither refers to one nor chooses one. -/
def IsMaker : ValueExpr → Prop
  | .operand (.name ..) | .operand (.path ..) | .conditional .. => False
  | _ => True

/-- What stands at a range of a document makes a value: it comes to that value among the fields
around it. -/
inductive Makes (scope : Scope) : TextRange → Value → Prop
  | value {expr : ValueExpr} {fields : Siblings} {value : Value} {depth : Nat} :
      Placed scope (.value expr) fields → IsMaker expr →
      Evaluation.value scope (Bare.effectsAt scope depth) fields expr = .value value →
      Makes scope expr.range value
  /-- A choice without a second value is null. -/
  | null {condition : Condition} {thenValue : ValueExpr} {range : TextRange} {fields : Siblings}
      {depth : Nat} : Placed scope (.value (.conditional condition thenValue none range)) fields →
      Evaluation.holds scope (Bare.effectsAt scope depth) fields condition = .value false →
      Makes scope range .null
  | block {children : List Member} {range : TextRange} {fields : Siblings} {path : List String}
      {inner : Entries Value} {depth : Nat} : Placed scope (.block children range) fields →
      Evaluation.members scope (Bare.effectsAt scope depth) path [] children = .value inner →
      Makes scope range (.object inner)

/-- The items of an array are the values of its expressions. -/
theorem getElem?_of_values {fields : Siblings} {depth : Nat} {exprs : List ValueExpr}
    {values : List Value}
    (h : Evaluation.values scope (Bare.effectsAt scope depth) fields exprs = .value values)
    {index : Nat} {value : Value} (hvalue : values[index]? = some value) :
    ∃ expr, exprs[index]? = some expr ∧
      Evaluation.value scope (Bare.effectsAt scope depth) fields expr = .value value := by
  induction exprs generalizing values index with
  | nil =>
    cases h
    simp at hvalue
  | cons expr exprs ih =>
    obtain ⟨first, hfirst, h⟩ := Outcome.bind_eq_value_iff.1 h
    obtain ⟨others, hothers, h⟩ := Outcome.bind_eq_value_iff.1 h
    cases h
    cases index with
    | zero =>
      cases hvalue
      exact ⟨expr, rfl, hfirst⟩
    | succ index => exact ih hothers hvalue

/-- A path goes into an array by the position of an item. -/
theorem exists_item {fields : Siblings} {depth : Nat} {exprs : List ValueExpr}
    {values : List Value}
    (h : Evaluation.values scope (Bare.effectsAt scope depth) fields exprs = .value values)
    {segment : String} {path : List String} {found : Value}
    (hwalk : Lookup.walk (segment :: path) (.array values) = .ok (some found)) :
    ∃ expr value, item? exprs segment = some expr ∧ expr ∈ exprs ∧
      Evaluation.value scope (Bare.effectsAt scope depth) fields expr = .value value ∧
      Lookup.walk path value = .ok (some found) := by
  simp only [Lookup.walk, Lookup.child] at hwalk
  split at hwalk
  · unfold item?
    cases hindex : Numeral.readInt segment with
    | error fault =>
      rw [hindex] at hwalk
      cases hwalk
    | ok index =>
      rw [hindex] at hwalk
      cases hvalue : values[index.toNat]? with
      | none =>
        simp [hvalue, bind, Except.bind, pure, Except.pure] at hwalk
      | some value =>
        obtain ⟨expr, hexpr, hcomes⟩ := getElem?_of_values h hvalue
        refine ⟨expr, value, hexpr, List.mem_of_getElem? hexpr, hcomes, ?_⟩
        simpa [hvalue, bind, Except.bind, pure, Except.pure] using hwalk
  · cases hwalk

/-- No path goes into a value without parts. -/
theorem eq_nil_of_walk {value found : Value} {path : List String}
    (hleaf : ∀ segment, Lookup.child segment value = .ok none)
    (hwalk : Lookup.walk path value = .ok (some found)) : path = [] := by
  cases path with
  | nil => rfl
  | cons segment path =>
    rw [Lookup.walk, hleaf] at hwalk
    cases hwalk

/-- An operand that is no reference makes a value without parts. -/
theorem isMaker_of_operand {fields : Siblings} {places : List (String × Site)} {depth : Nat}
    {operand : Operand} {value : Value}
    (hvalue : Evaluation.operandValue scope (Bare.effectsAt scope depth) fields operand =
      .value value) (href : reference? scope places operand = none) :
    IsMaker (.operand operand) ∧ ∀ segment, Lookup.child segment value = .ok none := by
  cases operand with
  | literal scalar range =>
    cases hvalue
    exact ⟨trivial, fun segment => by cases scalar <;> rfl⟩
  | interpolated pieces range =>
    obtain ⟨text, -, hvalue⟩ := Outcome.bind_eq_value_iff.1 hvalue
    cases hvalue
    exact ⟨trivial, fun _ => rfl⟩
  | host ref =>
    refine ⟨trivial, fun segment => ?_⟩
    cases ref with
    | env name range =>
      cases hvalue
      cases scope.services.environment name <;> rfl
    | sys key range =>
      obtain ⟨text, -, hvalue⟩ := Outcome.bind_eq_value_iff.1 hvalue
      cases hvalue
      rfl
  | name name range => cases href
  | path head next rest range =>
    simp only [reference?] at href
    split at href <;> cases href

theorem child_of_pattern {fields : Siblings} {depth : Nat} {pattern : String} {range : TextRange}
    {value : Value}
    (h : Evaluation.value scope (Bare.effectsAt scope depth) fields (.rawString pattern range) =
      .value value) (segment : String) : Lookup.child segment value = .ok none := by
  simp only [Evaluation.value, Bare.effectsAt, Bare.effects] at h
  split at h <;> cases h
  rfl

/-! ## Steps -/

/-- The answer of a search for the origin of a value: the value is made there, or the answer is
that of a key of another configuration that has the value. -/
inductive Answers (scope : Scope) (onward : Onward) (found : Value) : Option Origin → Prop
  | made {range : TextRange} : Makes scope range found →
      Answers scope onward found (some ⟨scope.source.path, range⟩)
  | elsewhere {config : Config} {space : Namespace} {key : String} {path : List String}
      {value : Value} : scope.HasGathered config →
      Entries.get? key (config.values space) = some value →
      Lookup.walk path value = .ok (some found) →
      Answers scope onward found (onward config space (key :: path))

/-- A step arrives at a value: the search ends with the right answer, or the path goes on to the
value with fewer steps left. -/
inductive Arrives (scope : Scope) (onward : Onward) (found : Value) (steps : Nat) : Step → Prop
  | ended {origin : Option Origin} : Answers scope onward found origin →
      Arrives scope onward found steps (.ended origin)
  | onward {target : Target} {path : List String} {fewer : Nat} : fewer < steps →
      Reaches scope fewer target path found →
      Arrives scope onward found steps (.onward target path)

variable {found : Value} (onward : Onward)

/-- A path that goes into a block goes on from the place of a field. -/
theorem step_block {children : List Member} {range : TextRange} {fields : Siblings}
    {places : List (String × Site)} {path above : List String} {inner : Entries Value}
    {memory : Memory} {depth steps : Nat} (hmemory : memory.Faithful scope)
    (hplaced : Placed scope (.block children range) fields)
    (hinner : Evaluation.members scope (Bare.effectsAt scope depth) above [] children =
      .value inner) (hsteps : Member.weightAll children + settledWeight scope depth < steps)
    (hwalk : Lookup.walk path (.object inner) = .ok (some found)) :
    ∃ next after, step scope onward (.here ⟨.block children range, fields, places⟩) path memory =
      .ok next after ∧ after.Faithful scope ∧ Arrives scope onward found steps next := by
  cases path with
  | nil =>
    cases hwalk
    exact ⟨_, memory, rfl, hmemory, .ended (.made (.block hplaced hinner))⟩
  | cons key rest =>
    obtain ⟨settled, after, hrun, hafter, hkeys, hstands⟩ := settle_ok hmemory
      (.nil (fun _ => rfl) _) (Nat.le_refl _) (fun _ _ => .member hplaced) hinner
    refine ⟨_, after, bind_eq_ok_iff.2 ⟨_, after, hrun, rfl⟩, hafter, ?_⟩
    have hkey := hkeys key
    simp only [Lookup.walk, Lookup.child] at hwalk
    cases hvalue : Entries.get? key inner with
    | none =>
      rw [hvalue] at hwalk
      cases hwalk
    | some value =>
      rw [hvalue] at hwalk
      simp only [sibling?, Option.bind_some, hvalue] at hkey hstands
      obtain ⟨site, hsite⟩ := Option.isSome_iff_exists.1 hkey
      rw [hsite]
      exact .onward (by omega) ⟨value, .here (hstands key site value hsite hvalue), hwalk⟩

/-- A path that goes into an expression ends there, or it goes on from a part of the expression
or from what the expression refers to. -/
theorem step_value {expr : ValueExpr} {fields : Siblings} {places : List (String × Site)}
    {path : List String} {value : Value} {memory : Memory} {depth around steps : Nat}
    (hmemory : memory.Faithful scope) (hplaced : Placed scope (.value expr) fields)
    (hvalue : Evaluation.value scope (Bare.effectsAt scope depth) fields expr = .value value)
    (hbacked : Backed scope around fields places) (haround : settledWeight scope depth ≤ around)
    (hsteps : around + expr.weight ≤ steps)
    (hwalk : Lookup.walk path value = .ok (some found)) :
    ∃ next after, step scope onward (.here ⟨.value expr, fields, places⟩) path memory =
      .ok next after ∧ after.Faithful scope ∧ Arrives scope onward found steps next := by
  cases expr with
  | operand operand =>
    simp only [step]
    cases href : reference? scope places operand with
    | some led =>
      obtain ⟨target, keys⟩ := led
      obtain ⟨next, rfl, hreaches⟩ := reaches_of_reference hbacked haround hvalue href hwalk
      have hweight := (ValueExpr.operand operand).weight_pos
      exact ⟨_, memory, rfl, hmemory, .onward (by omega) hreaches⟩
    | none =>
      obtain ⟨hmaker, hleaf⟩ := isMaker_of_operand hvalue href
      obtain rfl := eq_nil_of_walk hleaf hwalk
      cases hwalk
      exact ⟨_, memory, rfl, hmemory, .ended (.made (.value hplaced hmaker hvalue))⟩
  | rawString pattern range =>
    obtain rfl := eq_nil_of_walk (child_of_pattern hvalue) hwalk
    cases hwalk
    exact ⟨_, memory, rfl, hmemory, .ended (.made (.value hplaced trivial hvalue))⟩
  | array items range =>
    obtain ⟨values, hvalues, hvalue'⟩ := Outcome.bind_eq_value_iff.1 hvalue
    cases hvalue'
    cases path with
    | nil =>
      cases hwalk
      exact ⟨_, memory, rfl, hmemory, .ended (.made (.value hplaced trivial hvalue))⟩
    | cons segment rest =>
      obtain ⟨expr, value, hexpr, hmem, hcomes, hwalk⟩ := exists_item hvalues hwalk
      have hweight := ValueExpr.weight_le_weightAll hmem
      rw [ValueExpr.weight] at hsteps
      refine ⟨_, memory, rfl, hmemory, ?_⟩
      rw [hexpr]
      exact .onward (by omega)
        ⟨value, .here (.value (hplaced.item hmem) hcomes hbacked haround (Nat.le_refl _)), hwalk⟩
  | conditional condition thenValue elseValue range =>
    obtain ⟨chosen, hchosen, hvalue⟩ := Outcome.bind_eq_value_iff.1 hvalue
    obtain ⟨after, hrun, hafter⟩ := holds_ok hmemory hchosen
    rw [ValueExpr.weight] at hsteps
    cases chosen with
    | true =>
      have hthen := hplaced.choice hchosen rfl
      exact ⟨_, after, bind_eq_ok_iff.2 ⟨true, after, hrun, rfl⟩, hafter, .onward (by omega)
        ⟨value, .here (.value hthen hvalue hbacked haround (Nat.le_refl _)), hwalk⟩⟩
    | false =>
      cases elseValue with
      | some expr =>
        have helse := hplaced.choice hchosen rfl
        rw [ValueExpr.weightOption] at hsteps
        exact ⟨_, after, bind_eq_ok_iff.2 ⟨false, after, hrun, rfl⟩, hafter, .onward (by omega)
          ⟨value, .here (.value helse hvalue hbacked haround (Nat.le_refl _)), hwalk⟩⟩
      | none =>
        cases hvalue
        obtain rfl := eq_nil_of_walk (fun _ => rfl) hwalk
        cases hwalk
        exact ⟨_, after, bind_eq_ok_iff.2 ⟨false, after, hrun, rfl⟩, hafter,
          .ended (.made (.null hplaced hchosen))⟩

/-- One step along a path keeps the value at its end, and fewer steps are left. -/
theorem step_arrives {target : Target} {path : List String} {memory : Memory} {steps : Nat}
    (hmemory : memory.Faithful scope) (h : Reaches scope steps target path found) :
    ∃ next after, step scope onward target path memory = .ok next after ∧
      after.Faithful scope ∧ Arrives scope onward found steps next := by
  obtain ⟨value, hdenotes, hwalk⟩ := h
  cases hdenotes with
  | elsewhere hgathered hvalue =>
    exact ⟨_, memory, rfl, hmemory, .ended (.elsewhere hgathered hvalue hwalk)⟩
  | here hstands =>
    cases hstands with
    | value hplaced hvalue hbacked haround hsteps =>
      exact step_value onward hmemory hplaced hvalue hbacked haround hsteps hwalk
    | block hplaced hinner hsteps => exact step_block onward hmemory hplaced hinner hsteps hwalk

/-- A path that has few enough steps is followed to an answer. -/
theorem follow_answers {target : Target} {path : List String} {memory : Memory} {steps fuel : Nat}
    (hmemory : memory.Faithful scope) (h : Reaches scope steps target path found)
    (hfuel : steps < fuel) :
    ∃ origin after, follow scope onward fuel target path memory = .ok origin after ∧
      Answers scope onward found origin := by
  induction fuel generalizing target path memory steps with
  | zero => omega
  | succ fuel ih =>
    obtain ⟨next, after, hrun, hafter, harrives⟩ := step_arrives onward hmemory h
    cases harrives with
    | ended hanswers =>
      exact ⟨_, after, bind_eq_ok_iff.2 ⟨_, after, hrun, rfl⟩, hanswers⟩
    | onward hfewer hreaches =>
      obtain ⟨origin, last, hrest, hanswers⟩ := ih hafter hreaches (by omega)
      exact ⟨origin, last, bind_eq_ok_iff.2 ⟨_, after, hrun, hrest⟩, hanswers⟩

/-- The origin that is found makes the value at the end of the path, or it is that of a key of
another configuration that has the value.  The document weighs enough for all steps. -/
theorem found?_answers {target : Target} {path : List String} {steps : Nat}
    (h : Reaches scope steps target path found) (hsteps : steps ≤ target.weight + scope.weight) :
    Answers scope onward found (found? scope onward target path) := by
  obtain ⟨origin, after, hrun, hanswers⟩ := follow_answers onward
    (Memory.faithful_fresh (Resources.truthful_fresh _)) h (Nat.lt_succ_of_le hsteps)
  rw [found?, hrun]
  exact hanswers

/-- More fuel than there are steps makes no difference. -/
theorem follow_eq {target : Target} {path : List String} {memory : Memory}
    {steps fuel fuel' : Nat} (hmemory : memory.Faithful scope)
    (h : Reaches scope steps target path found) (hfuel : steps < fuel) (hfuel' : steps < fuel') :
    follow scope onward fuel target path memory =
      follow scope onward fuel' target path memory := by
  induction fuel generalizing target path memory steps fuel' with
  | zero => omega
  | succ fuel ih =>
    cases fuel' with
    | zero => omega
    | succ fuel' =>
      obtain ⟨next, after, hrun, hafter, harrives⟩ := step_arrives onward hmemory h
      simp only [follow, bind, EStateM.bind, hrun]
      cases harrives with
      | ended => rfl
      | onward hfewer hreaches => exact ih hafter hreaches (by omega) (by omega)

/-- A top-level reference hands on what it leads to: the origin is found where the path goes on
from. -/
theorem found?_reference {operand : Operand} {value : Value} {path keys : List String}
    {target : Option Target} {depth : Nat}
    (hvalue : Evaluation.operandValue scope (Bare.effectsAt scope depth) none operand =
      .value value) (hwalk : Lookup.walk path value = .ok (some found))
    (href : reference? scope [] operand = some (target, keys)) :
    ∃ next, target = some next ∧
      found? scope onward (.here (.top (.value (.operand operand)))) path =
        found? scope onward next (keys ++ path) := by
  obtain ⟨next, rfl, hreaches⟩ := reaches_of_reference (.nil (fun _ => rfl) _) (Nat.le_refl _)
    hvalue href hwalk
  refine ⟨next, rfl, ?_⟩
  have hsteps := settledWeight_le scope depth
  have hmemory : (Memory.fresh .fresh).Faithful scope :=
    Memory.faithful_fresh (Resources.truthful_fresh _)
  have hfirst : follow scope onward (1 + scope.weight + 1)
      (.here (.top (.value (.operand operand)))) path (.fresh .fresh) =
      follow scope onward (1 + scope.weight) next (keys ++ path) (.fresh .fresh) := by
    simp only [follow, step, Site.top, href, Step.toward]
    rfl
  have hrest : follow scope onward (1 + scope.weight) next (keys ++ path) (.fresh .fresh) =
      follow scope onward (next.weight + scope.weight + 1) next (keys ++ path) (.fresh .fresh) :=
    follow_eq onward hmemory hreaches (by omega) (by omega)
  have hweight : (Target.here (.top (.value (.operand operand)))).weight = 1 := rfl
  rw [found?, found?, hweight, hfirst, hrest]

end Origin

end Rune
