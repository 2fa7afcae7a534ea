import LocalePaths.Proofs.Filter.History

/-!
# Decisions without the tree

What is decided about a file follows from the configurations of the include tree one after another, each
after those that it includes (`ProjectConfig.flat`): the first exclude that makes the file an error
decides it, and else the strongest of the actions that the configurations declare themselves. Failures
come in this order too. The tree can be left out because no configuration that is included excludes
any (`ProjectConfig.Layered`).
-/

namespace LocalePaths

namespace ProjectConfig

/-! ### Included configurations exclude none -/

/-- None of the configurations, or of those that they include, excludes any. -/
def ExcludeNone (cs : List ProjectConfig) : Prop := ∀ d ∈ configsOf cs, d.excludes = []

/-- What is included or excluded does not exclude any. -/
def Layered (c : ProjectConfig) : Prop := ExcludeNone c.includes ∧ ExcludeNone c.excludes

section
variable {c d child : ProjectConfig} {cs : List ProjectConfig}

theorem excludeNone_cons : ExcludeNone (c :: cs) ↔
    (c.excludes = [] ∧ ExcludeNone c.includes) ∧ ExcludeNone cs := by
  obtain ⟨own, includes, excludes⟩ := c
  simp only [ExcludeNone, configsOf, configs, List.forall_mem_append, List.forall_mem_cons]
  exact Iff.rfl

theorem ExcludeNone.of_mem (h : ExcludeNone cs) (hc : c ∈ cs) :
    c.excludes = [] ∧ ExcludeNone c.includes := by
  induction cs with
  | nil => cases hc
  | cons d cs ih =>
    obtain ⟨hd, hcs⟩ := excludeNone_cons.1 h
    rcases List.mem_cons.1 hc with rfl | hc
    · exact hd
    · exact ih hcs hc

theorem ExcludeNone.append_child (h : ExcludeNone cs) (he : child.excludes = [])
    (hi : ExcludeNone child.includes) : ExcludeNone (cs ++ [child]) := by
  induction cs with
  | nil => exact excludeNone_cons.2 ⟨⟨he, hi⟩, nofun⟩
  | cons c cs ih =>
    obtain ⟨hc, hcs⟩ := excludeNone_cons.1 h
    exact excludeNone_cons.2 ⟨hc, ih hcs⟩

theorem layered_ofPath (path : Option Text) : (ofPath path).Layered := ⟨nofun, nofun⟩

theorem excludeNone_bareAll : ExcludeNone (bareAll cs) ↔ ExcludeNone cs := by
  have empty : ∀ d : ProjectConfig, d.bare.excludes = [] ↔ d.excludes = [] := fun d => by
    rw [← List.isEmpty_iff, isEmpty_excludes_bare, List.isEmpty_iff]
  simp only [ExcludeNone, configsOf_bareAll, List.forall_mem_map, empty]

theorem layered_bare (c : ProjectConfig) : c.bare.Layered ↔ c.Layered := by
  obtain ⟨own, includes, excludes⟩ := c
  exact and_congr excludeNone_bareAll excludeNone_bareAll

theorem Layered.modifyOwn (h : c.Layered) (f : Settings → Settings) : (c.modifyOwn f).Layered := by
  cases c
  exact h

theorem Layered.addChild (h : c.Layered) (hc : child.Layered) :
    ((Edit.addChild child).after c).Layered := by
  rw [Edit.after_addChild]
  split
  · rename_i he
    exact ⟨h.1.append_child (List.isEmpty_iff.1 he) hc.1, h.2⟩
  · exact h

theorem Layered.exclude (h : c.Layered) : ((Edit.exclude child).after c).Layered := by
  rw [Edit.after_exclude]
  split
  · rename_i he
    have none : ExcludeNone [child] := by
      simpa [ExcludeNone, configsOf] using he
    obtain ⟨⟨he, hi⟩, -⟩ := excludeNone_cons.1 none
    exact ⟨h.1, h.2.append_child he hi⟩
  · exact h

theorem excludes_setLocalesDeep (locales : List Text) (c : ProjectConfig) :
    (c.setLocalesDeep locales).excludes = c.excludes := by
  cases c
  rfl

mutual

/-- Setting the locales deeply sets those of every configuration of the include tree, and changes nothing
else of any of them but what has been computed. -/
theorem configs_setLocalesDeep (locales : List Text) : ∀ c : ProjectConfig,
    (c.setLocalesDeep locales).configs.map (fun d => (d.own, d.excludes)) =
      c.configs.map fun d => ({ d.own with locales := some locales }.invalidate, d.excludes)
  | node _ includes _ => congrArg (_ :: ·) (configsOf_setLocalesOf locales includes)

theorem configsOf_setLocalesOf (locales : List Text) : ∀ cs : List ProjectConfig,
    (configsOf (setLocalesOf locales cs)).map (fun d => (d.own, d.excludes)) =
      (configsOf cs).map fun d => ({ d.own with locales := some locales }.invalidate, d.excludes)
  | [] => rfl
  | c :: cs => by
    rw [setLocalesOf, configsOf, configsOf, List.map_append, List.map_append,
      configs_setLocalesDeep locales c, configsOf_setLocalesOf locales cs]

end

theorem ExcludeNone.setLocalesOf (h : ExcludeNone cs) (locales : List Text) :
    ExcludeNone (setLocalesOf locales cs) := by
  have same := congrArg (List.map Prod.snd) (configsOf_setLocalesOf locales cs)
  rw [List.map_map, List.map_map] at same
  have none : ∀ ds ∈ (configsOf (ProjectConfig.setLocalesOf locales cs)).map excludes, ds = [] :=
    same ▸ List.forall_mem_map.2 h
  exact List.forall_mem_map.1 none

theorem ExcludeNone.includes_setLocalesDeep (h : ExcludeNone c.includes) (locales : List Text) :
    ExcludeNone (c.setLocalesDeep locales).includes := by
  cases c
  exact h.setLocalesOf locales

theorem Layered.setLocales (h : c.Layered) (locales : List Text) (deep : Bool) :
    (c.setLocales locales deep).Layered := by
  cases deep with
  | true =>
    refine ⟨h.1.includes_setLocalesDeep locales, ?_⟩
    rw [ProjectConfig.setLocales, if_pos rfl, excludes_setLocalesDeep]
    exact h.2
  | false => exact h.modifyOwn _

theorem Layered.own (h : c.Layered) (dir : Option Text) (change : Change) (own : change.IsOwn) :
    ((perform dir change).after c).Layered := by
  obtain ⟨f, changed⟩ := after_own own dir c
  rw [changed]
  exact h.modifyOwn f

theorem Layered.at? : ∀ {place : List Part} {c d : ProjectConfig}, c.Layered →
    at? place c = some d → d.Layered
  | [], _, _, h, e => Option.some.inj e ▸ h
  | .included i :: place, node _ includes _, d, h, e => by
    obtain ⟨c, hc, e⟩ := Option.bind_eq_some_iff.1 e
    obtain ⟨he, hi⟩ := h.1.of_mem (List.mem_of_getElem? hc)
    exact Layered.at? ⟨hi, he ▸ nofun⟩ e
  | .excluded i :: place, node _ _ excludes, d, h, e => by
    obtain ⟨c, hc, e⟩ := Option.bind_eq_some_iff.1 e
    obtain ⟨he, hi⟩ := h.2.of_mem (List.mem_of_getElem? hc)
    exact Layered.at? ⟨hi, he ▸ nofun⟩ e

end

mutual

theorem Layered.step : ∀ (s : Step) {c : ProjectConfig}, c.Fresh → c.Layered → (step s c).Layered
  | .setRoot dir base, _, _, h => h.own dir (.setRoot base) trivial
  | .addEnvironment _, _, _, h => h.modifyOwn _
  | .addPaths dir ds, _, _, h => h.own dir (.addPaths ds) trivial
  | .addRules dir ds, _, _, h => h.own dir (.addRules ds) trivial
  | .addChild path steps, _, _, h =>
    h.addChild (Layered.stepAll steps (fresh_ofPath path) (layered_ofPath path))
  | .exclude _ _, _, _, h => h.exclude
  | .setLocales locales deep, _, _, h => h.setLocales locales deep
  | .filter place q, c, hc, h | .allLocales place, c, hc, h => by
    -- a question changes only what has been computed
    rw [← layered_bare, (step_spec _ hc).2]
    exact (layered_bare c).2 h

theorem Layered.stepAll : ∀ (ss : List Step) {c : ProjectConfig}, c.Fresh → c.Layered →
    (stepAll ss c).Layered
  | [], _, _, h => h
  | s :: ss, _, hc, h => Layered.stepAll ss (step_spec s hc).1 (Layered.step s hc h)

end

/-- The configurations that can be made, and those that they include or exclude. -/
def Reachable (c : ProjectConfig) : Prop :=
  ∃ path steps place, at? place (run path steps) = some c

theorem Reachable.fresh {c : ProjectConfig} (h : c.Reachable) : c.Fresh := by
  obtain ⟨path, steps, place, h⟩ := h
  exact (run_spec path steps).1.at? h

theorem Reachable.layered {c : ProjectConfig} (h : c.Reachable) : c.Layered := by
  obtain ⟨path, steps, place, h⟩ := h
  exact (Layered.stepAll steps (fresh_ofPath path) (layered_ofPath path)).at? h

/-! ### The strongest action -/

@[simp] theorem none_strongest (b : Option FilterAction) : strongest none b = b := rfl

@[simp] theorem strongest_none (a : Option FilterAction) : strongest a none = a := by
  cases a <;> rfl

theorem strongest_assoc (a b c : Option FilterAction) :
    strongest (strongest a b) c = strongest a (strongest b c) := by
  cases a with
  | none => rfl
  | some a =>
    cases b with
    | none => rfl
    | some b =>
      cases c with
      | none => rfl
      | some c => cases a <;> cases b <;> cases c <;> rfl

/-- The strongest of some actions, each of which may be none. -/
def strongestOf (as : List (Option FilterAction)) : Option FilterAction := as.foldl strongest none

theorem foldl_strongest (a : Option FilterAction) (as : List (Option FilterAction)) :
    as.foldl strongest a = strongest a (strongestOf as) := by
  induction as generalizing a with
  | nil => exact (strongest_none a).symm
  | cons b as ih =>
    rw [strongestOf, List.foldl_cons, List.foldl_cons, ih, ih, strongest_assoc, none_strongest]

theorem strongestOf_append (as bs : List (Option FilterAction)) :
    strongestOf (as ++ bs) = strongest (strongestOf as) (strongestOf bs) := by
  rw [strongestOf, List.foldl_append, foldl_strongest]
  rfl

def strength : Option FilterAction → Nat
  | none => 0
  | some a => a.rank + 1

theorem strongest_eq (a b : Option FilterAction) :
    strongest a b = if strength a ≤ strength b then b else a := by
  cases a with
  | none => rfl
  | some a =>
    cases b with
    | none => rfl
    | some b => cases a <;> cases b <;> rfl

/-! ### The include tree in order -/

mutual

/-- What the configuration and those that it includes declare, each after those that it includes. -/
def postorder : ProjectConfig → List Settings
  | node own includes _ => postorderAll includes ++ [own]

def postorderAll : List ProjectConfig → List Settings
  | [] => []
  | c :: cs => postorder c ++ postorderAll cs

end

mutual

theorem postorder_perm : ∀ c : ProjectConfig, c.postorder.Perm (c.configs.map ProjectConfig.own)
  | node own includes _ => List.perm_append_comm.trans ((postorderAll_perm includes).cons own)

theorem postorderAll_perm : ∀ cs : List ProjectConfig,
    (postorderAll cs).Perm ((configsOf cs).map ProjectConfig.own)
  | [] => .nil
  | c :: cs => by
    rw [postorderAll, configsOf, List.map_append]
    exact (postorder_perm c).append (postorderAll_perm cs)

end

/-- The strongest of the actions that are declared, or the first failure. -/
def strongestDeclared (q : FilterQuery) (ss : List Settings) :
    Except FilterError (Option FilterAction) :=
  strongestOf <$> ss.mapM fun s => s.declaredAction q

theorem strongestDeclared_append (q : FilterQuery) (ss ts : List Settings) :
    strongestDeclared q (ss ++ ts) = do
      return strongest (← strongestDeclared q ss) (← strongestDeclared q ts) := by
  unfold strongestDeclared
  rw [List.mapM_append]
  cases ss.mapM fun s => s.declaredAction q with
  | error e => rfl
  | ok as =>
    cases ts.mapM fun s => s.declaredAction q with
    | error e => rfl
    | ok bs => exact congrArg Except.ok (strongestOf_append as bs)

theorem strongestDeclared_singleton (q : FilterQuery) (s : Settings) :
    strongestDeclared q [s] = s.declaredAction q := by
  unfold strongestDeclared
  rw [List.mapM_cons]
  cases s.declaredAction q <;> rfl

theorem strongestDeclared_cons (q : FilterQuery) (s : Settings) (ss : List Settings) :
    strongestDeclared q (s :: ss) = do
      return strongest (← s.declaredAction q) (← strongestDeclared q ss) := by
  rw [← strongestDeclared_singleton, ← strongestDeclared_append]
  rfl

theorem strongestDeclared_eq_ok {q : FilterQuery} : ∀ {ss : List Settings} {a : Option FilterAction},
    strongestDeclared q ss = .ok a →
      (a = none ∨ ∃ s ∈ ss, s.declaredAction q = .ok a) ∧
        ∀ s ∈ ss, ∃ b, s.declaredAction q = .ok b ∧ strength b ≤ strength a
  | [], a, h => by
    cases h
    exact ⟨.inl rfl, nofun⟩
  | s :: ss, a, h => by
    rw [strongestDeclared_cons] at h
    obtain ⟨b, hs, h⟩ := bind_eq_ok_iff.1 h
    obtain ⟨d, hss, h⟩ := bind_eq_ok_iff.1 h
    obtain rfl : strongest b d = a := Except.ok.inj h
    obtain ⟨among, bound⟩ := strongestDeclared_eq_ok hss
    rw [strongest_eq]
    split
    · rename_i weaker
      refine ⟨among.imp_right fun ⟨t, ht, eq⟩ => ⟨t, List.mem_cons_of_mem s ht, eq⟩, ?_⟩
      exact List.forall_mem_cons.2 ⟨⟨b, hs, weaker⟩, bound⟩
    · rename_i stronger
      refine ⟨.inr ⟨s, List.mem_cons_self, hs⟩, ?_⟩
      refine List.forall_mem_cons.2 ⟨⟨b, hs, Nat.le_refl _⟩, fun t ht => ?_⟩
      obtain ⟨f, eq, le⟩ := bound t ht
      exact ⟨f, eq, by omega⟩

mutual

/-- Without excludes the answer is the strongest action declared in the include tree. -/
theorem answer_eq_strongestDeclared (q : FilterQuery) : ∀ c : ProjectConfig, c.excludes = [] →
    ExcludeNone c.includes → answer false q c = strongestDeclared q c.postorder
  | node own includes excludes, he, hi => by
    obtain rfl : excludes = [] := he
    have below := answerIncludes_eq_strongestDeclared q none includes hi
    rw [postorder, strongestDeclared_append, strongestDeclared_singleton]
    show (do
      let below ← answerIncludes q none includes
      return strongest below (← own.declaredAction q)) = _
    rw [below]
    cases strongestDeclared q (postorderAll includes) <;> rfl

theorem answerIncludes_eq_strongestDeclared (q : FilterQuery) (above : Option FilterAction) :
    ∀ cs : List ProjectConfig, ExcludeNone cs →
      answerIncludes q above cs = strongest above <$> strongestDeclared q (postorderAll cs)
  | [], _ => congrArg Except.ok (strongest_none above).symm
  | c :: cs, h => by
    obtain ⟨⟨he, hi⟩, hcs⟩ := excludeNone_cons.1 h
    have first := answer_eq_strongestDeclared q c he hi
    have later := fun a => answerIncludes_eq_strongestDeclared q (strongest above a) cs hcs
    rw [answerIncludes, postorderAll, strongestDeclared_append, first]
    cases strongestDeclared q (postorder c) with
    | error e => rfl
    | ok a =>
      refine (later a).trans ?_
      cases strongestDeclared q (postorderAll cs) with
      | error e => rfl
      | ok b => exact congrArg Except.ok (strongest_assoc above a b)

end

/-! ### The flat definition -/

/-- Whether a file is an error for a configuration, whatever the entity. -/
def claims (q : FilterQuery) (x : ProjectConfig) : Except FilterError Bool :=
  (fun action => decide (action = .error)) <$> (x.filter { q with entity := none }).value.1

/-- What is decided about a file, from the excluded configurations one after another and then from the
include tree one after another. -/
def flat (q : FilterQuery) (c : ProjectConfig) : Except FilterError FilterAction := do
  if !c.allLocales.contains q.locale then return .ignore
  if ← c.excludes.anyM (claims q) then return .error
  return (← strongestDeclared q c.postorder).getD .ignore

theorem answerExcludes_eq_anyM (q : FilterQuery) : ∀ cs : List ProjectConfig, FreshAll cs →
    answerExcludes { q with entity := none } cs = cs.anyM (claims q)
  | [], _ => rfl
  | c :: cs, h => by
    have later := answerExcludes_eq_anyM q cs h.2
    rw [answerExcludes, List.anyM, claims, value_filter h.1]
    rcases answer true { q with entity := none } c with e | _ | action
    · rfl
    · exact later
    · cases action with
      | error => rfl
      | warning | ignore => exact later

/-- A file of a locale that is not among all locales is ignored before any pattern is looked at. -/
theorem filter_unknown {c : ProjectConfig} {q : FilterQuery}
    (h : c.allLocales.contains q.locale = false) : c.filter q =
      ⟨(.ok .ignore, c.learnLocales), [.filterDecision q.locale q.path q.entity .ignore]⟩ := by
  obtain ⟨own, includes, excludes⟩ := c
  unfold filter resolve
  simp only [h]
  rfl

/-- The decision about a file is the flat one on every configuration that can be made, and nothing is
evaluated for a locale that is not among all locales. -/
theorem filter_eq_flat {c : ProjectConfig} (h : c.Reachable) (q : FilterQuery) :
    (c.filter q).value.1 = c.flat q ∧ (c.allLocales.contains q.locale = false → c.filter q =
      ⟨(.ok .ignore, c.learnLocales), [.filterDecision q.locale q.path q.entity .ignore]⟩) := by
  refine ⟨?_, filter_unknown⟩
  have fresh := h.fresh
  obtain ⟨tree, -⟩ := h.layered
  obtain ⟨own, includes, excludes⟩ := c
  have below := answerIncludes_eq_strongestDeclared q none includes tree
  rw [value_filter fresh, flat, fresh.allLocales, answer, answerExcludes_eq_anyM q excludes fresh.2.2,
    postorder, strongestDeclared_append, strongestDeclared_singleton, below]
  cases (node own includes excludes).declaredLocales.contains q.locale with
  | false => rfl
  | true =>
    show Except.map _ (excludes.anyM (claims q) >>= _) = excludes.anyM (claims q) >>= _
    rcases excludes.anyM (claims q) with e | _ | _
    · rfl
    · cases strongestDeclared q (postorderAll includes) with
      | error e => rfl
      | ok a => cases own.declaredAction q <;> rfl
    · rfl

/-- A configuration that includes one with a weaker rule and excludes another. -/
def layers : ProjectConfig :=
  let group (l10n : Text) : Step := .addPaths none [⟨l10n, none, none, none, none⟩]
  run none [group "{locale}/mail/**".toList, .setLocales ["de".toList] true,
    .addChild none [group "{locale}/browser/**".toList,
      .addRules none [⟨.one "{locale}/browser/**".toList, .warning, none⟩]],
    .exclude none [group "{locale}/browser/old/**".toList, .setLocales ["de".toList] false]]

theorem layers_filter :
    (layers.filter ⟨"de".toList, "de/browser/a.ftl".toList, none⟩).value.1 = .ok .warning ∧
      (layers.filter ⟨"de".toList, "de/browser/old/a.ftl".toList, none⟩).value.1 = .ok .error ∧
      (layers.filter ⟨"fr".toList, "fr/browser/a.ftl".toList, none⟩).events =
        [.filterDecision "fr".toList "fr/browser/a.ftl".toList none .ignore] := by
  have reachable : layers.Reachable := ⟨_, _, [], rfl⟩
  have unknown := (filter_eq_flat reachable ⟨"fr".toList, "fr/browser/a.ftl".toList, none⟩).2
  exact ⟨(filter_eq_flat reachable _).1.trans (by decide +kernel),
    (filter_eq_flat reachable _).1.trans (by decide +kernel),
    congrArg Traced.events (unknown (by decide +kernel))⟩

end ProjectConfig

end LocalePaths
