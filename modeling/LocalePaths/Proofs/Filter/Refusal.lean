import LocalePaths.Proofs.Filter.Cells
import LocalePaths.Proofs.Filter.Flat

/-!
# Refused changes

A call that is refused leaves the configuration as it was, and every question afterwards is answered as if
there had been no call (`perform_refused`).

Rules are refused for the first key that is no expression, in the order in which the keys are declared
(`Edit.on_addRules_refused`). Nothing else can fail there, because roots are absolute (`Anchored`).
-/

namespace LocalePaths

namespace Edit
variable {c : ProjectConfig} {dir : Option Text} {e : FilterError}

theorem on_eq_error_iff {x : Edit Unit} : x.on c = .error e ↔ x.answer c = .error e := by
  unfold on
  cases x.answer c with
  | ok a => exact iff_of_false nofun nofun
  | error e' => exact ⟨fun h => by cases h; rfl, fun h => by cases h; rfl⟩

/-! ### Keys are tried in order -/

/-- The first key that is no expression. -/
def refusedKey? (keys : List Text) : Option Text :=
  keys.find? fun key => (KeyPattern.regexOf? key).isNone

def keysOf (keys : Option OneOrMany) : List Text := (keys.map OneOrMany.values).getD []

/-- The keys of declarations, in order of declarations, then of paths, then of keys. -/
def declaredKeys (ds : List RuleDeclaration) : List Text :=
  ds.flatMap fun d => d.path.values.flatMap fun _ => keysOf d.key

theorem keysOf_eq (action : FilterAction) (keys : Option OneOrMany) (path : Text) :
    keysOf keys = (RuleDeclaration.cellsAt action keys path).filterMap fun cell => cell.2.1 := by
  cases keys with
  | none => rfl
  | some keys =>
    rw [RuleDeclaration.cellsAt, List.filterMap_map]
    exact (List.filterMap_some ..).symm

theorem declaredKeys_eq (ds : List RuleDeclaration) :
    declaredKeys ds = (ds.flatMap RuleDeclaration.cells).filterMap fun cell => cell.2.1 := by
  simp only [declaredKeys, RuleDeclaration.cells, List.filterMap_flatMap, ← keysOf_eq]

/-- The rules for paths and keys are refused for the first key that is no expression, and for nothing
else. -/
theorem mapM_rule (s : Settings) (cwd : Text) : ∀ cells : List RuleDeclaration.Cell,
    match refusedKey? (cells.filterMap fun cell => cell.2.1) with
    | some key => cells.mapM (s.rule cwd) = .error (.invalidKey key)
    | none => ∃ rs, cells.mapM (s.rule cwd) = .ok rs
  | [] => ⟨[], rfl⟩
  | (path, none, action) :: cells => by
    have later := mapM_rule s cwd cells
    rw [List.mapM_cons]
    show match refusedKey? (cells.filterMap fun cell => cell.2.1) with | some key => _ | none => _
    split <;> rename_i refused <;> rw [refused] at later
    · rw [later]
      rfl
    · obtain ⟨rs, later⟩ := later
      rw [later]
      exact ⟨_, rfl⟩
  | (path, some key, action) :: cells => by
    have later := mapM_rule s cwd cells
    rw [List.mapM_cons]
    simp only [List.filterMap_cons, refusedKey?, List.find?_cons, Settings.rule, KeyPattern.of] at later ⊢
    cases KeyPattern.regexOf? key with
    | none => rfl
    | some regex =>
      simp only [Option.isNone_some]
      split <;> rename_i refused <;> rw [refused] at later
      · rw [later]
        rfl
      · obtain ⟨rs, later⟩ := later
        rw [later]
        exact ⟨_, rfl⟩

/-- Under a root that can be resolved, rules are refused for the first declared key that is no expression,
and for nothing else. -/
theorem on_addRules_refused (h : c.own.Located dir) {ds : List RuleDeclaration}
    (refused : (addRules dir ds).on c = .error e) :
    ∃ key, refusedKey? (declaredKeys ds) = some key ∧ e = .invalidKey key := by
  have tried := mapM_rule c.own (dir.getD []) (ds.flatMap RuleDeclaration.cells)
  rw [on_addRules_cells h] at refused
  rw [declaredKeys_eq]
  split at tried <;> rename_i found
  · rw [tried] at refused
    cases refused
    exact ⟨_, found, rfl⟩
  · obtain ⟨rs, tried⟩ := tried
    rw [tried] at refused
    cases refused

/-- With a current directory every root can be resolved. -/
theorem refused_with_directory {cwd : Text} {change : ProjectConfig.Change}
    (refused : (ProjectConfig.perform (some cwd) change).answer c = .error e) :
    (∃ key, e = .invalidKey key) ∨ e = .includedExcludes ∨ e = .excludedExcludes := by
  rw [← on_eq_error_iff] at refused
  have located := Settings.located_some cwd c.own
  cases change with
  | setRoot base =>
    rw [ProjectConfig.perform, on_setRoot, Settings.value_rootAt] at refused
    cases refused
  | addPaths ds =>
    have each : ∀ d ∈ ds, ∃ g, Checked.value (c.own.group (some cwd) d) = .ok g := fun d _ =>
      ⟨_, Settings.value_group located d⟩
    obtain ⟨groups, made⟩ := exists_mapM_eq_ok each
    rw [ProjectConfig.perform, on_addPaths, made] at refused
    cases refused
  | addRules ds =>
    obtain ⟨key, -, rfl⟩ := on_addRules_refused located refused
    exact .inl ⟨key, rfl⟩
  | addChild child =>
    have refused : (addChild child).on c = .error e := refused
    unfold addChild at refused
    split at refused
    · cases refused
    · cases refused
      exact .inr (.inl rfl)
  | exclude child =>
    have refused : (exclude child).on c = .error e := refused
    unfold exclude at refused
    split at refused
    · cases refused
    · cases refused
      exact .inr (.inr rfl)

end Edit

namespace ProjectConfig

/-! ### Roots are absolute -/

/-- The root of the configuration, if there is one, is absolute. -/
def Anchored (c : ProjectConfig) : Prop := ∀ root, c.own.root = some root → Path.isAbsolute root = true

variable {c : ProjectConfig}

theorem own_bare (c : ProjectConfig) : c.bare.own = c.own.invalidate := by
  cases c
  rfl

theorem root_bare (c : ProjectConfig) : c.bare.own.root = c.own.root := by
  rw [own_bare]
  rfl

theorem root_modifyOwn (c : ProjectConfig) (f : Settings → Settings) :
    (c.modifyOwn f).own.root = (f c.own).root := by
  cases c
  rfl

theorem Anchored.setRoot (h : c.Anchored) {dir : Option Text}
    (located : ∀ cwd, dir = some cwd → Path.isAbsolute cwd = true) (base : Text) :
    ((Edit.setRoot dir base).after c).Anchored := by
  rcases Edit.after_setRoot dir base c with same | ⟨root, made, set⟩
  · rwa [same]
  · intro r hr
    rw [set, root_modifyOwn] at hr
    obtain rfl : root = some r := hr
    obtain ⟨path, resolved⟩ := Settings.exists_of_rootAt made
    exact Path.isAbsolute_of_absolute? located resolved

/-- Only `setRoot` changes the root. -/
theorem root_step (fresh : c.Fresh) (s : Step) (other : ∀ dir base, s ≠ .setRoot dir base) :
    (step s c).own.root = c.own.root := by
  cases s with
  | setRoot dir base => exact absurd rfl (other dir base)
  | addEnvironment bindings => exact root_modifyOwn c _
  | addPaths dir ds =>
    show ((Edit.addPaths dir ds).after c).own.root = _
    rcases Edit.after_addPaths dir ds c with same | ⟨groups, -, added⟩
    · rw [same]
    · rw [added, root_modifyOwn]
      rfl
  | addRules dir ds =>
    show ((Edit.addRules dir ds).after c).own.root = _
    rcases Edit.after_addRules dir ds c with same | ⟨rules, -, added⟩
    · rw [same]
    · rw [added, withRules, root_modifyOwn]
      rfl
  | addChild path steps =>
    show ((Edit.addChild _).after c).own.root = _
    rw [Edit.after_addChild]
    split <;> rfl
  | exclude path steps =>
    show ((Edit.exclude _).after c).own.root = _
    rw [Edit.after_exclude]
    split <;> rfl
  | setLocales locales deep =>
    cases c
    cases deep <;> rfl
  | filter | allLocales =>
    -- a question changes only what has been computed
    rw [← root_bare, (step_spec _ fresh).2]
    exact root_bare c

theorem Anchored.step (h : c.Anchored) (fresh : c.Fresh) (s : Step)
    (located : ∀ cwd base, s = .setRoot (some cwd) base → Path.isAbsolute cwd = true) :
    (step s c).Anchored := by
  rcases Classical.em (∃ dir base, s = .setRoot dir base) with ⟨dir, base, rfl⟩ | other
  · exact h.setRoot (fun cwd e => located cwd base (e ▸ rfl)) base
  · intro root hr
    rw [root_step fresh s fun dir base e => other ⟨dir, base, e⟩] at hr
    exact h root hr

theorem Anchored.stepAll : ∀ {steps : List Step} {c : ProjectConfig}, c.Anchored → c.Fresh →
    (∀ cwd base, .setRoot (some cwd) base ∈ steps → Path.isAbsolute cwd = true) →
      (stepAll steps c).Anchored
  | [], _, h, _, _ => h
  | s :: _, _, h, fresh, located =>
    have first := h.step fresh s fun cwd base e => located cwd base (e ▸ List.mem_cons_self)
    first.stepAll (step_spec s fresh).1 fun cwd base e => located cwd base (List.mem_cons_of_mem s e)

theorem Anchored.located (h : c.Anchored) (dir : Option Text) : c.own.Located dir := fun root hr => by
  rw [Path.absolute?_of_isAbsolute (h root hr)]
  rfl

/-- A call that is refused leaves the configuration as it was and reports no rule, so that whatever is
done later every question is answered as if there had been no call. Rules are refused for the first
declared key that is no expression. With a current directory nothing is refused but a key, or an include or
an exclude that has excludes. -/
theorem perform_refused {path : Option Text} {steps : List Step} {dir : Option Text} {change : Change}
    {e : FilterError} (located : ∀ cwd base, .setRoot (some cwd) base ∈ steps → Path.isAbsolute cwd = true)
    (refused : (perform dir change).answer (run path steps) = .error e) :
    (perform dir change).after (run path steps) = run path steps ∧
      Edit.Quiet ((perform dir change).events (run path steps)) ∧
      (∀ later, let c := stepAll later ((perform dir change).after (run path steps))
        c.allLocales = (run path (steps ++ later)).allLocales ∧
          ∀ q, c.filter q = (run path (steps ++ later)).filter q) ∧
      (∀ ds, change = .addRules ds →
        ∃ key, Edit.refusedKey? (Edit.declaredKeys ds) = some key ∧ e = .invalidKey key) ∧
      ∀ cwd, dir = some cwd → (∃ key, e = .invalidKey key) ∨ e = .includedExcludes ∨ e = .excludedExcludes := by
  obtain ⟨same, quiet⟩ := atomic_perform dir change _ e refused
  refine ⟨same, quiet, fun later => ?_, ?_, ?_⟩
  · have : run path (steps ++ later) = stepAll later (run path steps) := stepAll_append ..
    rw [same, this]
    exact ⟨rfl, fun _ => rfl⟩
  · rintro ds rfl
    have anchored : (run path steps).Anchored :=
      Anchored.stepAll (fun _ h => nomatch h) (fresh_ofPath path) located
    exact Edit.on_addRules_refused (anchored.located dir) (Edit.on_eq_error_iff.2 refused)
  · rintro cwd rfl
    exact Edit.refused_with_directory refused

def ruled : List Step :=
  [.setRoot (some "/".toList) ".".toList, .setLocales ["de".toList] false,
    .addPaths none [⟨"{locale}/**".toList, none, none, none, none⟩],
    .addRules none [⟨.one "{locale}/*".toList, .warning, none⟩],
    .filter [] ⟨"de".toList, "/src/de/a.ftl".toList, none⟩]

/-- Rules for two paths, of which the second and the third key are no expressions. -/
def halfValid : Change :=
  .addRules [⟨.many ["{locale}/a".toList, "{locale}/b".toList], .ignore,
    some (.many ["menu".toList, "re:(".toList, "re:[".toList])⟩]

theorem halfValid_refused :
    let c := run (some "/src/l10n.toml".toList) ruled
    (perform none halfValid).answer c = .error (.invalidKey "re:(".toList) ∧
      (perform none halfValid).after c = c ∧ Edit.Quiet ((perform none halfValid).events c) ∧
      ((stepAll [.setLocales ["fr".toList] false] ((perform none halfValid).after c)).filter
        ⟨"fr".toList, "/src/fr/a.ftl".toList, none⟩).value.1 = .ok .warning := by
  have located : ∀ cwd base, .setRoot (some cwd) base ∈ ruled → Path.isAbsolute cwd = true := by
    intro cwd base h
    simp only [ruled, List.mem_cons, Step.setRoot.injEq, reduceCtorEq, List.not_mem_nil, or_false,
      Option.some.injEq] at h
    rw [h.1]
    decide
  have refused : (perform none halfValid).answer (run (some "/src/l10n.toml".toList) ruled) =
      .error (.invalidKey "re:(".toList) := by
    decide +kernel
  obtain ⟨same, quiet, later, -⟩ := perform_refused located refused
  refine ⟨refused, same, quiet, ?_⟩
  rw [(later _).2]
  decide +kernel

end ProjectConfig

end LocalePaths
