import LocalePaths.Proofs.Filter.Compiled

/-!
# Rules as they are declared

Declarations whose keys can be compiled add one rule for every path and key. So declarations can be added
in several calls (`ProjectConfig.rules_addRules_flatten`), and a declaration can be replaced by one for each
path and key (`ProjectConfig.on_addRules_singles`).

A matcher takes the environment and the root that the configuration has when it is added. Later changes of
the two change nothing that has been declared, and no decision (`ProjectConfig.Kept`).
-/

namespace LocalePaths

open RuleDeclaration (cells)

namespace ProjectConfig
variable {c d : ProjectConfig} {cwd : Text} {ds : List RuleDeclaration}

theorem on_addRules_at (cwd : Text) (ds : List RuleDeclaration) (c : ProjectConfig) :
    (Edit.addRules (some cwd) ds).on c =
      c.withRules <$> (ds.flatMap cells).mapM (c.own.rule cwd) :=
  Edit.on_addRules_cells (Settings.located_some cwd c.own) ds

/-- The rules after several calls, up to one that is refused, are those after one call. -/
theorem rules_addRules_flatten (cwd : Text) : ∀ (parts : List (List RuleDeclaration)) (c : ProjectConfig),
    (fun d => d.own.rules) <$> parts.foldlM (fun c ds => (Edit.addRules (some cwd) ds).on c) c =
      (fun d => d.own.rules) <$> (Edit.addRules (some cwd) parts.flatten).on c
  | [], c => by
    obtain ⟨own, includes, excludes⟩ := c
    rw [on_addRules_at]
    exact congrArg Except.ok (List.append_nil own.rules).symm
  | ds :: parts, c => by
    rw [List.foldlM_cons, List.flatten_cons, on_addRules_at, on_addRules_at, List.flatMap_append,
      List.mapM_append]
    cases (ds.flatMap cells).mapM (c.own.rule cwd) with
    | error e => rfl
    | ok rules =>
      have later := rules_addRules_flatten cwd parts (c.withRules rules)
      have same : (c.withRules rules).own.rule cwd = c.own.rule cwd := by
        obtain ⟨own, includes, excludes⟩ := c
        exact Settings.rule_congr rfl rfl
      rw [on_addRules_at, same] at later
      refine later.trans ?_
      cases (parts.flatten.flatMap cells).mapM (c.own.rule cwd) with
      | error e => rfl
      | ok rules' =>
        refine congrArg Except.ok ?_
        simp only [rules_withRules, List.append_assoc]

theorem on_addRules_singles (cwd : Text) (ds : List RuleDeclaration) (c : ProjectConfig) :
    (Edit.addRules (some cwd) (ds.flatMap RuleDeclaration.singles)).on c =
      (Edit.addRules (some cwd) ds).on c := by
  rw [on_addRules_at, on_addRules_at, RuleDeclaration.flatMap_cells_singles]

/-! ### Another root and environment -/

/-- The step changes the root or the environment. -/
def Step.Relocates : Step → Prop
  | .setRoot .. | .addEnvironment _ => True
  | _ => False

/-- All that is declared in `c` is declared in `d`, and every question has the same answer. -/
structure Kept (c d : ProjectConfig) : Prop where
  rules : d.own.rules = c.own.rules
  groups : d.own.groups = c.own.groups
  includes : d.includes = c.includes
  excludes : d.excludes = c.excludes
  allLocales : d.allLocales = c.allLocales
  filter : ∀ q, (d.filter q).value.1 = (c.filter q).value.1

theorem stepAll_relocates : ∀ {later : List Step} (c : ProjectConfig), (∀ s ∈ later, s.Relocates) →
    ∃ root environment, stepAll later c =
      c.modifyOwn fun s => { s with root := root, environment := environment }
  | [], node own includes excludes, _ => ⟨own.root, own.environment, rfl⟩
  | s :: later, node own includes excludes, h => by
    obtain ⟨first, rest⟩ := List.forall_mem_cons.1 h
    cases s with
    | setRoot dir base =>
      have first : ∃ root, step (.setRoot dir base) (node own includes excludes) =
          node { own with root } includes excludes := by
        rcases Edit.after_setRoot dir base (node own includes excludes) with same | ⟨root, -, set⟩
        · exact ⟨own.root, same⟩
        · exact ⟨root, set⟩
      obtain ⟨root, first⟩ := first
      rw [ProjectConfig.stepAll, first]
      exact stepAll_relocates (node { own with root } includes excludes) rest
    | addEnvironment bindings =>
      exact stepAll_relocates ((node own includes excludes).addEnvironment bindings) rest
    | _ => cases first

theorem answer_relocated (gated : Bool) (q : FilterQuery) (root : Option Text)
    (environment : Environment) (c : ProjectConfig) :
    answer gated q (c.modifyOwn fun s => { s with root := root, environment := environment }) =
      answer gated q c := by
  cases c
  rfl

/-- Changes of the root and of the environment keep what has been declared. -/
theorem Fresh.kept (h : c.Fresh) {later : List Step} (relocates : ∀ s ∈ later, s.Relocates) :
    c.Kept (stepAll later c) := by
  have fresh := (stepAll_spec later h).1
  obtain ⟨root, environment, eq⟩ := stepAll_relocates c relocates
  have answers : ∀ q, answer true q (stepAll later c) = answer true q c := fun q => by
    rw [eq, answer_relocated]
  refine ⟨?_, ?_, ?_, ?_, ?_, fun q => by rw [value_filter h, value_filter fresh, answers]⟩ <;>
    rw [eq] <;> cases c <;> rfl

/-- Declarations whose keys can be compiled add one rule for every path and key, in the order in which they
are declared, with the root and the environment that the configuration has then. The same rules are added in
several calls, and by a declaration for each path and key. Whatever is done between, later changes of the root
and of the environment keep all that has been declared. -/
theorem addRules_expands (h : c.Reachable) (cwd : Text) (compile : ∀ d ∈ ds, d.Compiles) :
    ∃ d rules, (Edit.addRules (some cwd) ds).on c = .ok d ∧ d.own.rules = c.own.rules ++ rules ∧
      rules.map FilterRule.declared =
        (ds.flatMap cells).map (fun cell => (c.own.placed cwd cell.1, cell.2)) ∧
      (∀ r ∈ rules, r.Compiled) ∧
      (∀ parts : List (List RuleDeclaration), parts.flatten = ds → ∃ e : ProjectConfig,
        parts.foldlM (fun c ds => (Edit.addRules (some cwd) ds).on c) c = .ok e ∧
          e.own.rules = d.own.rules) ∧
      (Edit.addRules (some cwd) (ds.flatMap RuleDeclaration.singles)).on c = .ok d ∧
      ∀ between later, (∀ s ∈ later, s.Relocates) →
        (stepAll between d).Kept (stepAll later (stepAll between d)) := by
  have each : ∀ cell ∈ ds.flatMap cells, ∃ r, c.own.rule cwd cell = .ok r := by
    intro cell hcell
    obtain ⟨d, hd, hcell⟩ := List.mem_flatMap.1 hcell
    exact Settings.exists_rule fun key hkey => (compile d hd).of_mem_cells hcell hkey
  obtain ⟨rules, hrules⟩ := exists_mapM_eq_ok each
  have added : (Edit.addRules (some cwd) ds).on c = .ok (c.withRules rules) := by
    rw [on_addRules_at, hrules]
    rfl
  have fresh : (c.withRules rules).Fresh := h.fresh.modifyOwn_invalidate _
  refine ⟨c.withRules rules, rules, added, rules_withRules c rules, ?_, ?_, ?_, ?_, ?_⟩
  · exact map_of_mapM_eq_ok hrules fun cell r => Settings.declared_of_rule
  · have compiled := h.compiled.addRules (some cwd) ds
    rw [(Edit.atomic_addRules (some cwd) ds).after_eq, added] at compiled
    have all := compiled.own
    rw [orKeep, rules_withRules] at all
    exact fun r hr => all r (List.mem_append_right _ hr)
  · rintro parts rfl
    have same := rules_addRules_flatten cwd parts c
    rw [added] at same
    cases split : parts.foldlM (fun c ds => (Edit.addRules (some cwd) ds).on c) c with
    | error e =>
      rw [split] at same
      cases same
    | ok e =>
      rw [split] at same
      exact ⟨e, rfl, Except.ok.inj same⟩
  · rw [on_addRules_singles, added]
  · exact fun between later relocates => (stepAll_spec between fresh).1.kept relocates

/-- Files under a root and with an environment. -/
def rooted : ProjectConfig :=
  run (some "/src/l10n.toml".toList) [.setRoot (some "/".toList) ".".toList,
    .addEnvironment [("base".toList, .parse "l10n".toList)], .setLocales ["de".toList] false,
    .addPaths none [⟨"{base}/{locale}/**".toList, none, none, none, none⟩]]

/-- Two paths with two keys, a path without a key, and no path at all. -/
def mixed : List RuleDeclaration :=
  [⟨.many ["{base}/a".toList, "{base}/b".toList], .ignore, some (.many ["menu".toList, "re:on".toList])⟩,
    ⟨.one "{base}/{locale}/c".toList, .warning, none⟩, ⟨.many [], .error, none⟩]

theorem mixed_addRules : rooted.Reachable ∧ (∀ d ∈ mixed, d.Compiles) ∧
    ∃ d, (Edit.addRules (some "/".toList) mixed).on rooted = .ok d ∧
      (d.own.rules.map fun r => (r.path.pattern.text, r.path.pattern.root, r.declared.2)) =
        [("{base}/a", some "menu", FilterAction.ignore), ("{base}/a", some "re:on", .ignore),
          ("{base}/b", some "menu", .ignore), ("{base}/b", some "re:on", .ignore),
          ("{base}/{locale}/c", none, .warning)].map (fun cell =>
            (cell.1.toList, some "/src/".toList, cell.2.1.map String.toList, cell.2.2)) ∧
      d.Kept (stepAll [.setRoot (some "/".toList) "..".toList,
        .addEnvironment [("base".toList, .parse "x".toList)]] d) := by
  have reachable : rooted.Reachable := ⟨_, _, [], rfl⟩
  have compile : ∀ d ∈ mixed, d.Compiles := by decide +kernel
  obtain ⟨d, rules, added, all, declared, -, -, -, kept⟩ := addRules_expands reachable "/".toList compile
  refine ⟨reachable, compile, d, added, ?_, kept [] _ (by simp [Step.Relocates])⟩
  have none : rooted.own.rules = [] := by decide +kernel
  have seen := congrArg (List.map fun (r : Matcher × Option Text × FilterAction) =>
    (r.1.pattern.text, r.1.pattern.root, r.2)) declared
  rw [List.map_map] at seen
  rw [all, none, List.nil_append]
  exact seen.trans (by decide +kernel)

end ProjectConfig

end LocalePaths
