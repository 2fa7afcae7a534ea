import LocalePaths.Proofs.Failure
import LocalePaths.Proofs.Filter.Edit
import LocalePaths.Proofs.Filter.Key
import LocalePaths.Proofs.NameMap
import LocalePaths.Proofs.Path.Root

/-!
# The rules of a declaration

A declaration stands for one rule for every path and key, path by path (`RuleDeclaration.cells`), and a list
of declarations for the rules of one after another (`Settings.value_rules`), up to the first key that
cannot be compiled. The matcher of a rule has the root and the environment that the settings have
(`Settings.rule`).
-/

namespace LocalePaths

namespace RuleDeclaration

/-- The path, the key if there is one, and the action of a rule. -/
abbrev Cell := Text × Option Text × FilterAction

/-- The rules for a path: one for each key, or one without a key. -/
def cellsAt (action : FilterAction) (keys : Option OneOrMany) (path : Text) : List Cell :=
  match keys with
  | none => [(path, none, action)]
  | some keys => keys.values.map fun key => (path, some key, action)

/-- The rules that are declared, path by path. -/
def cells (d : RuleDeclaration) : List Cell := d.path.values.flatMap (cellsAt d.action d.key)

/-- The declaration of a single rule. -/
def single (cell : Cell) : RuleDeclaration := ⟨.one cell.1, cell.2.2, cell.2.1.map .one⟩

/-- The declarations of these rules one by one. -/
def singles (d : RuleDeclaration) : List RuleDeclaration := d.cells.map single

/-- All keys of the declaration can be compiled. -/
def Compiles (d : RuleDeclaration) : Prop :=
  ∀ keys, d.key = some keys → ∀ key ∈ keys.values, ∃ k, KeyPattern.of key = .ok k

instance (d : RuleDeclaration) : Decidable d.Compiles :=
  decidable_of_iff (∀ keys ∈ d.key, ∀ key ∈ keys.values, (KeyPattern.regexOf? key).isSome) <| by
    unfold Compiles
    simp only [Option.mem_def, Option.isSome_iff_exists, KeyPattern.of_eq_ok]
    refine forall₄_congr fun keys _ key _ => ⟨fun ⟨r, hr⟩ => ⟨⟨key, r⟩, rfl, hr⟩, fun ⟨k, _, hk⟩ => ⟨_, hk⟩⟩

theorem cells_single (cell : Cell) : cells (single cell) = [cell] := by
  obtain ⟨path, key, action⟩ := cell
  cases key <;> rfl

theorem flatMap_cells_singles (ds : List RuleDeclaration) :
    (ds.flatMap singles).flatMap cells = ds.flatMap cells := by
  have same (d : RuleDeclaration) : d.singles.flatMap cells = d.cells := by
    rw [singles, List.flatMap_map]
    simp only [cells_single, List.flatMap_singleton']
  rw [List.flatMap_assoc]
  simp only [same]

theorem Compiles.of_mem_cells {d : RuleDeclaration} (h : d.Compiles) {cell : Cell} (hc : cell ∈ d.cells)
    {key : Text} (hk : cell.2.1 = some key) : ∃ k, KeyPattern.of key = .ok k := by
  obtain ⟨path, -, hc⟩ := List.mem_flatMap.1 hc
  unfold cellsAt at hc
  cases keys : d.key with
  | none =>
    rw [keys, List.mem_singleton] at hc
    rw [hc] at hk
    cases hk
  | some ks =>
    rw [keys] at hc
    obtain ⟨key', hkey, rfl⟩ := List.mem_map.1 hc
    cases hk
    exact h ks keys _ hkey

end RuleDeclaration

open RuleDeclaration (Cell cellsAt cells)

/-- What a rule is declared with: its matcher, the source of its key, and its action. -/
def FilterRule.declared (r : FilterRule) : Matcher × Option Text × FilterAction :=
  (r.path, r.key.map (·.source), r.action)

namespace Settings
variable {s t : Settings} {cwd : Text} {dir : Option Text}

/-- The pattern of a source under the root and with the environment of the settings. -/
def placed (cwd : Text) (s : Settings) (source : Text) : Matcher :=
  ⟨(Pattern.parse source).withRoot (s.root.map (Path.rootDirectory cwd)), s.environment, false⟩

/-- The root, if there is one, can be resolved with the current directory or without one. -/
def Located (dir : Option Text) (s : Settings) : Prop :=
  ∀ root, s.root = some root → (Path.absolute? dir root).isSome

theorem located_some (cwd : Text) (s : Settings) : s.Located (some cwd) := fun root _ => by
  unfold Path.absolute?
  split <;> rfl

theorem value_rootAt (cwd base : Text) (s : Settings) : Checked.value (s.rootAt (some cwd) base) =
    .ok (s.path.map fun path => Path.absolute cwd (Path.join (Path.directory path) base)) := by
  unfold rootAt
  simp only [Path.absolute?_some]
  cases s.path <;> rfl

theorem exists_of_rootAt {base root : Text} (h : Checked.value (s.rootAt dir base) = .ok (some root)) :
    ∃ path, Path.absolute? dir path = some root := by
  unfold rootAt at h
  cases path : s.path with
  | none =>
    rw [path] at h
    cases h
  | some path =>
    simp only [path] at h
    split at h
    · cases h
    · cases h
      exact ⟨_, ‹_›⟩

theorem value_matcher (h : s.Located dir) (source : Text) :
    Checked.value (s.matcher dir source) = .ok (s.placed (dir.getD []) source) := by
  have env : NameMap.empty.insertMany s.environment.entries = s.environment :=
    NameMap.ext_get? fun name => by
      show (NameMap.empty.merge s.environment).get? name = _
      rw [NameMap.get?_merge, NameMap.get?_empty, Option.or_none]
  have bound (p : Pattern) : (⟨p, NameMap.empty.insertMany s.environment.entries, false⟩ : Matcher) =
      ⟨p, s.environment, false⟩ := congrArg (Matcher.mk p · false) env
  unfold matcher placed
  rw [Checked.value_bind]
  cases root : s.root with
  | none => exact congrArg Except.ok (bound _)
  | some path =>
    obtain ⟨_, resolved⟩ := Option.isSome_iff_exists.1 (h path root)
    simp only [resolved]
    exact congrArg Except.ok (bound _)

/-- The path group of a declaration, with matchers under the root and with the environment of the settings. -/
def placedGroup (cwd : Text) (s : Settings) (d : PathDeclaration) : PathGroup :=
  ⟨s.placed cwd d.l10n, d.reference.map (s.placed cwd), d.locales, d.tests, d.module⟩

theorem value_group (h : s.Located dir) (d : PathDeclaration) :
    Checked.value (s.group dir d) = .ok (s.placedGroup (dir.getD []) d) := by
  unfold group placedGroup
  rw [Checked.value_bind, value_matcher h]
  cases d.reference with
  | none => rfl
  | some reference =>
    show Checked.value (s.matcher dir reference >>= _) = _
    rw [Checked.value_bind, value_matcher h]
    rfl

/-- The rule of a single path and key. -/
def rule (cwd : Text) (s : Settings) (cell : Cell) : Except FilterError FilterRule :=
  match cell with
  | (path, none, action) => .ok ⟨s.placed cwd path, none, action⟩
  | (path, some key, action) => do return ⟨s.placed cwd path, some (← KeyPattern.of key), action⟩

theorem rulesFor_placed (action : FilterAction) (keys : Option OneOrMany) (path : Text) :
    rulesFor (s.placed cwd path) action keys = (cellsAt action keys path).mapM (s.rule cwd) := by
  cases keys with
  | none => rfl
  | some keys =>
    rw [cellsAt, List.mapM_map]
    rfl

theorem value_rulesAt (h : s.Located dir) (d : RuleDeclaration) :
    Checked.value (s.rulesAt dir d) = d.cells.mapM (s.rule (dir.getD [])) := by
  have each (path : Text) : Checked.value (do rulesFor (← s.matcher dir path) d.action d.key) =
      (cellsAt d.action d.key path).mapM (s.rule (dir.getD [])) := by
    rw [Checked.value_bind, value_matcher h, ← rulesFor_placed]
    rfl
  rw [cells, mapM_flatMap, rulesAt, Checked.value_bind, Checked.value_mapM]
  simp only [each]
  rfl

theorem exists_of_mem_rulesAt {d : RuleDeclaration} {rs : List FilterRule} {r : FilterRule}
    (h : Checked.value (s.rulesAt dir d) = .ok rs) (hr : r ∈ rs) :
    (∃ path, Checked.value (s.matcher dir path) = .ok r.path) ∧
      ∀ k, r.key = some k → KeyPattern.of k.source = .ok k := by
  rw [rulesAt, Checked.value_bind, Checked.value_mapM] at h
  obtain ⟨parts, made, h⟩ := bind_eq_ok_iff.1 h
  cases h
  obtain ⟨part, hpart, hr⟩ := List.mem_flatten.1 hr
  obtain ⟨path, -, made⟩ := exists_of_mapM_eq_ok made part hpart
  rw [Checked.value_bind] at made
  obtain ⟨m, hm, made⟩ := bind_eq_ok_iff.1 made
  have made : rulesFor m d.action d.key = .ok part := made
  cases keys : d.key with
  | none =>
    rw [keys] at made
    cases made
    obtain rfl := List.mem_singleton.1 hr
    exact ⟨⟨path, hm⟩, nofun⟩
  | some keys' =>
    rw [keys] at made
    obtain ⟨key, -, made⟩ := exists_of_mapM_eq_ok made r hr
    obtain ⟨k, hk, made⟩ := bind_eq_ok_iff.1 made
    cases made
    refine ⟨⟨path, hm⟩, ?_⟩
    rintro _ ⟨⟩
    rwa [(KeyPattern.of_eq_ok.1 hk).1]

/-- The rules of declarations are those of their paths and keys one after another, up to the first key that
cannot be compiled. -/
theorem value_rules (h : s.Located dir) (ds : List RuleDeclaration) :
    List.flatten <$> (ds.mapM fun d => Checked.value (s.rulesAt dir d)) =
      (ds.flatMap cells).mapM (s.rule (dir.getD [])) := by
  rw [mapM_flatMap]
  simp only [value_rulesAt h]

theorem declared_of_rule {cell : Cell} {r : FilterRule} (h : s.rule cwd cell = .ok r) :
    r.declared = (s.placed cwd cell.1, cell.2) := by
  obtain ⟨path, key, action⟩ := cell
  cases key with
  | none =>
    cases h
    rfl
  | some key =>
    obtain ⟨k, hk, h⟩ := bind_eq_ok_iff.1 h
    cases h
    exact congrArg (fun source => (s.placed cwd path, some source, action)) (KeyPattern.of_eq_ok.1 hk).1

theorem exists_rule {cell : Cell} (h : ∀ key, cell.2.1 = some key → ∃ k, KeyPattern.of key = .ok k) :
    ∃ r, s.rule cwd cell = .ok r := by
  obtain ⟨path, key, action⟩ := cell
  cases key with
  | none => exact ⟨_, rfl⟩
  | some key =>
    obtain ⟨k, hk⟩ := h key rfl
    exact ⟨_, bind_eq_ok_iff.2 ⟨k, hk, rfl⟩⟩

theorem rule_congr (root : t.root = s.root) (environment : t.environment = s.environment) :
    t.rule cwd = s.rule cwd := by
  have placed : t.placed cwd = s.placed cwd := by
    funext source
    rw [placed, placed, root, environment]
  funext ⟨path, key, action⟩
  cases key <;> simp only [rule, placed]

end Settings

theorem ProjectConfig.rules_withRules (c : ProjectConfig) (rules : List FilterRule) :
    (c.withRules rules).own.rules = c.own.rules ++ rules := by
  cases c
  rfl

/-- Rules are added one by one for paths and keys, or none if a key cannot be compiled. -/
theorem Edit.on_addRules_cells {c : ProjectConfig} {dir : Option Text} (h : c.own.Located dir)
    (ds : List RuleDeclaration) : (addRules dir ds).on c =
      c.withRules <$> (ds.flatMap cells).mapM (c.own.rule (dir.getD [])) := by
  rw [on_addRules, ← Settings.value_rules h]
  cases ds.mapM fun d => Checked.value (c.own.rulesAt dir d) <;> rfl

end LocalePaths
