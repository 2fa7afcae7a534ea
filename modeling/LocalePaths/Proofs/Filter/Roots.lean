import LocalePaths.Proofs.Filter.DeclaredRules
import LocalePaths.Proofs.Filter.Refusal
import LocalePaths.Proofs.Path.Root

/-!
# Roots of configurations

The root of a matcher is a root directory, and to put the matcher under it once more changes nothing
(`Matcher.root_withRoot`). A configuration stores the canonical form of the directory of its file, seen from the
current directory and followed by the base path. From then on, until the root is set again, all matchers that
are declared have this directory as their root, with a separator at its end
(`ProjectConfig.addsUnder_setRoot`), even if the current directory is another one when they are declared.
-/

namespace LocalePaths

/-- The second list is the first one and more behind it, all of which has the property. -/
def Appends {α : Type} (P : α → Prop) (xs ys : List α) : Prop :=
  ∃ more, ys = xs ++ more ∧ ∀ x ∈ more, P x

namespace Appends
variable {α : Type} {P : α → Prop} {xs ys zs : List α}

theorem of_eq (h : ys = xs) : Appends P xs ys := ⟨[], h.trans (List.append_nil xs).symm, nofun⟩

theorem trans (h : Appends P xs ys) (h' : Appends P ys zs) : Appends P xs zs := by
  obtain ⟨more, rfl, first⟩ := h
  obtain ⟨more', rfl, second⟩ := h'
  exact ⟨more ++ more', List.append_assoc xs more more', List.forall_mem_append.2 ⟨first, second⟩⟩

end Appends

theorem Matcher.root_withRoot {cwd : Text} (h : Path.isAbsolute cwd = true) (m : Matcher) (path : Text) :
    ∃ root, (m.withRoot cwd path).pattern.root = some root ∧ Path.IsRoot root ∧
      ∀ cwd', (m.withRoot cwd path).withRoot cwd' root = m.withRoot cwd path := by
  have isRoot := Path.isRoot_rootDirectory h path
  refine ⟨Path.rootDirectory cwd path, rfl, isRoot, fun cwd' => ?_⟩
  unfold withRoot
  rw [Path.rootDirectory_of_isRoot isRoot]
  rfl

namespace Settings
variable {s : Settings} {dir : Text}

/-- A root in canonical form is only given a separator at its end, wherever the matcher is made. -/
theorem placed_eq (root : s.root = some dir) (canonical : Path.Canonical true dir) (cwd source : Text) :
    s.placed cwd source =
      ⟨(Pattern.parse source).withRoot (some (Path.slashed dir)), s.environment, false⟩ := by
  rw [placed, root, Option.map_some, Path.rootDirectory_of_canonical canonical]

theorem located_of_canonical (root : s.root = some dir) (canonical : Path.Canonical true dir)
    (cwd : Option Text) : s.Located cwd := fun path hpath => by
  obtain rfl : dir = path := Option.some.inj (root.symm.trans hpath)
  rw [Path.absolute?_of_isAbsolute (Path.isAbsolute_of_canonical canonical)]
  rfl

end Settings

/-- The matchers of the path group have the root. -/
def PathGroup.Under (root : Text) (g : PathGroup) : Prop :=
  g.l10n.pattern.root = some root ∧ ∀ m, g.reference = some m → m.pattern.root = some root

/-- The matcher of the rule has the root. -/
def FilterRule.Under (root : Text) (r : FilterRule) : Prop := r.path.pattern.root = some root

namespace ProjectConfig
variable {c d e : ProjectConfig} {root dir : Text}

/-- With a current directory the root of a configuration that has a file can always be set. -/
theorem on_setRoot_eq {file : Text} (h : c.own.path = some file) (cwd base : Text) :
    (Edit.setRoot (some cwd) base).on c = .ok (c.modifyOwn fun s =>
      { s with root := some (Path.normalize (Path.join (Path.join cwd (Path.directory file)) base)) }) := by
  rw [Edit.on_setRoot, Settings.value_rootAt, h, Option.map_some, Path.absolute_eq, ← Path.join_assoc]
  rfl

/-- What is declared in `c` is declared in `d`, and what is declared after it has the root. -/
structure AddsUnder (root : Text) (c d : ProjectConfig) : Prop where
  groups : Appends (PathGroup.Under root) c.own.groups d.own.groups
  rules : Appends (FilterRule.Under root) c.own.rules d.own.rules

namespace AddsUnder

theorem of_eq (groups : d.own.groups = c.own.groups) (rules : d.own.rules = c.own.rules) :
    c.AddsUnder root d := ⟨.of_eq groups, .of_eq rules⟩

theorem of_bare (h : d.bare = c.bare) : c.AddsUnder root d := by
  have own : d.own.invalidate = c.own.invalidate := by rw [← own_bare, ← own_bare, h]
  have groups : d.own.invalidate.groups = c.own.invalidate.groups := congrArg Settings.groups own
  have rules : d.own.invalidate.rules = c.own.invalidate.rules := congrArg Settings.rules own
  exact .of_eq groups rules

theorem trans (h : c.AddsUnder root d) (h' : d.AddsUnder root e) : c.AddsUnder root e :=
  ⟨h.groups.trans h'.groups, h.rules.trans h'.rules⟩

end AddsUnder

section
variable (hr : c.own.root = some dir) (canonical : Path.Canonical true dir)
include hr canonical

theorem addsUnder_addPaths (cwd : Option Text) (ds : List PathDeclaration) :
    c.AddsUnder (Path.slashed dir) ((Edit.addPaths cwd ds).after c) := by
  obtain ⟨own, includes, excludes⟩ := c
  have located := Settings.located_of_canonical hr canonical cwd
  have placed := Settings.placed_eq hr canonical (cwd.getD [])
  rcases Edit.after_addPaths cwd ds (node own includes excludes) with same | ⟨groups, made, added⟩
  · rw [same]
    exact .of_eq rfl rfl
  · rw [added]
    refine ⟨⟨groups, rfl, fun g hg => ?_⟩, .of_eq rfl⟩
    obtain ⟨d, -, made⟩ := exists_of_mapM_eq_ok made g hg
    obtain rfl := Except.ok.inj ((Settings.value_group located d).symm.trans made)
    refine ⟨congrArg (·.pattern.root) (placed d.l10n), fun m hm => ?_⟩
    obtain ⟨reference, -, rfl⟩ := Option.map_eq_some_iff.1 hm
    exact congrArg (·.pattern.root) (placed reference)

theorem addsUnder_addRules (cwd : Option Text) (ds : List RuleDeclaration) :
    c.AddsUnder (Path.slashed dir) ((Edit.addRules cwd ds).after c) := by
  obtain ⟨own, includes, excludes⟩ := c
  have located := Settings.located_of_canonical hr canonical cwd
  rcases Edit.after_addRules cwd ds (node own includes excludes) with same | ⟨parts, made, added⟩
  · rw [same]
    exact .of_eq rfl rfl
  · rw [added]
    refine ⟨.of_eq rfl, parts.flatten, rfl, fun r hrule => ?_⟩
    obtain ⟨part, hpart, hrule⟩ := List.mem_flatten.1 hrule
    obtain ⟨d, -, made⟩ := exists_of_mapM_eq_ok made part hpart
    obtain ⟨⟨path, placed⟩, -⟩ := Settings.exists_of_mem_rulesAt made hrule
    rw [Settings.value_matcher located, Settings.placed_eq hr canonical] at placed
    exact congrArg (·.pattern.root) (Except.ok.inj placed).symm

/-- Until the root is set again, a step adds matchers only under the root. -/
theorem addsUnder_step (fresh : c.Fresh) (s : Step) (other : ∀ cwd base, s ≠ .setRoot cwd base) :
    c.AddsUnder (Path.slashed dir) (step s c) := by
  cases s with
  | setRoot cwd base => exact absurd rfl (other cwd base)
  | addPaths cwd ds => exact addsUnder_addPaths hr canonical cwd ds
  | addRules cwd ds => exact addsUnder_addRules hr canonical cwd ds
  | addEnvironment =>
    cases c
    exact .of_eq rfl rfl
  | addChild path steps =>
    show c.AddsUnder _ ((Edit.addChild _).after c)
    rw [Edit.after_addChild]
    split <;> exact .of_eq rfl rfl
  | exclude path steps =>
    show c.AddsUnder _ ((Edit.exclude _).after c)
    rw [Edit.after_exclude]
    split <;> exact .of_eq rfl rfl
  | setLocales locales deep =>
    cases c
    cases deep <;> exact .of_eq rfl rfl
  | filter | allLocales =>
    -- a question changes only what has been computed
    exact .of_bare (step_spec _ fresh).2

end

theorem addsUnder_stepAll (canonical : Path.Canonical true dir) : ∀ {later : List Step} {c : ProjectConfig},
    c.own.root = some dir → c.Fresh → (∀ cwd base, .setRoot cwd base ∉ later) →
      (stepAll later c).own.root = some dir ∧ c.AddsUnder (Path.slashed dir) (stepAll later c)
  | [], _, hr, _, _ => ⟨hr, .of_eq rfl rfl⟩
  | s :: later, c, hr, fresh, other => by
    have first : ∀ cwd base, s ≠ .setRoot cwd base := fun cwd base e =>
      other cwd base (e ▸ List.mem_cons_self)
    have rest : ∀ cwd base, .setRoot cwd base ∉ later := fun cwd base h =>
      other cwd base (List.mem_cons_of_mem s h)
    obtain ⟨root, added⟩ := addsUnder_stepAll canonical ((root_step fresh s first).trans hr)
      (step_spec s fresh).1 rest
    exact ⟨root, (addsUnder_step hr canonical fresh s first).trans added⟩

/-- The root of a matcher is a root directory, and to put the matcher under it once more changes nothing. The
root of a configuration is the directory of its file, seen from the current directory and followed by the base
path, in canonical form. All matchers that are declared before it is set again have this directory, with a
separator at its end, as their root. -/
theorem addsUnder_setRoot {cwd : Text} (located : Path.isAbsolute cwd = true) :
    (∀ (m : Matcher) (path : Text), ∃ root, (m.withRoot cwd path).pattern.root = some root ∧
        Path.IsRoot root ∧ ∀ cwd', (m.withRoot cwd path).withRoot cwd' root = m.withRoot cwd path) ∧
      ∀ (c : ProjectConfig) (file base : Text), c.Reachable → c.own.path = some file →
        let dir := Path.normalize (Path.join (Path.join cwd (Path.directory file)) base)
        ∃ rooted, (Edit.setRoot (some cwd) base).on c = .ok rooted ∧ rooted.own.root = some dir ∧
          ∀ later, (∀ cwd base, .setRoot cwd base ∉ later) →
            let d := stepAll later rooted
            rooted.AddsUnder (Path.slashed dir) d ∧
              ∀ cwd' source, Checked.value (d.own.matcher cwd' source) = .ok
                ⟨(Pattern.parse source).withRoot (some (Path.slashed dir)), d.own.environment, false⟩ := by
  refine ⟨Matcher.root_withRoot located, fun c file base reachable path => ?_⟩
  intro dir
  have set := on_setRoot_eq path cwd base
  have root : (c.modifyOwn fun s => { s with root := some dir }).own.root = some dir := root_modifyOwn c _
  have fresh := reachable.fresh.setRoot (some cwd) base
  rw [(Edit.atomic_setRoot (some cwd) base).after_eq, set] at fresh
  have canonical : Path.Canonical true dir :=
    Path.canonical_of_isAbsolute (Path.isAbsolute_join (Path.isAbsolute_join located _) base)
  refine ⟨_, set, root, fun later other => ?_⟩
  obtain ⟨kept, added⟩ := addsUnder_stepAll canonical root fresh other
  refine ⟨added, fun cwd' source => ?_⟩
  rw [Settings.value_matcher (Settings.located_of_canonical kept canonical cwd'),
    Settings.placed_eq kept canonical]

/-- A configuration with a rule under the directory of its file. -/
def sourced : ProjectConfig :=
  run (some "conf/../src//l10n.toml".toList) [.setRoot (some "/home".toList) ".".toList,
    .addRules (some "/".toList) [⟨.one "*.ftl".toList, .ignore, none⟩], .setLocales ["de".toList] false]

/-- Path groups, a question and rules, seen from other directories. -/
def moved : List Step :=
  [.addEnvironment [("dir".toList, .parse "/x".toList)],
    .addPaths (some "elsewhere".toList) [⟨"{locale}/**".toList, some "en/**".toList, none, none, none⟩],
    .filter [] ⟨"de".toList, "/top/l10n/de/a.ftl".toList, none⟩,
    .addRules none [⟨.many ["{dir}/*".toList, "{locale}/b".toList], .warning, none⟩]]

theorem moved_addsUnder_setRoot :
    let cwd := "/home/./user/..".toList
    let base := "../../top//l10n/.".toList
    Path.isAbsolute cwd = true ∧ sourced.Reachable ∧ sourced.own.path = some "conf/../src//l10n.toml".toList ∧
      (∀ cwd base, .setRoot cwd base ∉ moved) ∧
      (∃ m : Matcher, m = (Matcher.of (.parse "{x}/*".toList)).withRoot cwd "a//b/../.".toList ∧
        m.pattern.root = some "/home/a/".toList ∧ m.withRoot [] "/home/a/".toList = m) ∧
      ∃ rooted, (Edit.setRoot (some cwd) base).on sourced = .ok rooted ∧
        rooted.own.root = some "/top/l10n".toList ∧
        rooted.AddsUnder "/top/l10n/".toList (stepAll moved rooted) ∧
        ((stepAll moved rooted).own.rules.map fun r => r.path.pattern.root) =
          ["/home/src/", "/top/l10n/", "/top/l10n/"].map fun root => some root.toList := by
  intro cwd base
  have located : Path.isAbsolute cwd = true := by decide +kernel
  have reachable : sourced.Reachable := ⟨_, _, [], rfl⟩
  have path : sourced.own.path = some "conf/../src//l10n.toml".toList := by decide +kernel
  have other : ∀ cwd base, .setRoot cwd base ∉ moved := by simp [moved]
  obtain ⟨matchers, configs⟩ := addsUnder_setRoot located
  obtain ⟨moving, set, stored, later⟩ := configs sourced _ base reachable path
  obtain ⟨root, rooted, -, again⟩ := matchers (Matcher.of (.parse "{x}/*".toList)) "a//b/../.".toList
  have home : ((Matcher.of (.parse "{x}/*".toList)).withRoot cwd "a//b/../.".toList).pattern.root =
      some "/home/a/".toList := by decide +kernel
  obtain rfl : root = "/home/a/".toList := Option.some.inj (rooted.symm.trans home)
  have dir : Path.normalize (Path.join (Path.join cwd (Path.directory "conf/../src//l10n.toml".toList)) base) =
      "/top/l10n".toList := by decide +kernel
  have slashed : Path.slashed "/top/l10n".toList = "/top/l10n/".toList := by decide +kernel
  have added := (later moved other).1
  rw [dir] at stored
  rw [dir, slashed] at added
  refine ⟨located, reachable, path, other, ⟨_, rfl, home, again []⟩, moving, set, stored, added, ?_⟩
  obtain rfl := Except.ok.inj (set.symm.trans (on_setRoot_eq path cwd base))
  decide +kernel

end ProjectConfig

end LocalePaths
