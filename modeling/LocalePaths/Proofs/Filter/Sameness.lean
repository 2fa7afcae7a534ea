import LocalePaths.Proofs.Filter.Compiled
import LocalePaths.Proofs.Filter.Order

/-!
# Configurations that are the same

`ProjectConfig.same` compares what two include trees declare apart from locales. With the same locales set
on both, such configurations decide alike (`ProjectConfig.decidesAlike_of_same`), provided that their
matchers bind the same names and that what they exclude decides alike. A name that only one of two
matchers binds is passed over when they are compared, and so is what is excluded.
-/

namespace LocalePaths

theorem forall₂_of_map_eq {α β γ : Type} {R : α → β → Prop} {f : α → γ} {g : β → γ}
    (h : ∀ a b, f a = g b → R a b) {l : List α} {m : List β} (same : l.map f = m.map g) :
    List.Forall₂ R l m := by
  have mapped : List.Forall₂ Eq (l.map f) (m.map g) := List.forall₂_eq_eq_eq ▸ same
  exact (List.forall₂_map_right_iff.1 (List.forall₂_map_left_iff.1 mapped)).imp h

theorem map_eq_of_zip {α β γ : Type} {f : α → γ} {g : β → γ} {l : List α} {m : List β}
    (length : l.length = m.length) (h : ∀ {a b}, (a, b) ∈ l.zip m → f a = g b) : l.map f = m.map g := by
  have mapped : List.Forall₂ Eq (l.map f) (m.map g) :=
    List.forall₂_map_left_iff.2 (List.forall₂_map_right_iff.2 (List.forall₂_iff_zip.2 ⟨length, h⟩))
  rwa [List.forall₂_eq_eq_eq] at mapped

namespace Matcher
variable {m m' : Matcher}

/-- The matchers bind the same names, but for the locale, which a question binds anew. -/
def BindsAlike (m m' : Matcher) : Prop :=
  ∀ name, name ≠ localeName → m.env.contains name = m'.env.contains name

/-- The names that the matcher binds, but for the locale. -/
def boundNames (m : Matcher) : List Text := m.env.names.filter (· ≠ localeName)

theorem bindsAlike_of_boundNames (h : m.boundNames = m'.boundNames) : m.BindsAlike m' := by
  intro name other
  have mem : ∀ {m : Matcher}, m.env.contains name = true ↔ name ∈ m.boundNames := by
    intro m
    rw [NameMap.contains_iff, boundNames, List.mem_filter]
    simp [other]
  rw [Bool.eq_iff_iff, mem, mem, h]

/-- Two matchers that agree and bind the same names are the same once the locale is bound. -/
theorem withLocale_eq (agree : m.agrees m' = true) (bound : m.BindsAlike m') (p : Pattern) :
    m.withEnv [(localeName, p)] = m'.withEnv [(localeName, p)] := by
  obtain ⟨pattern, values⟩ := Bool.and_eq_true_iff.1 agree
  have env : m.env.insert localeName p = m'.env.insert localeName p := by
    refine NameMap.ext_get? fun name => ?_
    rw [NameMap.get?_insert, NameMap.get?_insert]
    by_cases other : name = localeName
    · rw [if_pos other, if_pos other]
    · rw [if_neg other, if_neg other]
      have both := bound name other
      unfold NameMap.contains at both
      cases here : m.env.get? name with
      | none =>
        rw [here] at both
        exact (Option.not_isSome_iff_eq_none.1 fun h => nomatch both.trans h).symm
      | some v =>
        rw [here] at both
        obtain ⟨w, there⟩ := Option.isSome_iff_exists.1 both.symm
        have same := List.all_eq_true.1 values (name, v) (NameMap.mem_of_find here)
        simp only [there, Option.all_some, decide_eq_true_eq] at same
        rw [there, same]
  exact congrArg₂ (fun p env => Matcher.mk p env false) (of_decide_eq_true pattern) env

end Matcher

theorem PathGroup.localized_eq {g h : PathGroup} (agree : g.agrees h = true)
    (bound : g.l10n.BindsAlike h.l10n) :
    g.locales = h.locales ∧ ∀ locale, g.localized locale = h.localized locale := by
  simp only [agrees, Bool.and_eq_true, decide_eq_true_eq] at agree
  obtain ⟨⟨⟨⟨l10n, -⟩, locales⟩, -⟩, -⟩ := agree
  exact ⟨locales, fun _ => Matcher.withLocale_eq l10n bound _⟩

theorem FilterRule.localized_eq {r r' : FilterRule} (agree : r.agrees r' = true)
    (bound : r.path.BindsAlike r'.path) (compiled : r.Compiled) (compiled' : r'.Compiled) (locale : Text) :
    r.localized locale = r'.localized locale := by
  simp only [agrees, Bool.and_eq_true, decide_eq_true_eq] at agree
  obtain ⟨⟨path, key⟩, action⟩ := agree
  have path := Matcher.withLocale_eq path bound (.parse locale)
  have key := compiled.key_eq compiled' key
  unfold localized
  rw [path]
  cases r
  cases r'
  cases key
  cases action
  rfl

namespace Settings
variable {s t : Settings} {q : FilterQuery}

/-- The matchers of the path groups and of the rules bind the same names. -/
structure BindsAlike (s t : Settings) : Prop where
  groups : List.Forall₂ (fun g h : PathGroup => g.l10n.BindsAlike h.l10n) s.groups t.groups
  rules : List.Forall₂ (fun r r' : FilterRule => r.path.BindsAlike r'.path) s.rules t.rules

/-- The names that the matchers of the path groups and of the rules bind. -/
def boundNames (s : Settings) : List (List Text) × List (List Text) :=
  (s.groups.map (·.l10n.boundNames), s.rules.map (·.path.boundNames))

theorem bindsAlike_of_boundNames (s t : Settings) (h : s.boundNames = t.boundNames) : s.BindsAlike t where
  groups := forall₂_of_map_eq (fun _ _ => Matcher.bindsAlike_of_boundNames) (Prod.mk.inj h).1
  rules := forall₂_of_map_eq (fun _ _ => Matcher.bindsAlike_of_boundNames) (Prod.mk.inj h).2

def withLocales (locales : List Text) (s : Settings) : Settings :=
  { s with locales := some locales }.invalidate

/-- The settings declare the same locales, and the same action for every query. -/
structure DeclaresAlike (s t : Settings) : Prop where
  locales : s.declaredLocales = t.declaredLocales
  action : ∀ q, s.declaredAction q = t.declaredAction q

/-- Whether the path group is for the locale, and its matcher with the locale bound. -/
def groupFor (locale : Text) (g : PathGroup) : Bool × Matcher := (g.appliesTo locale, g.localized locale)

theorem covers_eq (s : Settings) (q : FilterQuery) : s.covers q =
    (((s.groups.map (groupFor q.locale)).filter Prod.fst).anyM fun p : Bool × Matcher =>
      p.2.isMatch q.path).mapError .pattern := by
  rw [List.filter_map, anyM_map]
  rfl

theorem ruleAction_eq (s : Settings) (q : FilterQuery) : s.ruleAction q =
    Option.map FilterRule.action <$>
      (s.rules.map fun r => r.localized q.locale).reverse.findM? fun r => r.isAbout q.path q.entity := by
  rw [← List.map_reverse, action_findM?_map (f := fun r => r.localized q.locale) _ fun _ => rfl]
  rfl

/-- Settings that agree declare alike if their matchers bind the same names and the same locales have been
set. -/
theorem declaresAlike_of_agrees (agree : s.agrees t = true) (bound : s.BindsAlike t)
    (hs : ∀ r ∈ s.rules, r.Compiled) (ht : ∀ r ∈ t.rules, r.Compiled) (set : s.locales = t.locales) :
    s.DeclaresAlike t := by
  simp only [agrees, Bool.and_eq_true, decide_eq_true_eq, List.all_eq_true] at agree
  obtain ⟨⟨⟨-, -, groups⟩, -, rules⟩, -⟩ := agree
  have group {g h : PathGroup} (mem : (g, h) ∈ s.groups.zip t.groups) :
      g.locales = h.locales ∧ ∀ locale, g.localized locale = h.localized locale :=
    PathGroup.localized_eq (groups _ mem) (List.forall₂_zip bound.groups mem)
  have rule (locale : Text) {r r' : FilterRule} (mem : (r, r') ∈ s.rules.zip t.rules) :
      r.localized locale = r'.localized locale :=
    FilterRule.localized_eq (rules _ mem) (List.forall₂_zip bound.rules mem)
      (hs r (List.of_mem_zip mem).1) (ht r' (List.of_mem_zip mem).2) locale
  have length := bound.groups.length_eq
  refine ⟨?_, fun q => ?_⟩
  · have restrictions : s.groups.map (·.locales) = t.groups.map (·.locales) :=
      map_eq_of_zip length fun mem => (group mem).1
    have flat (s : Settings) : s.declaredLocales =
        s.locales.getD [] ++ (s.groups.map (·.locales)).flatMap (·.getD []) := by
      rw [List.flatMap_map]
      rfl
    rw [flat, flat, set, restrictions]
  · have groups : s.groups.map (groupFor q.locale) = t.groups.map (groupFor q.locale) := by
      refine map_eq_of_zip length fun mem => ?_
      obtain ⟨locales, localized⟩ := group mem
      simp only [groupFor, PathGroup.appliesTo, locales, localized]
    have rules : s.rules.map (fun r => r.localized q.locale) = t.rules.map fun r => r.localized q.locale :=
      map_eq_of_zip bound.rules.length_eq (rule q.locale)
    unfold declaredAction
    rw [covers_eq, covers_eq, groups, ruleAction_eq, ruleAction_eq, rules]

end Settings

namespace ProjectConfig
variable {a b c d : ProjectConfig} {q : FilterQuery}

mutual

theorem agree_of_same : ∀ {a b : ProjectConfig}, a.same b = true →
    List.Forall₂ (fun s t : Settings => s.agrees t = true) (a.configs.map own) (b.configs.map own)
  | node _ _ _, node _ _ _, h => by
    rw [same, Bool.and_eq_true] at h
    exact .cons h.1 (agree_of_sameAll h.2)

theorem agree_of_sameAll : ∀ {cs ds : List ProjectConfig}, sameAll cs ds = true →
    List.Forall₂ (fun s t : Settings => s.agrees t = true) ((configsOf cs).map own) ((configsOf ds).map own)
  | [], [], _ => .nil
  | c :: cs, d :: ds, h => by
    rw [sameAll, Bool.and_eq_true] at h
    rw [configsOf, configsOf, List.map_append, List.map_append]
    exact List.rel_append (agree_of_same h.1) (agree_of_sameAll h.2)
  | [], _ :: _, h | _ :: _, [], h => by cases h

end

/-- The matchers of the include trees bind the same names, configuration by configuration. -/
def BindsAlike (a b : ProjectConfig) : Prop :=
  List.Forall₂ Settings.BindsAlike (a.configs.map own) (b.configs.map own)

theorem bindsAlike_of_boundNames
    (h : (a.configs.map own).map Settings.boundNames = (b.configs.map own).map Settings.boundNames) :
    a.BindsAlike b :=
  forall₂_of_map_eq Settings.bindsAlike_of_boundNames h

theorem own_setLocalesDeep (locales : List Text) (c : ProjectConfig) :
    (c.setLocalesDeep locales).configs.map own = (c.configs.map own).map (.withLocales locales) := by
  have same := congrArg (List.map Prod.fst) (configs_setLocalesDeep locales c)
  rw [List.map_map, List.map_map] at same
  rw [List.map_map]
  exact same

/-- With the same locales set, the configurations of two include trees that are the same declare alike. -/
theorem declaresAlike_of_same (ha : a.Compiled) (hb : b.Compiled) (same : a.same b = true)
    (bound : a.BindsAlike b) (ls : List Text) :
    List.Forall₂ Settings.DeclaresAlike ((a.setLocalesDeep ls).configs.map own)
      ((b.setLocalesDeep ls).configs.map own) := by
  have compiled {c : ProjectConfig} (hc : c.Compiled) :
      ∀ s ∈ c.configs.map own, ∀ r ∈ s.rules, r.Compiled :=
    List.forall_mem_map.2 fun _ hd r hr => hc r (mem_allRules hd hr)
  rw [own_setLocalesDeep, own_setLocalesDeep, List.forall₂_map_left_iff,
    List.forall₂_map_right_iff]
  refine List.forall₂_iff_zip.2 ⟨bound.length_eq, fun {s t} mem => ?_⟩
  have agree : s.agrees t = true := List.forall₂_zip (agree_of_same same) mem
  obtain ⟨groups, rules⟩ := List.forall₂_zip bound mem
  obtain ⟨hs, ht⟩ := List.of_mem_zip mem
  exact Settings.declaresAlike_of_agrees agree ⟨groups, rules⟩ (compiled ha s hs) (compiled hb t ht) rfl

theorem declaredLocales_of_declaresAlike
    (h : List.Forall₂ Settings.DeclaresAlike (c.configs.map own) (d.configs.map own)) :
    c.declaredLocales = d.declaredLocales := by
  have flat (c : ProjectConfig) : c.declaredLocales =
      sortedSet ((c.configs.map own).map Settings.declaredLocales).flatten := by
    rw [List.map_map]
    rfl
  rw [flat, flat, map_eq_of_zip h.length_eq fun mem => (List.forall₂_zip h mem).locales]

theorem strongestDeclared_of_declaresAlike
    (h : List.Forall₂ Settings.DeclaresAlike (c.configs.map own) (d.configs.map own)) (q : FilterQuery) :
    Compatible (strongestDeclared q c.postorder) (strongestDeclared q d.postorder) := by
  refine strongestDeclared_compatible (fun s hs => ?_) fun t ht => ?_
  · obtain ⟨t, ht, alike⟩ := exists_right_of_forall₂ h ((postorder_perm c).mem_iff.1 hs)
    exact ⟨t, (postorder_perm d).mem_iff.2 ht, alike.action q ▸ .refl _⟩
  · obtain ⟨s, hs, alike⟩ := exists_right_of_forall₂ h.flip ((postorder_perm d).mem_iff.1 ht)
    exact ⟨s, (postorder_perm c).mem_iff.2 hs, alike.action q ▸ .refl _⟩

/-! ### What is excluded -/

/-- For every query the two make the same decision, unless it fails for one of them. -/
def DecidesAlike (a b : ProjectConfig) : Prop := ∀ q, Compatible (a.filter q).value.1 (b.filter q).value.1

/-- For everything that one of the two excludes the other excludes something that decides alike. -/
structure ExcludesAlike (a b : ProjectConfig) : Prop where
  left : ∀ c ∈ a.excludes, ∃ d ∈ b.excludes, c.DecidesAlike d
  right : ∀ d ∈ b.excludes, ∃ c ∈ a.excludes, c.DecidesAlike d

theorem excludesAlike_of_eq (h : a.excludes = b.excludes) : a.ExcludesAlike b :=
  ⟨fun c hc => ⟨c, h ▸ hc, fun _ => .refl _⟩, fun d hd => ⟨d, h ▸ hd, fun _ => .refl _⟩⟩

theorem DecidesAlike.hit (h : c.DecidesAlike d) (hc : c.Fresh) (hd : d.Fresh) (q : FilterQuery) :
    Compatible ((fun action => decide (action = some .error)) <$> answer true q c)
      ((fun action => decide (action = some .error)) <$> answer true q d) := by
  have hit (action : Option FilterAction) : action.getD .ignore = .error ↔ action = some .error := by
    cases action <;> simp
  have decided := h q
  rw [value_filter hc, value_filter hd] at decided
  intro x y hx hy
  cases h : answer true q c with
  | error => rw [h] at hx; cases hx
  | ok action =>
    cases h' : answer true q d with
    | error => rw [h'] at hy; cases hy
    | ok action' =>
      rw [h] at hx decided
      rw [h'] at hy decided
      cases hx
      cases hy
      have same : action.getD .ignore = action'.getD .ignore := decided rfl rfl
      rw [decide_eq_decide, ← hit, ← hit, same]

theorem ExcludesAlike.answerExcludes (h : a.ExcludesAlike b) (ha : a.Fresh) (hb : b.Fresh)
    (q : FilterQuery) : Compatible (answerExcludes q a.excludes) (answerExcludes q b.excludes) := by
  obtain ⟨_, _, excludes⟩ := a
  obtain ⟨_, _, excludes'⟩ := b
  have fresh := freshAll_iff.1 ha.2.2
  have fresh' := freshAll_iff.1 hb.2.2
  rw [answerExcludes_eq, answerExcludes_eq]
  refine .anyM (fun c hc => ?_) fun d hd => ?_
  · obtain ⟨d, hd, alike⟩ := h.left c hc
    exact ⟨d, hd, alike.hit (fresh c hc) (fresh' d hd) q⟩
  · obtain ⟨c, hc, alike⟩ := h.right d hd
    exact ⟨c, hc, alike.hit (fresh c hc) (fresh' d hd) q⟩

/-- Configurations that are the same decide alike once the same locales have been set on them and on all
that they include, if their matchers bind the same names and what they exclude decides alike. -/
theorem decidesAlike_of_same (ha : a.Reachable) (hb : b.Reachable) (same : a.same b = true)
    (bound : a.BindsAlike b) (excluded : a.ExcludesAlike b) (ls : List Text) :
    (a.setLocales ls true).DecidesAlike (b.setLocales ls true) := by
  intro q
  have alike := declaresAlike_of_same ha.compiled hb.compiled same bound ls
  have hit := excluded.answerExcludes ha.fresh hb.fresh { q with entity := none }
  rw [← excludes_setLocalesDeep ls a, ← excludes_setLocalesDeep ls b] at hit
  have answers := (ha.layered.setLocales ls true).answer_compatible (hb.layered.setLocales ls true)
    (declaredLocales_of_declaresAlike alike) hit (strongestDeclared_of_declaresAlike alike q)
  rw [value_filter (ha.fresh.setLocales ls true), value_filter (hb.fresh.setLocales ls true)]
  exact answers.map _

def bindApp : Step := .addEnvironment [("app".toList, .parse "mail".toList)]

def bindLocale : Step := .addEnvironment [(localeName, .parse "fr".toList)]

def appFiles : Step := .addPaths none [⟨"{app}/{locale}/**".toList, none, none, none, none⟩]

def appRules : Step := .addRules none [⟨.one "{app}/{locale}/a.ftl".toList, .ignore, none⟩]

def webFiles : Step := .addPaths none [⟨"web/{locale}/**".toList, none, none, none, none⟩]

/-- A configuration with a locale bound for its matchers. -/
def shipped : ProjectConfig :=
  run none [bindApp, bindLocale, appFiles, appRules, .addChild none [webFiles],
    .exclude none [webFiles, .setLocales ["de".toList] false], .setLocales ["fr".toList] false]

/-- The same configuration, where the locale is bound too late for the matchers. -/
def nightly : ProjectConfig :=
  run none [bindApp, appFiles, appRules, bindLocale, .addChild none [webFiles],
    .exclude none [webFiles, .setLocales ["de".toList] false]]

theorem nightly_decidesAlike : shipped.same nightly = true ∧
    (shipped.setLocales ["de".toList] true).DecidesAlike (nightly.setLocales ["de".toList] true) := by
  have same : shipped.same nightly = true := by decide +kernel
  have bound : shipped.BindsAlike nightly := bindsAlike_of_boundNames (by decide +kernel)
  have excluded : shipped.ExcludesAlike nightly := excludesAlike_of_eq rfl
  exact ⟨same, decidesAlike_of_same ⟨_, _, [], rfl⟩ ⟨_, _, [], rfl⟩ same bound excluded _⟩

/-- A path group with the binding of the name that its pattern has, and one without. -/
def boundBefore : ProjectConfig :=
  run none [bindApp, .addPaths none [⟨"{app}/*".toList, none, none, none, none⟩]]

def boundAfter : ProjectConfig :=
  run none [.addPaths none [⟨"{app}/*".toList, none, none, none, none⟩], bindApp]

/-- Configurations that are the same need not decide alike: a name that only one of two matchers binds is
passed over. -/
theorem not_forall_decidesAlike_of_same : ¬∀ (a b : ProjectConfig) (ls : List Text),
    a.Reachable → b.Reachable → a.same b = true →
      a.configs.map (fun c => c.own.groups.map (·.locales)) =
        b.configs.map (fun c => c.own.groups.map (·.locales)) →
      (a.setLocales ls true).DecidesAlike (b.setLocales ls true) := by
  intro h
  have alike := h boundBefore boundAfter ["de".toList] ⟨_, _, [], rfl⟩ ⟨_, _, [], rfl⟩ (by decide +kernel)
    (by decide +kernel) ⟨"de".toList, "chat/a".toList, none⟩
  have ignored : ((boundBefore.setLocales ["de".toList] true).filter
      ⟨"de".toList, "chat/a".toList, none⟩).value.1 = .ok .ignore := by decide +kernel
  have claimed : ((boundAfter.setLocales ["de".toList] true).filter
      ⟨"de".toList, "chat/a".toList, none⟩).value.1 = .ok .error := by decide +kernel
  cases alike ignored claimed

/-- A configuration of nothing, and one that excludes files. -/
def nothing : ProjectConfig := run none []

def webExcluded : ProjectConfig :=
  run none [.exclude none [webFiles, .setLocales ["de".toList] false]]

/-- Nor need they if all names are bound alike: what only one of the two excludes is passed over as well. -/
theorem not_forall_decidesAlike_of_bindsAlike : ¬∀ (a b : ProjectConfig) (ls : List Text),
    a.Reachable → b.Reachable → a.same b = true → a.BindsAlike b →
      (a.setLocales ls true).DecidesAlike (b.setLocales ls true) := by
  intro h
  have same : nothing.same webExcluded = true := by decide +kernel
  have bound : nothing.BindsAlike webExcluded := bindsAlike_of_boundNames (by decide +kernel)
  have alike := h nothing webExcluded ["de".toList] ⟨_, _, [], rfl⟩ ⟨_, _, [], rfl⟩ same bound
    ⟨"de".toList, "web/de/a".toList, none⟩
  have ignored : ((nothing.setLocales ["de".toList] true).filter
      ⟨"de".toList, "web/de/a".toList, none⟩).value.1 = .ok .ignore := by decide +kernel
  have hit : ((webExcluded.setLocales ["de".toList] true).filter
      ⟨"de".toList, "web/de/a".toList, none⟩).value.1 = .ok .error := by decide +kernel
  cases alike ignored hit

end ProjectConfig

end LocalePaths
