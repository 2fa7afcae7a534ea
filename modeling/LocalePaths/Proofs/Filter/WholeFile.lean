import LocalePaths.Proofs.Filter.Corresponds
import LocalePaths.Proofs.Filter.Flat

/-!
# Whole files and keys

A rule with a key is about entities only. So a question about a whole file is answered as if no such rules
were declared, and since excludes are always asked about whole files, rules with keys have no influence at
all in them (`ProjectConfig.filter_eq_of_deleted`). Failures are the same too, because the path of a rule
that does not select the file is never looked at.

Two trees are compared node by node: if corresponding nodes declare alike, the trees answer alike
(`Corresponds.answer`).
-/

namespace LocalePaths

namespace FilterRule
variable {r : FilterRule} {rs ss : List FilterRule} {path : Text}

/-- Of the rules `rs` some that have keys are deleted, and `ss` are left. -/
inductive Deleted : (rs ss : List FilterRule) → Prop
  | nil : Deleted [] []
  | keep {r : FilterRule} {rs ss : List FilterRule} : Deleted rs ss → Deleted (r :: rs) (r :: ss)
  | delete {r : FilterRule} {rs ss : List FilterRule} : r.key.isSome → Deleted rs ss →
    Deleted (r :: rs) ss

instance decidableDeleted : DecidableRel Deleted
  | [], [] => isTrue .nil
  | [], _ :: _ => isFalse nofun
  | r :: rs, ss =>
    have := decidableDeleted rs
    decidable_of_iff (ss.head? = some r ∧ Deleted rs ss.tail ∨ r.key.isSome ∧ Deleted rs ss) (by
      constructor
      · rintro (⟨first, later⟩ | ⟨keyed, later⟩)
        · obtain ⟨ss, rfl⟩ := List.head?_eq_some_iff.1 first
          exact .keep later
        · exact .delete keyed later
      · rintro (_ | later | ⟨keyed, later⟩)
        · exact .inl ⟨rfl, later⟩
        · exact .inr ⟨keyed, later⟩)

theorem Deleted.filter_eq (h : Deleted rs ss) :
    rs.filter (·.key.isNone) = ss.filter (·.key.isNone) := by
  induction h with
  | nil => rfl
  | keep _ ih => simp only [List.filter_cons, ih]
  | delete keyed _ ih => rw [List.filter_cons_of_neg (by simpa using Option.isSome_iff_ne_none.1 keyed), ih]

theorem isAbout_none (h : r.key.isNone = false) : r.isAbout path none = .ok false := by
  obtain ⟨p, key, action⟩ := r
  cases key with
  | none => cases h
  | some k => rfl

end FilterRule

namespace Settings
variable {s t : Settings} {q : FilterQuery}

/-- The settings `t` are `s` where some rules that have keys are deleted. What has been computed may
differ. -/
structure Deleted (s t : Settings) : Prop where
  rules : FilterRule.Deleted s.rules t.rules
  others : t.invalidate = { s with rules := t.rules }.invalidate

/-- The settings are the same apart from what has been computed. -/
def Same (s t : Settings) : Prop := s.invalidate = t.invalidate

instance : DecidableRel Settings.Deleted := fun s t =>
  decidable_of_iff (FilterRule.Deleted s.rules t.rules ∧
      t.invalidate = { s with rules := t.rules }.invalidate)
    ⟨fun h => ⟨h.1, h.2⟩, fun h => ⟨h.rules, h.others⟩⟩

instance : DecidableRel Settings.Same := fun s t => inferInstanceAs (Decidable (s.invalidate = t.invalidate))

theorem ruleAction_whole (s : Settings) (locale path : Text) :
    s.ruleAction ⟨locale, path, none⟩ = Option.map FilterRule.action <$>
      (s.rules.filter (·.key.isNone)).reverse.findM? fun r => (r.localized locale).isAbout path none := by
  have passed : ∀ r ∈ s.rules.reverse, r.key.isNone = false →
      (r.localized locale).isAbout path none = .ok false :=
    fun r _ keyed => FilterRule.isAbout_none (r := r.localized locale) keyed
  rw [← List.filter_reverse, findM?_filter passed]
  rfl

/-- The settings declare the same locales, and the same action for the query. -/
def AlikeFor (q : FilterQuery) (s t : Settings) : Prop :=
  s.declaredLocales = t.declaredLocales ∧ s.declaredAction q = t.declaredAction q

theorem Same.alikeFor (h : s.Same t) (q : FilterQuery) : AlikeFor q s t := by
  have locales : s.invalidate.declaredLocales = t.invalidate.declaredLocales :=
    congrArg Settings.declaredLocales h
  exact ⟨locales, declaredAction_congr h⟩

/-- Settings without some rules that have keys are alike for whole files. -/
theorem Deleted.alikeFor (h : s.Deleted t) (locale path : Text) :
    AlikeFor ⟨locale, path, none⟩ s t := by
  have locales : t.invalidate.declaredLocales = { s with rules := t.rules }.invalidate.declaredLocales :=
    congrArg Settings.declaredLocales h.others
  have covered : t.invalidate.covers ⟨locale, path, none⟩ =
      { s with rules := t.rules }.invalidate.covers ⟨locale, path, none⟩ :=
    congrArg (covers · _) h.others
  have covered : s.covers ⟨locale, path, none⟩ = t.covers ⟨locale, path, none⟩ := covered.symm
  refine ⟨locales.symm, ?_⟩
  simp only [Settings.declaredAction, covered, ruleAction_whole, h.rules.filter_eq]

end Settings

namespace ProjectConfig
variable {c d : ProjectConfig} {E : Settings → Settings → Prop}

mutual

/-- Trees whose settings are alike for a query, and in excludes for the whole file, answer it alike. -/
theorem Corresponds.answer {q : FilterQuery}
    (excluded : ∀ s t, E s t → Settings.AlikeFor { q with entity := none } s t) (gated : Bool)
    {R : Settings → Settings → Prop} (tree : ∀ s t, R s t → Settings.AlikeFor q s t)
    {c d : ProjectConfig} : Corresponds E R c d →
      ProjectConfig.answer gated q c = ProjectConfig.answer gated q d
  | .node own includes excludes => by
    have locales : (node _ _ _).declaredLocales = (node _ _ _).declaredLocales := congrArg sortedSet
      ((Corresponds.node own includes excludes).locales fun s t r => (tree s t r).1)
    have hit := CorrespondsAll.answerExcludes excluded excludes
    have below := CorrespondsAll.answerIncludes excluded tree none includes
    simp only [ProjectConfig.answer, locales, hit, below, (tree _ _ own).2]

theorem CorrespondsAll.answerExcludes {q : FilterQuery}
    (excluded : ∀ s t, E s t → Settings.AlikeFor { q with entity := none } s t)
    {cs ds : List ProjectConfig} : CorrespondsAll E E cs ds →
      ProjectConfig.answerExcludes { q with entity := none } cs =
        ProjectConfig.answerExcludes { q with entity := none } ds
  | .nil => rfl
  | .cons first later => by
    have first := Corresponds.answer (q := { q with entity := none }) excluded true excluded first
    have later := CorrespondsAll.answerExcludes excluded later
    simp only [ProjectConfig.answerExcludes, first, later]

theorem CorrespondsAll.answerIncludes {q : FilterQuery}
    (excluded : ∀ s t, E s t → Settings.AlikeFor { q with entity := none } s t)
    {R : Settings → Settings → Prop} (tree : ∀ s t, R s t → Settings.AlikeFor q s t)
    (above : Option FilterAction) {cs ds : List ProjectConfig} : CorrespondsAll E R cs ds →
      ProjectConfig.answerIncludes q above cs = ProjectConfig.answerIncludes q above ds
  | .nil => rfl
  | .cons first later => by
    have first := Corresponds.answer excluded false tree first
    have later := fun above => CorrespondsAll.answerIncludes excluded tree above later
    simp only [ProjectConfig.answerIncludes, first, later]

end

/-- Rules with keys can be deleted anywhere without an influence on whole files, and in excludes without any
influence at all. -/
theorem filter_eq_of_deleted (hc : c.Fresh) (hd : d.Fresh) :
    (Corresponds Settings.Deleted Settings.Deleted c d → ∀ locale path,
      (c.filter ⟨locale, path, none⟩).value.1 = (d.filter ⟨locale, path, none⟩).value.1) ∧
    (Corresponds Settings.Deleted Settings.Same c d → ∀ q,
      (c.filter q).value.1 = (d.filter q).value.1) := by
  constructor
  · intro h locale path
    have alike : ∀ s t, s.Deleted t → Settings.AlikeFor ⟨locale, path, none⟩ s t :=
      fun _ _ deleted => deleted.alikeFor locale path
    rw [value_filter hc, value_filter hd, h.answer (q := ⟨locale, path, none⟩) alike true alike]
  · intro h q
    have excluded : ∀ s t, s.Deleted t → Settings.AlikeFor { q with entity := none } s t :=
      fun _ _ deleted => deleted.alikeFor q.locale q.path
    rw [value_filter hc, value_filter hd, h.answer excluded true fun _ _ same => same.alikeFor q]

/-- Files with warnings, and old ones that are errors, but not their titles if the rules about keys are
added. -/
def titled (keys excludedKeys : List RuleDeclaration) : ProjectConfig :=
  let group (l10n : Text) : Step := .addPaths none [⟨l10n, none, none, none, none⟩]
  run none [group "{locale}/mail/**".toList, .setLocales ["de".toList] true,
    .addRules none (⟨.one "{locale}/mail/**".toList, .warning, none⟩ :: keys),
    .addChild none [group "{locale}/browser/**".toList, .addRules none keys],
    .exclude none [group "{locale}/mail/old/**".toList, .setLocales ["de".toList] false,
      .addRules none excludedKeys]]

def titles : List RuleDeclaration :=
  [⟨.one "{locale}/**".toList, .ignore, some (.one "title".toList)⟩]

/-- With or without them a file has a warning, and an old one is an error, even its title, which the rule of
the exclude would ignore. -/
theorem titled_filter :
    (titled titles titles).Fresh ∧ (titled [] []).Fresh ∧ (titled titles []).Fresh ∧
    Corresponds Settings.Deleted Settings.Deleted (titled titles titles) (titled [] []) ∧
    Corresponds Settings.Deleted Settings.Same (titled titles titles) (titled titles []) ∧
    ((titled titles titles).filter ⟨"de".toList, "de/mail/a.ftl".toList, none⟩).value.1 = .ok .warning ∧
    ((titled titles titles).filter
      ⟨"de".toList, "de/mail/old/a.ftl".toList, some "title".toList⟩).value.1 = .ok .error := by
  have reachable : ∀ keys excludedKeys, (titled keys excludedKeys).Reachable :=
    fun _ _ => ⟨_, _, [], rfl⟩
  have fresh := fun keys excludedKeys => (reachable keys excludedKeys).fresh
  have all : Corresponds Settings.Deleted Settings.Deleted (titled titles titles) (titled [] []) := by
    decide +kernel
  have excluded : Corresponds Settings.Deleted Settings.Same (titled titles titles) (titled titles []) := by
    decide +kernel
  have whole := (filter_eq_of_deleted (fresh titles titles) (fresh [] [])).1 all
  have entity := (filter_eq_of_deleted (fresh titles titles) (fresh titles [])).2 excluded
  refine ⟨fresh _ _, fresh _ _, fresh _ _, all, excluded, ?_, ?_⟩
  · exact (whole _ _).trans (by decide +kernel)
  · exact (entity _).trans (by decide +kernel)

end ProjectConfig

end LocalePaths
