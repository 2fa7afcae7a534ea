import LocalePaths.Filter.Project
import LocalePaths.Proofs.Failure
import Mathlib.Logic.Basic

/-!
# What a configuration decides itself

`Settings.declaredAction` says which action the path groups and rules of one configuration declare for
a query. The filter cache of a locale gives this answer (`FilterCache.decide_eq_declaredAction`), also
after its matchers have been compiled: a cache is compared up to that (`FilterCache.uncompiled`).
-/

namespace LocalePaths

namespace Matcher
variable {m : Matcher} {path : Text}

/-- The matcher before its expression is compiled. -/
def uncompiled (m : Matcher) : Matcher := { m with compiled := false }

theorem isMatch_uncompiled (m : Matcher) (path : Text) :
    m.uncompiled.isMatch path = m.isMatch path := rfl

theorem value_tracedIsMatch (m : Matcher) (path : Text) :
    (m.tracedIsMatch path).value = (m.isMatch path, { m with compiled := true }) := rfl

end Matcher

namespace FilterRule
variable {r : FilterRule} {path : Text} {entity : Option Text}

def uncompiled (r : FilterRule) : FilterRule := { r with path := r.path.uncompiled }

def localized (r : FilterRule) (locale : Text) : FilterRule :=
  { r with path := r.path.withEnv [(localeName, .parse locale)] }

/-- Whether the rule is about a path and an entity: its key selects the entity and its path
matches. -/
def isAbout (r : FilterRule) (path : Text) (entity : Option Text) : Except FilterError Bool := do
  if ← r.selects entity then (r.path.isMatch path).mapError .pattern else return false

theorem value_applies (r : FilterRule) (path : Text) (entity : Option Text) :
    (r.applies path entity).value.1 = r.isAbout path entity ∧
      (r.applies path entity).value.2.uncompiled = r.uncompiled := by
  unfold applies isAbout
  cases r.selects entity with
  | error e => exact ⟨rfl, rfl⟩
  | ok selected => cases selected <;> exact ⟨rfl, rfl⟩

end FilterRule

namespace Settings

/-- Whether one of the path groups of the locale matches the path. -/
def covers (s : Settings) (q : FilterQuery) : Except FilterError Bool :=
  let groups := s.groups.filter fun g => g.appliesTo q.locale
  (groups.anyM fun g : PathGroup => (g.localized q.locale).isMatch q.path).mapError .pattern

/-- The action of the last rule that is about the path and the entity. -/
def ruleAction (s : Settings) (q : FilterQuery) : Except FilterError (Option FilterAction) :=
  Option.map FilterRule.action <$>
    s.rules.reverse.findM? fun r => (r.localized q.locale).isAbout q.path q.entity

/-- The action that one configuration declares for a query: none outside its path groups, and an error
where no rule is about it. -/
def declaredAction (s : Settings) (q : FilterQuery) : Except FilterError (Option FilterAction) := do
  if ← s.covers q then return some ((← s.ruleAction q).getD .error) else return none

end Settings

theorem action_findM?_map {ε : Type} (p : FilterRule → Except ε Bool) {f : FilterRule → FilterRule}
    (hf : ∀ r, (f r).action = r.action) (rs : List FilterRule) :
    Option.map FilterRule.action <$> (rs.map f).findM? p =
      Option.map FilterRule.action <$> rs.findM? fun r => p (f r) := by
  rw [findM?_map]
  cases rs.findM? fun r => p (f r) with
  | error e => rfl
  | ok found =>
    cases found with
    | none => rfl
    | some r => exact congrArg (Except.ok ∘ some) (hf r)

namespace FilterCache
variable {c : FilterCache} {s : Settings} {q : FilterQuery} {path : Text} {entity : Option Text}
  {locale : Text}

def uncompiled (c : FilterCache) : FilterCache :=
  ⟨c.paths.map Matcher.uncompiled, c.rules.map FilterRule.uncompiled⟩

theorem value_bindAll (locale : Text) : ∀ ms : List Matcher,
    (bindAll locale ms).value = ms.map fun m => m.withEnv [(localeName, .parse locale)]
  | [] => rfl
  | m :: ms => congrArg (m.withEnv [(localeName, .parse locale)] :: ·) (value_bindAll locale ms)

theorem value_bindRules (locale : Text) : ∀ rs : List FilterRule,
    (bindRules locale rs).value = rs.map fun r => r.localized locale
  | [] => rfl
  | r :: rs => congrArg (r.localized locale :: ·) (value_bindRules locale rs)

theorem value_build (locale : Text) (groups : List PathGroup) (rules : List FilterRule) :
    (build locale groups rules).value =
      ⟨(groups.filter fun g => g.appliesTo locale).map fun g => g.localized locale,
        rules.reverse.map fun r => r.localized locale⟩ := by
  show FilterCache.mk (bindAll locale _).value (bindRules locale rules).value.reverse = _
  rw [value_bindAll, value_bindRules, List.map_map, List.map_reverse]
  rfl

theorem value_anyMatch (path : Text) : ∀ ms : List Matcher,
    (anyMatch path ms).value.1 = ms.anyM (fun m => m.isMatch path) ∧
      (anyMatch path ms).value.2.map Matcher.uncompiled = ms.map Matcher.uncompiled
  | [] => ⟨rfl, rfl⟩
  | m :: ms => by
    obtain ⟨answer, kept⟩ := value_anyMatch path ms
    unfold anyMatch
    simp only [Traced.value_bind, Matcher.value_tracedIsMatch, List.anyM]
    cases h : m.isMatch path with
    | error e => exact ⟨rfl, rfl⟩
    | ok found =>
      cases found with
      | true => exact ⟨rfl, rfl⟩
      | false => exact ⟨answer, congrArg (m.uncompiled :: ·) kept⟩

theorem value_firstApplying (path : Text) (entity : Option Text) : ∀ rs : List FilterRule,
    (firstApplying path entity rs).value.1 =
        Option.map FilterRule.action <$> rs.findM? (fun r => r.isAbout path entity) ∧
      (firstApplying path entity rs).value.2.map FilterRule.uncompiled =
        rs.map FilterRule.uncompiled
  | [] => ⟨rfl, rfl⟩
  | r :: rs => by
    obtain ⟨answer, kept⟩ := value_firstApplying path entity rs
    obtain ⟨applies, same⟩ := r.value_applies path entity
    have action : (r.applies path entity).value.2.uncompiled.action = r.uncompiled.action :=
      congrArg FilterRule.action same
    unfold firstApplying
    simp only [Traced.value_bind, List.findM?]
    rw [← applies]
    cases h : (r.applies path entity).value.1 with
    | error e => exact ⟨rfl, congrArg (· :: rs.map _) same⟩
    | ok found =>
      cases found with
      | true => exact ⟨congrArg (Except.ok ∘ some) action, congrArg (· :: rs.map _) same⟩
      | false => exact ⟨answer, congrArg₂ (· :: ·) same kept⟩

theorem value_decide (c : FilterCache) (path : Text) (entity : Option Text) :
    ((c.decide path entity).value.1 = do
      if ← (c.paths.anyM fun m : Matcher => m.isMatch path).mapError .pattern then
        return some ((← Option.map FilterRule.action <$>
          c.rules.findM? fun r => r.isAbout path entity).getD .error)
      else return none) ∧
    (c.decide path entity).value.2.uncompiled = c.uncompiled := by
  obtain ⟨covered, paths⟩ := value_anyMatch path c.paths
  obtain ⟨action, rules⟩ := value_firstApplying path entity c.rules
  unfold decide
  simp only [Traced.value_bind]
  rw [← covered, ← action]
  have kept : uncompiled ⟨(anyMatch path c.paths).value.2, c.rules⟩ = c.uncompiled :=
    congrArg (FilterCache.mk · _) paths
  cases h : (anyMatch path c.paths).value.1 with
  | error e => exact ⟨rfl, kept⟩
  | ok found =>
    cases found with
    | false => exact ⟨rfl, kept⟩
    | true =>
      refine ⟨?_, congrArg₂ FilterCache.mk paths rules⟩
      simp only [Traced.value_bind, Traced.value_pure]
      cases (firstApplying path entity c.rules).value.1 <;> rfl

/-- A cache that is as when it was built gives the answer that the configuration declares. -/
theorem decide_eq_declaredAction (h : c.uncompiled = (build q.locale s.groups s.rules).value) :
    (c.decide q.path q.entity).value.1 = s.declaredAction q := by
  rw [value_build] at h
  have paths : c.paths.anyM (fun m => m.isMatch q.path) =
      (s.groups.filter fun g => g.appliesTo q.locale).anyM
        fun g : PathGroup => (g.localized q.locale).isMatch q.path := by
    have := congrArg (fun c => c.paths.anyM fun m => m.isMatch q.path) h
    simpa only [uncompiled, anyM_map, Matcher.isMatch_uncompiled] using this
  have rules : Option.map FilterRule.action <$> c.rules.findM? (fun r => r.isAbout q.path q.entity) =
      s.ruleAction q := by
    have := congrArg (fun c => Option.map FilterRule.action <$>
      c.rules.findM? fun r => r.isAbout q.path q.entity) h
    rw [uncompiled, action_findM?_map (f := FilterRule.uncompiled) _ fun _ => rfl,
      action_findM?_map (f := (FilterRule.localized · q.locale)) _ fun _ => rfl] at this
    exact this
  rw [(value_decide ..).1, paths, rules]
  rfl

end FilterCache

end LocalePaths
