import LocalePaths.Filter.PathGroup
import LocalePaths.Filter.Rule

/-!
# Filter caches

A filter cache holds what one configuration declares for one locale: the patterns of its path groups
and its rules, with the locale bound. The rules are kept with the last one first, since a later rule
takes precedence.
-/

namespace LocalePaths

/-- The path patterns and rules of a configuration for a locale; the last rule comes first. -/
structure FilterCache where
  paths : List Matcher
  rules : List FilterRule
  deriving DecidableEq, Inhabited

namespace FilterCache

/-- The matchers with the locale bound, which is compiled for each of them. -/
def bindAll (locale : Text) : List Matcher → Traced (List Matcher)
  | [] => return []
  | m :: ms => do
    let p ← Pattern.compile locale
    return m.withEnv [(localeName, p)] :: (← bindAll locale ms)

/-- The rules with the locale bound. -/
def bindRules (locale : Text) : List FilterRule → Traced (List FilterRule)
  | [] => return []
  | r :: rs => do
    let r ← r.withLocale locale
    return r :: (← bindRules locale rs)

/-- Binds the locale in the path groups that apply to it and in all rules. -/
def build (locale : Text) (groups : List PathGroup) (rules : List FilterRule) :
    Traced FilterCache := do
  let paths ← bindAll locale ((groups.filter fun g => g.appliesTo locale).map (·.l10n))
  let rules ← bindRules locale rules
  Traced.report (.cacheBuilt locale paths.length rules.length)
  return ⟨paths, rules.reverse⟩

/-- Whether one of the matchers matches a path, and the matchers afterwards. -/
def anyMatch (path : Text) : List Matcher → Traced (Except PatternError Bool × List Matcher)
  | [] => return (.ok false, [])
  | m :: ms => do
    let (answer, m) ← m.tracedIsMatch path
    match answer with
    | .ok false =>
      let (answer, ms) ← anyMatch path ms
      return (answer, m :: ms)
    | answer => return (answer, m :: ms)

/-- The action of the first rule that applies, and the rules afterwards; each rule that is asked is reported. -/
def firstApplying (path : Text) (entity : Option Text) :
    List FilterRule → Traced (Except FilterError (Option FilterAction) × List FilterRule)
  | [] => return (.ok none, [])
  | r :: rs => do
    let (answer, r) ← r.applies path entity
    match answer with
    | .error e => return (.error e, r :: rs)
    | .ok applies =>
      Traced.report (.ruleEvaluate path r.path.pattern.text applies)
      if applies then return (.ok (some r.action), r :: rs)
      let (answer, rs) ← firstApplying path entity rs
      return (answer, r :: rs)

/-- The action for a path, which is none outside the path groups and an error where no rule applies,
and the cache afterwards. -/
def decide (c : FilterCache) (path : Text) (entity : Option Text) :
    Traced (Except FilterError (Option FilterAction) × FilterCache) := do
  let (covered, paths) ← anyMatch path c.paths
  let c := { c with paths }
  match covered with
  | .error e => return (.error (.pattern e), c)
  | .ok false => return (.ok none, c)
  | .ok true =>
    let (answer, rules) ← firstApplying path entity c.rules
    return (answer.map fun action => some (action.getD .error), { c with rules })

end FilterCache

end LocalePaths
