import LocalePaths.Filter.Key
import LocalePaths.Matcher

/-!
# Filter rules

A rule says what is done about the paths that match it, or about the entities in them that its key
selects.
-/

namespace LocalePaths

/-- A rule for paths, or for entities if it has a key. -/
structure FilterRule where
  path : Matcher
  key : Option KeyPattern
  action : FilterAction
  deriving DecidableEq, Inhabited

namespace FilterRule

/-- The rule with the locale bound in its path. -/
def withLocale (r : FilterRule) (locale : Text) : Traced FilterRule := do
  return { r with path := r.path.withEnv [(localeName, ← Pattern.compile locale)] }

/-- Whether two rules have agreeing paths, the same key and the same action. -/
def agrees (r other : FilterRule) : Bool :=
  r.path.agrees other.path && r.key.map (·.source) = other.key.map (·.source) &&
    r.action = other.action

/-- Whether the key of the rule selects an entity; a rule without a key selects all and the file
itself. -/
def selects (r : FilterRule) (entity : Option Text) : Except FilterError Bool :=
  match r.key, entity with
  | none, _ => .ok true
  | some _, none => .ok false
  | some key, some entity => key.isMatch entity

/-- Whether the rule applies to a file or an entity. The path is only asked for if the key selects the entity. -/
def applies (r : FilterRule) (path : Text) (entity : Option Text) :
    Traced (Except FilterError Bool × FilterRule) := do
  match r.selects entity with
  | .error e => return (.error e, r)
  | .ok false => return (.ok false, r)
  | .ok true =>
    let (answer, m) ← r.path.tracedIsMatch path
    return (answer.mapError .pattern, { r with path := m })

end FilterRule

end LocalePaths
