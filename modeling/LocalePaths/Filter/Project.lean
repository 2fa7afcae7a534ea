import LocalePaths.Filter.Cache

/-!
# Project configurations

A project configuration declares path groups, rules and locales, includes other configurations, and
excludes the files of yet others. `ProjectConfig.filter` decides what is done about a file or an
entity of a locale.

Two things that follow from the declarations are kept once they have been computed: the list of all
locales, and a filter cache for every locale that was asked for. They go along with a configuration
when it is included or excluded.
-/

namespace LocalePaths

/-- What one configuration declares itself, and what has been computed from it. -/
structure Settings where
  path : Option Text
  root : Option Text
  environment : Environment
  groups : List PathGroup
  rules : List FilterRule
  locales : Option (List Text)
  knownLocales : Option (List Text)
  caches : List (Text × FilterCache)
  deriving DecidableEq, Inhabited

/-- A configuration with those that it includes and those that it excludes. -/
inductive ProjectConfig where
  | node (own : Settings) (includes excludes : List ProjectConfig)
  deriving Inhabited

/-- A question about a file of a locale, or about an entity in it. -/
structure FilterQuery where
  locale : Text
  path : Text
  entity : Option Text
  deriving DecidableEq, Inhabited

namespace Settings

/-- The settings of a configuration file that declares nothing yet. -/
def ofPath (path : Option Text) : Settings := ⟨path, none, .empty, [], [], none, none, []⟩

/-- Drops what has been computed from the declarations. -/
def invalidate (s : Settings) : Settings := { s with knownLocales := none, caches := [] }

/-- The locales of the configuration itself and of its path groups. -/
def declaredLocales (s : Settings) : List Text :=
  s.locales.getD [] ++ s.groups.flatMap fun g => g.locales.getD []

/-- Whether two configurations declare the same themselves, apart from locales. -/
def agrees (s other : Settings) : Bool :=
  s.path = other.path && s.root = other.root &&
    (s.groups.length = other.groups.length &&
      (s.groups.zip other.groups).all fun e => e.1.agrees e.2) &&
    (s.rules.length = other.rules.length &&
      (s.rules.zip other.rules).all fun e => e.1.agrees e.2) &&
    s.environment = other.environment

/-- The filter cache of a locale, which is built if there is none yet, and the settings with it. -/
def cacheFor (s : Settings) (locale : Text) : Traced FilterCache :=
  match NameMap.find locale s.caches with
  | some cache => return cache
  | none => FilterCache.build locale s.groups s.rules

/-- Keeps the cache of a locale in place of the one before. -/
def keepCache (s : Settings) (locale : Text) (cache : FilterCache) : Settings :=
  { s with caches := (locale, cache) :: s.caches.filter fun e => e.1 ≠ locale }

/-- The action that the configuration itself declares for a path, and the settings afterwards. -/
def decide (s : Settings) (q : FilterQuery) :
    Traced (Except FilterError (Option FilterAction) × Settings) := do
  let cache ← s.cacheFor q.locale
  let (answer, cache) ← cache.decide q.path q.entity
  return (answer, s.keepCache q.locale cache)

end Settings

namespace ProjectConfig

/-- A configuration that declares nothing yet, and includes and excludes nothing. -/
def ofPath (path : Option Text) : ProjectConfig := node (.ofPath path) [] []

def own : ProjectConfig → Settings
  | node own _ _ => own

def includes : ProjectConfig → List ProjectConfig
  | node _ includes _ => includes

def excludes : ProjectConfig → List ProjectConfig
  | node _ _ excludes => excludes

def modifyOwn (f : Settings → Settings) : ProjectConfig → ProjectConfig
  | node own includes excludes => node (f own) includes excludes

mutual

/-- The configuration and all that it includes, each before those that it includes itself. -/
def configs : ProjectConfig → List ProjectConfig
  | node own includes excludes => node own includes excludes :: configsOf includes

def configsOf : List ProjectConfig → List ProjectConfig
  | [] => []
  | c :: cs => configs c ++ configsOf cs

end

/-- The locales that the configuration and all that it includes declare, in order and each once. -/
def declaredLocales (c : ProjectConfig) : List Text :=
  sortedSet (c.configs.flatMap fun d => d.own.declaredLocales)

/-- The list of all locales: the one that is kept, or else the declared locales. -/
def allLocales (c : ProjectConfig) : List Text := c.own.knownLocales.getD c.declaredLocales

/-- Keeps the list of all locales. -/
def learnLocales (c : ProjectConfig) : ProjectConfig :=
  c.modifyOwn fun s => { s with knownLocales := some c.allLocales }

/-! ### Changes that cannot be refused -/

/-- Binds names for the patterns that are compiled from now on. -/
def addEnvironment (bindings : List (Text × Pattern)) (c : ProjectConfig) : ProjectConfig :=
  c.modifyOwn fun s => { s with environment := s.environment.insertMany bindings }

mutual

/-- Sets the locales of the configuration and of all that it includes. -/
def setLocalesDeep (locales : List Text) : ProjectConfig → ProjectConfig
  | node own includes excludes =>
    node { own with locales := some locales }.invalidate (setLocalesOf locales includes) excludes

/-- Sets the locales of the configurations of a list and of all that they include. -/
def setLocalesOf (locales : List Text) : List ProjectConfig → List ProjectConfig
  | [] => []
  | c :: cs => setLocalesDeep locales c :: setLocalesOf locales cs

end

/-- Sets the locales of the configuration, and if `deep` of all that it includes. -/
def setLocales (locales : List Text) (deep : Bool) (c : ProjectConfig) : ProjectConfig :=
  if deep then c.setLocalesDeep locales
  else c.modifyOwn fun s => { s with locales := some locales }.invalidate

/-! ### Questions -/

/-- A path under the root of the configuration, with the values of its environment in place. -/
def expand (cwd : Text) (c : ProjectConfig) (path : Text) : Traced Text :=
  expandPath cwd c.own.root path c.own.environment.entries

mutual

/-- Whether two configurations and those that they include declare the same apart from locales. -/
def same : ProjectConfig → ProjectConfig → Bool
  | node own includes _, node own' includes' _ => own.agrees own' && sameAll includes includes'

def sameAll : List ProjectConfig → List ProjectConfig → Bool
  | [], [] => true
  | c :: cs, d :: ds => same c d && sameAll cs ds
  | _, _ => false

end

/-- The stronger one of two actions of which each may be missing. -/
def strongest : Option FilterAction → Option FilterAction → Option FilterAction
  | none, b => b
  | a, none => a
  | some a, some b => some (a.strongest b)

/-- The decision about a file: a file that nobody claims is ignored. -/
def conclude (q : FilterQuery) (answer : Except FilterError (Option FilterAction)) :
    Traced (Except FilterError FilterAction) := do
  match answer with
  | .error e => return .error e
  | .ok action =>
    let action := action.getD .ignore
    Traced.report (.filterDecision q.locale q.path q.entity action)
    return .ok action

mutual

/-- The action that the configuration has for a file, if it claims it: an error if an excluded
configuration makes it one, otherwise the strongest action of the included configurations and its
own. If `gated`, a file of a locale that is not among all locales is not claimed. -/
def resolve (gated : Bool) (q : FilterQuery) :
    ProjectConfig → Traced (Except FilterError (Option FilterAction) × ProjectConfig)
  | node own includes excludes => do
    let known := (node own includes excludes).allLocales
    let own := if gated then { own with knownLocales := some known } else own
    if gated && !known.contains q.locale then return (.ok none, node own includes excludes)
    let (hit, excludes) ← resolveExcludes { q with entity := none } excludes
    match hit with
    | .error e => return (.error e, node own includes excludes)
    | .ok true =>
      Traced.report (.excludeHit q.locale q.path)
      return (.ok (some .error), node own includes excludes)
    | .ok false =>
      let (below, includes) ← resolveIncludes q none includes
      match below with
      | .error e => return (.error e, node own includes excludes)
      | .ok below =>
        let (answer, own) ← own.decide q
        return (answer.map (strongest below), node own includes excludes)

/-- Whether an excluded configuration makes a file an error, and the configurations afterwards. -/
def resolveExcludes (q : FilterQuery) :
    List ProjectConfig → Traced (Except FilterError Bool × List ProjectConfig)
  | [] => return (.ok false, [])
  | c :: cs => do
    let (answer, c) ← resolve true q c
    match ← conclude q answer with
    | .error e => return (.error e, c :: cs)
    | .ok .error => return (.ok true, c :: cs)
    | .ok _ =>
      let (answer, cs) ← resolveExcludes q cs
      return (answer, c :: cs)

/-- The strongest of an action and those that configurations have for a file, and the
configurations afterwards. -/
def resolveIncludes (q : FilterQuery) (above : Option FilterAction) :
    List ProjectConfig → Traced (Except FilterError (Option FilterAction) × List ProjectConfig)
  | [] => return (.ok above, [])
  | c :: cs => do
    let (answer, c) ← resolve false q c
    match answer with
    | .error e => return (.error e, c :: cs)
    | .ok action =>
      let (answer, cs) ← resolveIncludes q (strongest above action) cs
      return (answer, c :: cs)

end

/-- Decides what is done about a file or an entity, and reports the decision. -/
def filter (q : FilterQuery) (c : ProjectConfig) :
    Traced (Except FilterError FilterAction × ProjectConfig) := do
  let (answer, c) ← resolve true q c
  return (← conclude q answer, c)

end ProjectConfig

end LocalePaths
