import LocalePaths.Filter.Declaration
import LocalePaths.Filter.Project

/-!
# Changes that can be refused

A call that changes a configuration in place reads it, assigns it and can be refused at any point
(`Edit`): for an include or an exclude that has excludes, for a key that is no expression, or because the
current directory is needed for a root and there is none. What a call reads of the settings in order to
compile declarations cannot change them (`Checked`).
-/

namespace LocalePaths

/-- A computation that makes reports and can be refused. -/
abbrev Checked := ExceptT FilterError Traced

namespace Settings

/-- The root for a base path, which is seen from the directory of the configuration file. Without a file
there is no root. -/
def rootAt (dir : Option Text) (base : Text) (s : Settings) : Checked (Option Text) := do
  match s.path with
  | none => return none
  | some path =>
    let joined := Path.join (Path.directory path) base
    match Path.absolute? dir joined with
    | none => throw (.root joined)
    | some root => return some root

/-- The matcher of a source under the root and with the environment of the settings. -/
def matcher (dir : Option Text) (s : Settings) (source : Text) : Checked Matcher := do
  let m := (Matcher.of (← Pattern.compile source)).withEnv s.environment.entries
  match s.root with
  | none => return m
  | some root =>
    if (Path.absolute? dir root).isNone then throw (.pattern (.root root))
    return m.withRoot (dir.getD []) root

/-- The path group of a declaration. -/
def group (dir : Option Text) (s : Settings) (d : PathDeclaration) : Checked PathGroup := do
  let l10n ← s.matcher dir d.l10n
  match d.reference with
  | none => return ⟨l10n, none, d.locales, d.tests, d.module⟩
  | some reference =>
    return ⟨l10n, some (← s.matcher dir reference), d.locales, d.tests, d.module⟩

/-- The rules of an action for one path: one for each key, up to a key that is refused. -/
def rulesFor (m : Matcher) (action : FilterAction) :
    Option OneOrMany → Except FilterError (List FilterRule)
  | none => .ok [⟨m, none, action⟩]
  | some keys => keys.values.mapM fun key => do return ⟨m, some (← KeyPattern.of key), action⟩

/-- The rules of a declaration, in order of paths and then of keys. -/
def rulesAt (dir : Option Text) (s : Settings) (d : RuleDeclaration) : Checked (List FilterRule) := do
  let rules ← d.path.values.mapM fun path => do rulesFor (← s.matcher dir path) d.action d.key
  return rules.flatten

/-- The report about a rule that is added. -/
def ruleAdded (r : FilterRule) : Event :=
  .ruleAdded r.path.pattern.text (r.key.map (·.source)) r.action

end Settings

/-- A call that reads and assigns a configuration and can be refused at any point. -/
abbrev Edit := ExceptT FilterError (StateT ProjectConfig Traced)

namespace Edit

/-- Computes something from the settings. -/
def read {α : Type} (f : Settings → Checked α) : Edit α := do
  ExceptT.mk (liftM (f (← get).own).run)

/-- Changes the settings. -/
def assign (f : Settings → Settings) : Edit Unit := modify fun c => c.modifyOwn f

/-- Puts the patterns that are added from now on under a directory. -/
def setRoot (dir : Option Text) (base : Text) : Edit Unit := do
  let root ← read (Settings.rootAt dir base)
  assign fun s => { s with root }

/-- Adds path groups. -/
def addPaths (dir : Option Text) (ds : List PathDeclaration) : Edit Unit := do
  let groups ← read fun s => ds.mapM (s.group dir)
  assign fun s => { s with groups := s.groups ++ groups }
  assign Settings.invalidate

/-- Adds rules, in order of declarations, then of paths, then of keys. They are reported when all of them
have been compiled. -/
def addRules (dir : Option Text) (ds : List RuleDeclaration) : Edit Unit := do
  let rules := (← read fun s => ds.mapM (s.rulesAt dir)).flatten
  (⟨(), rules.map Settings.ruleAdded⟩ : Traced Unit)
  assign fun s => { s with rules := s.rules ++ rules }
  assign Settings.invalidate

/-- Includes a configuration, which may not exclude any. -/
def addChild (child : ProjectConfig) : Edit Unit :=
  if child.excludes.isEmpty then do
    modify fun c => .node c.own (c.includes ++ [child]) c.excludes
    assign Settings.invalidate
  else throw .includedExcludes

/-- Excludes a configuration, which may not exclude any, nor may those that it includes. -/
def exclude (child : ProjectConfig) : Edit Unit :=
  if child.configs.all fun d => d.excludes.isEmpty then
    modify fun c => .node c.own c.includes (c.excludes ++ [child])
  else throw .excludedExcludes

variable {α : Type}

def answer (x : Edit α) (c : ProjectConfig) : Except FilterError α := (x.run.run c).value.1

/-- The configuration after the call, also if it is refused. -/
def after (x : Edit α) (c : ProjectConfig) : ProjectConfig := (x.run.run c).value.2

def events (x : Edit α) (c : ProjectConfig) : List Event := (x.run.run c).events

end Edit

namespace ProjectConfig

/-- A change of a configuration that can be refused. -/
inductive Change where
  | setRoot (base : Text)
  | addPaths (ds : List PathDeclaration)
  | addRules (ds : List RuleDeclaration)
  | addChild (child : ProjectConfig)
  | exclude (child : ProjectConfig)

/-- The call for a change, where `dir` is the current directory if there is one. -/
def perform (dir : Option Text) : Change → Edit Unit
  | .setRoot base => Edit.setRoot dir base
  | .addPaths ds => Edit.addPaths dir ds
  | .addRules ds => Edit.addRules dir ds
  | .addChild child => Edit.addChild child
  | .exclude child => Edit.exclude child

end ProjectConfig

end LocalePaths
