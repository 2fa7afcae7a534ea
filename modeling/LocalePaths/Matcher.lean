import LocalePaths.Bindings
import LocalePaths.Event
import LocalePaths.Path
import LocalePaths.PatternError
import LocalePaths.Piece

/-!
# Matchers

A matcher is a pattern together with the bindings that constrain it. It tells whether a whole path
matches and with which values (`captures`), and it writes the path for given values (`expand`).
-/

namespace LocalePaths

/-- A pattern with the bindings of its names. `compiled` says that its regular expression has been
compiled before; it has no influence on any answer but only on what is reported. -/
structure Matcher where
  pattern : Pattern
  env : Environment
  compiled : Bool
  deriving DecidableEq, Inhabited

namespace Matcher

/-- The matcher of a pattern that nothing is bound for. -/
def of (p : Pattern) : Matcher := ⟨p, .empty, false⟩

/-- Adds bindings; those that come later win. -/
def withEnv (m : Matcher) (bindings : List (Text × Pattern)) : Matcher :=
  ⟨m.pattern, m.env.insertMany bindings, false⟩

/-- Puts the pattern under a directory, seen from the current one if it is relative. -/
def withRoot (cwd root : Text) (m : Matcher) : Matcher :=
  ⟨m.pattern.withRoot (some (Path.rootDirectory cwd root)), m.env, false⟩

/-- One matcher behind another, which may have no root; the bindings of the second one win. -/
def concat (m other : Matcher) : Except PatternError Matcher :=
  match m.pattern.concat? other.pattern with
  | some p => .ok ⟨p, m.env.merge other.env, false⟩
  | none => .error .rootedConcat

/-- Whether two matchers have the same pattern and the same values at the names that both bind. -/
def agrees (m other : Matcher) : Bool :=
  m.pattern = other.pattern &&
    m.env.entries.all fun e => (other.env.get? e.1).all fun theirs => theirs = e.2

/-- The pieces of the regular expression, if the expansion of all bindings ends. -/
def pieces? (m : Matcher) : Option (List Piece) := Piece.ofPattern m.pattern m.env

/-- The regular expression as it is written and reported. -/
def regexSource (m : Matcher) : Text := (m.pieces?.map Piece.wholeSource).getD []

/-- The first name that has come before. -/
def firstRepeated? (seen : List Text) : List Text → Option Text
  | [] => none
  | n :: ns => if seen.contains n then some n else firstRepeated? (n :: seen) ns

/-- The pieces of the regular expression, provided that it can be used: its groups do not nest too
deep and bind different names. -/
def usablePieces (m : Matcher) : Except PatternError (List Piece) :=
  match m.pieces? with
  | none => .error .endless
  | some ps =>
    if Regex.nestLimit ≤ Piece.depths ps then .error (.tooDeep m.pattern.text)
    else
      match firstRepeated? [] ((Piece.groupsOf ps).map Piece.bindingName) with
      | some name => .error (.duplicateBinding name)
      | none => .ok ps

/-- The values of groups: what a group captured last, or the empty text. -/
def valuesOf (groups : List Text) (captures : Captures) : Bindings :=
  NameMap.ofList (groups.map fun g => (Piece.bindingName g, (captures.get? g).getD []))

/-- Adds the locale that a captured Android qualifier stands for, unless there is a locale. -/
def addLocale (b : Bindings) : Bindings :=
  match b.get? localeName, b.get? androidLocale with
  | none, some code => b.insert localeName (Qualifier.toTag code)
  | _, _ => b

/-- The values with which a path matches, if it does. -/
def captures (m : Matcher) (path : Text) : Except PatternError (Option Bindings) := do
  let ps ← m.usablePieces
  match (Piece.whole ps).search path with
  | .found c => return some (addLocale (valuesOf (Piece.groupsOf ps) c.captures))
  | .failed => return none
  | .gaveUp => throw (.undecided path)

/-- Whether a path matches as a whole. -/
def isMatch (m : Matcher) (path : Text) : Except PatternError Bool := do
  let ps ← m.usablePieces
  match (Piece.whole ps).search? path with
  | some answer => return answer
  | none => throw (.undecided path)

/-- The scope of an expansion: the environment wins over the bindings. -/
def scopeFor (m : Matcher) (b : Bindings) : Scope := .layered m.env b.toEnvironment

/-- The path for some values; the first name without a value is reported as missing. -/
def expand (m : Matcher) (b : Bindings) : Except PatternError Text :=
  match m.pattern.render .halt (m.scopeFor b) with
  | none => .error .endless
  | some ⟨text, none⟩ => .ok text
  | some ⟨_, some name⟩ => .error (.missingBinding name)

/-- The path for some values, up to the first name without a value. -/
def expandBestEffort (m : Matcher) (b : Bindings) : Text :=
  ((m.pattern.render .halt (m.scopeFor b)).map (·.text)).getD []

/-- The pattern with the values of the environment in place; what has no value stays as it is. -/
def template (m : Matcher) : Text :=
  ((m.pattern.render .template (.of m.env)).map (·.text)).getD []

/-- The text with which all matching paths start: the part before the first wildcard and before the
first variable without a value. -/
def staticStem (m : Matcher) : Text :=
  ((m.pattern.stem.render .halt (.of m.env)).map (·.text)).getD []

/-- The path that `other` makes of the values with which `path` matches `m`. -/
def sub (m other : Matcher) (path : Text) : Except PatternError (Option Text) := do
  match ← m.captures path with
  | none => return none
  | some b => return some (← other.expand b)

/-- Reports that the regular expression is compiled, the first time that it is needed. -/
def ensureCompiled (m : Matcher) : Traced Matcher :=
  ⟨{ m with compiled := true },
    if m.compiled then [] else [.regexCompiled m.pattern.text m.regexSource]⟩

/-- Reports whether a path matches, unless this is left open by an error. -/
def reportMatch {α : Type} (m : Matcher) (path : Text) (matched : α → Bool) :
    Except PatternError α → Traced Unit
  | .ok a => .report (.patternMatch m.pattern.text path (matched a))
  | .error _ => pure ()

/-- `captures` with its reports, and the matcher afterwards. -/
def tracedCaptures (m : Matcher) (path : Text) :
    Traced (Except PatternError (Option Bindings) × Matcher) := do
  let m ← m.ensureCompiled
  let answer := m.captures path
  m.reportMatch path Option.isSome answer
  return (answer, m)

/-- `isMatch` with its reports, and the matcher afterwards. -/
def tracedIsMatch (m : Matcher) (path : Text) : Traced (Except PatternError Bool × Matcher) := do
  let m ← m.ensureCompiled
  let answer := m.isMatch path
  m.reportMatch path id answer
  return (answer, m)

/-- `sub` with the reports of the matcher that the path is read with. -/
def tracedSub (m other : Matcher) (path : Text) :
    Traced (Except PatternError (Option Text) × Matcher) := do
  let (_, m) ← m.tracedCaptures path
  return (m.sub other path, m)

end Matcher

/-- A path with the values of `env` in place, under `root` if it is relative. -/
def expandPath (cwd : Text) (root : Option Text) (path : Text) (env : List (Text × Pattern)) :
    Traced Text := do
  let m := (Matcher.of (← Pattern.compile path)).withEnv env
  match root with
  | some root => return (m.withRoot cwd root).template
  | none => return m.template

end LocalePaths
