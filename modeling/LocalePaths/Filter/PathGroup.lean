import LocalePaths.Matcher

/-!
# Path groups

A path group says where localized files are, for which locales, and where their references are.
-/

namespace LocalePaths

/-- The localized files of a pattern with their references. -/
structure PathGroup where
  l10n : Matcher
  reference : Option Matcher
  locales : Option (List Text)
  tests : Option (List Text)
  module : Option Text
  deriving DecidableEq, Inhabited

namespace PathGroup

/-- A group that lists no locales applies to all of them. -/
def appliesTo (g : PathGroup) (locale : Text) : Bool := g.locales.all fun ls => ls.contains locale

/-- Whether two groups declare the same; their matchers need only agree. -/
def agrees (g other : PathGroup) : Bool :=
  g.l10n.agrees other.l10n &&
    (match g.reference, other.reference with
      | some r, some r' => r.agrees r'
      | none, none => true
      | _, _ => false) &&
    g.locales = other.locales && g.tests = other.tests && g.module = other.module

/-- The matcher for the files of one locale. -/
def localized (g : PathGroup) (locale : Text) : Matcher :=
  g.l10n.withEnv [(localeName, Pattern.parse locale)]

/-- The reference of a localized file, if the group has references and the file matches. -/
def referencePath (g : PathGroup) (locale path : Text) : Except PatternError (Option Text) :=
  match g.reference with
  | none => .ok none
  | some reference => (g.localized locale).sub reference path

/-- The localized file of a reference, if the group has references and the reference matches. -/
def l10nPath (g : PathGroup) (locale path : Text) : Except PatternError (Option Text) :=
  match g.reference with
  | none => .ok none
  | some reference => reference.sub (g.localized locale) path

/-- `referencePath` with the reports that are made on the way. -/
def tracedReferencePath (g : PathGroup) (locale path : Text) :
    Traced (Except PatternError (Option Text)) := do
  match g.reference with
  | none => return .ok none
  | some reference =>
    let p ← Pattern.compile locale
    let (answer, _) ← (g.l10n.withEnv [(localeName, p)]).tracedSub reference path
    return answer

/-- `l10nPath` with the reports that are made on the way; the reference may have been compiled by then. -/
def tracedL10nPath (g : PathGroup) (locale path : Text) :
    Traced (Except PatternError (Option Text) × PathGroup) := do
  match g.reference with
  | none => return (.ok none, g)
  | some reference =>
    let p ← Pattern.compile locale
    let (answer, reference) ← reference.tracedSub (g.l10n.withEnv [(localeName, p)]) path
    return (answer, { g with reference := some reference })

end PathGroup

end LocalePaths
