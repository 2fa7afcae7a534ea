import LocalePaths.Filter.Error
import LocalePaths.Regex.Parse
import LocalePaths.Regex.Search

/-!
# Entity keys

A key selects entities. It is the key of one entity, or after `re:` a regular expression that is
matched from the start of an entity's key.
-/

namespace LocalePaths

/-- A key with the expression that it stands for. -/
structure KeyPattern where
  source : Text
  regex : Regex
  deriving DecidableEq, Inhabited

namespace KeyPattern

/-- What marks a key as a regular expression. -/
def mark : Text := "re:".toList

/-- Whether the key is given as a regular expression. -/
def isRegex (k : KeyPattern) : Bool := (Text.after? mark k.source).isSome

/-- Whether a character means something in an expression unless it is quoted. -/
def isOperator (c : Char) : Bool := "\\.+*?()|[]\x7b\x7d^$#".toList.contains c

/-- The expression of a key. The text behind the mark is anchored at the start, any other key on both sides. -/
def regexOf? (source : Text) : Option Regex :=
  match Text.after? mark source with
  | some expression => Regex.parse? ("^(?:".toList ++ expression ++ [')'])
  | none => Regex.parse? ('^' :: Regex.quote isOperator source ++ ['$'])

/-- The key of a text, unless its expression is refused. -/
def of (source : Text) : Except FilterError KeyPattern :=
  match regexOf? source with
  | some regex => .ok ⟨source, regex⟩
  | none => .error (.invalidKey source)

/-- Whether the key selects an entity; a search that gives up leaves this undecided. -/
def isMatch (k : KeyPattern) (entity : Text) : Except FilterError Bool :=
  match k.regex.search? entity with
  | some answer => .ok answer
  | none => .error (.undecidedKey k.source entity)

end KeyPattern

end LocalePaths
