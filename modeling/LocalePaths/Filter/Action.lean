import LocalePaths.Text

/-!
# Actions

What is done about a localized file or an entity in it: it is ignored, or its absence is a warning
or an error. Of several actions the strongest counts.
-/

namespace LocalePaths

/-- What is done about a file or an entity. -/
inductive FilterAction where
  | ignore
  | warning
  | error
  deriving DecidableEq, Inhabited

namespace FilterAction

/-- How strong an action is. -/
def rank : FilterAction → Nat
  | ignore => 0
  | warning => 1
  | error => 2

def strongest (a b : FilterAction) : FilterAction := if a.rank ≤ b.rank then b else a

def weakest (a b : FilterAction) : FilterAction := if b.rank < a.rank then b else a

/-- The name of an action in declarations and reports. -/
def text : FilterAction → Text
  | ignore => "ignore".toList
  | warning => "warning".toList
  | error => "error".toList

/-- The action of a name. -/
def ofText? (s : Text) : Option FilterAction :=
  if s = ignore.text then some ignore
  else if s = warning.text then some warning
  else if s = error.text then some error
  else none

/-- What is said about a name that no action has. -/
def unknownMessage (s : Text) : String :=
  "unknown filter action '" ++ String.ofList s ++ "', expected error, warning or ignore"

end FilterAction

end LocalePaths
