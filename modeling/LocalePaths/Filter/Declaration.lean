import LocalePaths.Filter.Action
import LocalePaths.Json
import LocalePaths.NameMap

/-!
# Declarations

What a configuration file declares: path groups and rules, as they are read from JSON. A declaration
is an object, or a list of the values of its fields in order.
-/

namespace LocalePaths

/-- A value that is given alone or in a list. -/
inductive OneOrMany where
  | one (value : Text)
  | many (values : List Text)
  deriving DecidableEq, Inhabited

/-- The values, also if there is only one. -/
def OneOrMany.values : OneOrMany → List Text
  | one value => [value]
  | many values => values

/-- The declaration of a path group. -/
structure PathDeclaration where
  l10n : Text
  reference : Option Text
  locales : Option (List Text)
  tests : Option (List Text)
  module : Option Text
  deriving DecidableEq, Inhabited

/-- The declaration of rules, one for every path and key. -/
structure RuleDeclaration where
  path : OneOrMany
  action : FilterAction
  key : Option OneOrMany
  deriving DecidableEq, Inhabited

namespace Declaration

def text? : Json → Option Text
  | .string t => t
  | _ => none

def texts? : Json → Option (List Text)
  | .array items => items.mapM text?
  | _ => none

/-- A value that may be missing or `null`. -/
def optional? {α : Type} (read : Json → Option α) : Option Json → Option (Option α)
  | none | some .null => some none
  | some v => (read v).map some

/-- A text or a list of texts. -/
def oneOrMany? : Json → Option OneOrMany
  | .string t => t.map .one
  | .array items => (items.mapM text?).map .many
  | _ => none

/-- An action by its name; the name may also be the only field of an object, with `null` as its value. -/
def action? : Json → Option FilterAction
  | .string t => do FilterAction.ofText? (← t)
  | .object [(some name, .null)] => FilterAction.ofText? name
  | _ => none

/-- The value of a field if there is one; a field that is given twice is refused. -/
def field? (fields : List (Option Text × Json)) (name : Text) : Option (Option Json) :=
  match fields.filter fun f => f.1 = some name with
  | [] => some none
  | [f] => some (some f.2)
  | _ => none

/-- The values of the named fields, from an object or from a list in the order of the names. -/
def values? (names : List Text) : Json → Option (List (Option Json))
  | .object fields =>
    if fields.all fun f => f.1.isSome then names.mapM (field? fields) else none
  | .array items =>
    if items.length ≤ names.length then
      some (items.map some ++ List.replicate (names.length - items.length) none)
    else none
  | _ => none

def list? {α : Type} (read : Json → Option α) : Json → Option (List α)
  | .array items => items.mapM read
  | _ => none

end Declaration

namespace PathDeclaration

open Declaration

/-- Reads the declaration of a path group. -/
def ofJson? (v : Json) : Option PathDeclaration := do
  let names := ["l10n", "reference", "locales", "test", "module"].map String.toList
  match ← values? names v with
  | [l10n, reference, locales, tests, module] =>
    return {
      l10n := ← text? (← l10n)
      reference := ← optional? text? reference
      locales := ← optional? texts? locales
      tests := (← optional? texts? tests).map sortedSet
      module := ← optional? text? module }
  | _ => failure

end PathDeclaration

namespace RuleDeclaration

open Declaration

/-- Reads the declaration of rules. -/
def ofJson? (v : Json) : Option RuleDeclaration := do
  match ← values? (["path", "action", "key"].map String.toList) v with
  | [path, action, key] =>
    return {
      path := ← oneOrMany? (← path)
      action := ← action? (← action)
      key := ← optional? oneOrMany? key }
  | _ => failure

end RuleDeclaration

end LocalePaths
