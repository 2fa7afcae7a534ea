import LocalePaths.Pattern.Render
import LocalePaths.Regex.Escape
import LocalePaths.Regex.Search

/-!
# The regular expression of a pattern

A pattern under an environment stands for a regular expression of a simple shape: a row of pieces,
one for each node. A piece has a written form (`Piece.source`) and a meaning (`Piece.regex`).
Variables that are bound contain the pieces of what they are bound to. The first piece of a name
opens a group; later ones refer back to it.
-/

namespace LocalePaths

/-- A part of the regular expression of a pattern. -/
inductive Piece where
  | text (t : Text)
  /-- Any characters but `/`. The group is missing if one of its name has been opened before. -/
  | star (group : Option Text)
  | starstar (group : Option Text) (ending : Text)
  /-- A variable without a value: some characters on one line, as few as possible. -/
  | free (group : Text)
  | bound (group : Text) (body : List Piece)
  | again (group : Text)
  deriving Inhabited

namespace Piece

/-- The group of a variable. -/
def groupName (name : Text) : Text := 'v' :: '_' :: name

/-- The name that the text of a group is bound to. -/
def bindingName (group : Text) : Text := (Text.after? ['v', '_'] group).getD group

/-- The characters that are quoted in literal text. -/
def isSpecial (c : Char) : Bool := "\\.+*?()|[]\x7b\x7d^$#&-~".toList.contains c

/-- Literal text as it is written. -/
def escape (t : Text) : Text := Regex.quote isSpecial t

/-- How a group is opened; without a name nothing is captured. -/
def opening : Option Text → Text
  | some group => "(?P<".toList ++ group ++ ['>']
  | none => "(?:".toList

mutual

/-- How a piece is written. -/
def source : Piece → Text
  | text t => escape t
  | star group => opening group ++ "[^/]*)".toList
  | starstar group ending => opening group ++ ".+".toList ++ escape ending ++ ")?".toList
  | free group => opening (some group) ++ ".+?)".toList
  | bound group body => opening (some group) ++ sources body ++ [')']
  | again group => "\\k<".toList ++ group ++ ['>']

def sources : List Piece → Text
  | [] => []
  | p :: ps => p.source ++ sources ps

end

mutual

/-- How deep the groups of a piece nest. -/
def depth : Piece → Nat
  | text _ | again _ => 0
  | star _ | starstar _ _ | free _ => 1
  | bound _ body => depths body + 1

def depths : List Piece → Nat
  | [] => 0
  | p :: ps => max p.depth (depths ps)

end

mutual

/-- The groups that a piece opens, in order. -/
def groups : Piece → List Text
  | text _ | again _ => []
  | star group | starstar group _ => group.toList
  | free group => [group]
  | bound group body => group :: groupsOf body

def groupsOf : List Piece → List Text
  | [] => []
  | p :: ps => p.groups ++ groupsOf ps

end

/-- An expression in a group, if there is one. -/
def grouped (group : Option Text) (r : Regex) : Regex :=
  match group with
  | some label => .group label false r
  | none => r

mutual

/-- The meaning of a piece. -/
def regex : Piece → Regex
  | text t => .text t
  | star group => grouped group (.many .notSlash true)
  | starstar group ending =>
    .alt (grouped group (.seq (.char .dot) (.seq (.many .dot true) (.text ending)))) .empty
  | free group => .group group false (.seq (.char .dot) (.many .dot false))
  | bound group body => .group group false (regexes body)
  | again group => .backref group

def regexes : List Piece → Regex
  | [] => .empty
  | p :: ps => .seq p.regex (regexes ps)

end

/-- Turns nodes into pieces one after another; `opened` are the groups opened so far. -/
def ofNodesWith (one : List Text → Node → Option (Piece × List Text)) :
    (opened : List Text) → List Node → Option (List Piece × List Text)
  | opened, [] => some ([], opened)
  | opened, n :: ns => do
    let (p, opened) ← one opened n
    let (ps, opened) ← ofNodesWith one opened ns
    return (p :: ps, opened)

/-- Opens a group unless one of its name has been opened before. -/
def openOnce (opened : List Text) (group : Text) : Option Text × List Text :=
  if opened.contains group then (none, opened) else (some group, group :: opened)

/-- The nodes that a variable is bound to, as pieces. -/
abbrev Expander := Scope → (opened : List Text) → List Node → Option (List Piece × List Text)

/-- Turns a node into a piece; `inner` turns what a variable is bound to into pieces. -/
def ofNode (inner : Expander) (scope : Scope) (opened : List Text) :
    Node → Option (Piece × List Text)
  | .literal t => some (text t, opened)
  | .star id =>
    let (group, opened) := openOnce opened (starName id)
    some (star group, opened)
  | .starstar id ending =>
    let (group, opened) := openOnce opened (starName id)
    some (starstar group ending, opened)
  | .variable name repeated =>
    let group := groupName name
    if repeated || opened.contains group then some (again group, opened)
    else
      match scope.lookup name with
      | none => some (free group, group :: opened)
      | some value => do
        let (body, opened) ← inner (scope.hide name) (group :: opened) value.nodes
        return (bound group body, opened)
  | .android repeated => do
    let group := groupName androidLocale
    if repeated || opened.contains group then return (again group, opened)
    match ← qualifier? (renderNodes scope.depth) scope with
    | some code => return (bound group [text code], group :: opened)
    | none => return (free group, group :: opened)

/-- Turns nodes into pieces; `depth` bounds how deep bindings may nest. -/
def ofNodes : (depth : Nat) → Expander
  | 0, _, _, _ => none
  | depth + 1, scope, opened, nodes => ofNodesWith (ofNode (ofNodes depth) scope) opened nodes

/-- The pieces of a pattern, the first of which is its root. -/
def ofPattern (p : Pattern) (env : Environment) : Option (List Piece) := do
  let scope := Scope.of env
  let root ← p.rootText scope
  let (ps, _) ← ofNodes scope.depth scope [] p.nodes
  return text root :: ps

/-- The written form of the expression that matches a whole text as `ps` do. -/
def wholeSource (ps : List Piece) : Text := '^' :: sources ps ++ ['$']

/-- The expression that matches a whole text as `ps` do. -/
def whole (ps : List Piece) : Regex :=
  .seq (.anchor .textStart) (.seq (regexes ps) (.anchor .textEnd))

end Piece

end LocalePaths
