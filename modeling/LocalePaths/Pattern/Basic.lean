import LocalePaths.Text

/-!
# Path patterns

A pattern is a sequence of nodes: literal text, the wildcards `*` and `**`, and variables. It may
have a root, a directory that goes in front of the pattern unless the pattern starts with `/`
itself.
-/

namespace LocalePaths

/-- The variable that stands for the `locale` binding in the spelling of Android qualifiers. -/
def androidLocale : Text := "android_locale".toList

/-- The name that the locale of a file is bound to. -/
def localeName : Text := "locale".toList

/-- One part of a pattern. The `repeated` flag of a variable says that an earlier node of the
pattern names the same variable. -/
inductive Node where
  | literal (text : Text)
  | star (id : Nat)
  /-- The wildcard `**`: whole path segments and `ending`, or nothing. -/
  | starstar (id : Nat) (ending : Text)
  | variable (name : Text) (repeated : Bool)
  | android (repeated : Bool)
  deriving DecidableEq, Inhabited

namespace Node

/-- The number of a wildcard. -/
def wildcardId : Node → Option Nat
  | star id => some id
  | starstar id _ => some id
  | _ => none

def isWildcard (n : Node) : Bool := n.wildcardId.isSome

def variableName : Node → Option Text
  | «variable» name _ => some name
  | android _ => some androidLocale
  | _ => none

def isRepeated : Node → Bool
  | «variable» _ repeated => repeated
  | android repeated => repeated
  | _ => false

def text : Node → Text
  | literal t => t
  | star _ => ['*']
  | starstar _ ending => '*' :: '*' :: ending
  | «variable» name _ => '{' :: name ++ ['}']
  | android _ => '{' :: androidLocale ++ ['}']

/-- Counts the wildcards on by a number. -/
def shift (by_ : Nat) : Node → Node
  | star id => star (id + by_)
  | starstar id ending => starstar (id + by_) ending
  | n => n

/-- Sets the flag of a variable that follows the names `seen`. -/
def flag (seen : List Text) : Node → Node
  | «variable» name _ => «variable» name (seen.contains name)
  | android _ => android (seen.contains androidLocale)
  | n => n

/-- Sets the flags of all variables of a sequence that follows the names `seen`. -/
def flagAll (seen : List Text) : List Node → List Node
  | [] => []
  | n :: ns => n.flag seen :: flagAll (n.variableName.toList ++ seen) ns

end Node

/-- A path pattern. `stemLength` is the number of nodes before the first wildcard. -/
structure Pattern where
  nodes : List Node
  root : Option Text
  stemLength : Nat
  deriving DecidableEq

namespace Pattern

def empty : Pattern := ⟨[], none, 0⟩

instance : Inhabited Pattern := ⟨empty⟩

/-- The pattern that is one text. -/
def literal (text : Text) : Pattern := ⟨[.literal text], none, 1⟩

def length (p : Pattern) : Nat := p.nodes.length

def hasWildcard (p : Pattern) : Bool := p.nodes.any Node.isWildcard

/-- Some variable is named twice. -/
def hasRepeatedVariable (p : Pattern) : Bool := p.nodes.any Node.isRepeated

/-- The names of variables in the order in which they first occur. -/
def variableNames (p : Pattern) : List Text :=
  (p.nodes.filter fun n => !n.isRepeated).filterMap Node.variableName

/-- The pattern as it is written, without its root. -/
def text (p : Pattern) : Text := p.nodes.flatMap Node.text

/-- The pattern under another root, or under none. -/
def withRoot (p : Pattern) (root : Option Text) : Pattern := { p with root }

/-- The nodes before the first wildcard, under the root of the pattern. -/
def stem (p : Pattern) : Pattern :=
  let nodes := p.nodes.take p.stemLength
  ⟨nodes, p.root, nodes.length⟩

/-- The highest number of a wildcard, or zero. -/
def lastWildcard (p : Pattern) : Nat := (p.nodes.filterMap Node.wildcardId).foldl max 0

/-- The nodes of `p` followed by those of `other`, with the wildcards of `other` numbered on. There
is none when `other` has a root. -/
def concat? (p other : Pattern) : Option Pattern :=
  if other.root.isSome then none
  else
    some {
      nodes := Node.flagAll [] (p.nodes ++ other.nodes.map (Node.shift p.lastWildcard))
      root := p.root
      stemLength := if p.hasWildcard then p.stemLength else p.stemLength + other.stemLength }

end Pattern

end LocalePaths
