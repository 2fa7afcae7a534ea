import LocalePaths.Environment
import LocalePaths.Qualifier

/-!
# Expanding patterns

Rendering writes the nodes of a pattern with the values that a scope gives them. A bound variable is
rendered through the pattern that it is bound to, with its own name hidden; so is a wildcard,
without hiding anything. Expansion is bounded by a depth: the result is `none` where the depth does
not suffice (`Pattern.render` takes one that suffices for every expansion that ends).
-/

namespace LocalePaths

/-- What is done at a node without a value. -/
inductive Mode where
  | halt
  | template
  deriving DecidableEq, Inhabited

/-- The text written, and the first name without a value if that ended the writing. -/
structure Rendered where
  text : Text
  missing : Option Text
  deriving DecidableEq, Inhabited

namespace Rendered

/-- All that was to be written has a value. -/
def written (text : Text) : Rendered := ⟨text, none⟩

/-- A node without a value ends the writing or is written as it stands in the pattern. -/
def unresolved (mode : Mode) (node : Node) (name : Text) : Rendered :=
  match mode with
  | .halt => ⟨[], some name⟩
  | .template => written node.text

/-- The text, provided that no value is missing. -/
def complete? (r : Rendered) : Option Text := if r.missing.isNone then some r.text else none

def prepend (text : Text) (r : Rendered) : Rendered := { r with text := text ++ r.text }

end Rendered

/-- A way to render nodes, given the mode and the scope. -/
abbrev Renderer := Mode → Scope → List Node → Option Rendered

/-- Renders nodes one after another, up to the first value that is missing. -/
def renderAll (renderOne : Node → Option Rendered) : List Node → Option Rendered
  | [] => some (.written [])
  | n :: ns => do
    let first ← renderOne n
    if first.missing.isSome then return first
    return (← renderAll renderOne ns).prepend first.text

/-- What a bound name is rendered to in full, if it is bound and all of it has a value. `inner`
renders what it is bound to. -/
def renderBinding (inner : Renderer) (scope : Scope) (name : Text) : Option (Option Text) :=
  match scope.lookup name with
  | none => some none
  | some bound => (inner .halt (scope.hide androidLocale) bound.nodes).map Rendered.complete?

/-- The Android qualifier that a scope stands for: that of its locale, or else its direct
binding. -/
def qualifier? (inner : Renderer) (scope : Scope) : Option (Option Text) := do
  match ← renderBinding inner scope localeName with
  | some tag => return some (Qualifier.ofTag tag)
  | none => renderBinding inner scope androidLocale

/-- Renders one node; `inner` renders what it is bound to. -/
def renderNode (inner : Renderer) (mode : Mode) (scope : Scope) (node : Node) : Option Rendered :=
  match node with
  | .literal text => some (.written text)
  | .star id | .starstar id _ =>
    match scope.lookup (starName id) with
    | some bound => inner mode scope bound.nodes
    | none => some (.unresolved mode node (starName id))
  | .variable name _ =>
    match scope.lookup name with
    | some bound => inner mode (scope.hide name) bound.nodes
    | none => some (.unresolved mode node name)
  | .android _ => do
    match ← qualifier? inner scope with
    | some code => return .written code
    | none => return .unresolved mode node androidLocale

/-- Renders nodes; `depth` bounds how deep bindings may nest. -/
def renderNodes : (depth : Nat) → Renderer
  | 0, _, _, _ => none
  | depth + 1, mode, scope, nodes =>
    renderAll (renderNode (renderNodes depth) mode scope) nodes

namespace Pattern

/-- The text that the root adds in front: the root, unless the first node as far as it can be
expanded starts with `/`. -/
def rootText (p : Pattern) (scope : Scope) : Option Text :=
  match p.root with
  | none => some []
  | some root =>
    (renderNodes scope.depth .halt scope (p.nodes.take 1)).map fun first =>
      if first.text.head? = some '/' then [] else root

def render (p : Pattern) (mode : Mode) (scope : Scope) : Option Rendered := do
  let root ← p.rootText scope
  return (← renderNodes scope.depth mode scope p.nodes).prepend root

end Pattern

end LocalePaths
