import LocalePaths.Proofs.Pattern.Depth
import LocalePaths.Proofs.Pattern.Rendering

/-!
# Rendering on one scope

Rendering can be done on a single scope that is changed in place: a name is hidden before what it is bound to
is rendered, and is made visible again on the way out, also where the rendering ends at a name without a value.
`Scoped.Restores` says that such a computation gives what the one with a scope for each nested expansion gives,
and hands the scope back as it was. Everything that renders does (`Scoped.restores_render`).
-/

namespace LocalePaths

/-- A computation on a scope that it may change. It has no result if bindings nest too deep. -/
abbrev Scoped := StateT Scope Option

namespace Scoped
variable {α β : Type}

def lookup (x : Text) : Scoped (Option Pattern) := do return (← get).lookup x

def hide (x : Text) : Scoped Unit := modify fun s => s.hide x

/-- Makes the name visible again that was hidden last. -/
def unhide : Scoped Unit := modify fun s => { s with hidden := s.hidden.tail }

def within (x : Text) (act : Scoped α) : Scoped α := do
  hide x
  let a ← act
  unhide
  return a

/-! ### The renderer -/

/-- A way to render nodes, given the mode. -/
abbrev Renderer := Mode → List Node → Scoped Rendered

def renderAll (renderOne : Node → Scoped Rendered) : List Node → Scoped Rendered
  | [] => return .written []
  | n :: ns => do
    let first ← renderOne n
    if first.missing.isSome then return first
    return (← renderAll renderOne ns).prepend first.text

def renderBinding (inner : Renderer) (x : Text) : Scoped (Option Text) := do
  match ← lookup x with
  | none => return none
  | some bound => return (← within androidLocale (inner .halt bound.nodes)).complete?

def qualifier? (inner : Renderer) : Scoped (Option Text) := do
  match ← renderBinding inner localeName with
  | some tag => return some (Qualifier.ofTag tag)
  | none => renderBinding inner androidLocale

def renderNode (inner : Renderer) (mode : Mode) (node : Node) : Scoped Rendered := do
  match node with
  | .literal text => return .written text
  | .star id | .starstar id _ =>
    match ← lookup (starName id) with
    | some bound => inner mode bound.nodes
    | none => return .unresolved mode node (starName id)
  | .variable name _ =>
    match ← lookup name with
    | some bound => within name (inner mode bound.nodes)
    | none => return .unresolved mode node name
  | .android _ =>
    match ← qualifier? inner with
    | some code => return .written code
    | none => return .unresolved mode node androidLocale

/-- Renders nodes; `depth` bounds how deep bindings may nest. -/
def renderNodes : (depth : Nat) → Renderer
  | 0, _, _ => failure
  | depth + 1, mode, nodes => renderAll (renderNode (renderNodes depth) mode) nodes

def rootText (p : Pattern) : Scoped Text := do
  match p.root with
  | none => return []
  | some root =>
    let first ← renderNodes (← get).depth .halt (p.nodes.take 1)
    return if first.text.head? = some '/' then [] else root

def render (p : Pattern) (mode : Mode) : Scoped Rendered := do
  let root ← rootText p
  return (← renderNodes (← get).depth mode p.nodes).prepend root

/-! ### The scope is restored -/

/-- From every scope `act` gives what `f` does, and the scope is in the end what it was. -/
def Restores (act : Scoped α) (f : Scope → Option α) : Prop := ∀ s, act.run s = (f s).map (·, s)

theorem Restores.run_eq {act : Scoped α} {f : Scope → Option α} {s : Scope} {a : α} (h : Restores act f)
    (hs : f s = some a) : act.run s = some (a, s) := by
  rw [h s, hs, Option.map_some]

theorem Restores.pure (a : α) : Restores (pure a) fun _ => some a := fun _ => rfl

theorem Restores.bind {act : Scoped α} {f : Scope → Option α} {k : α → Scoped β}
    {g : α → Scope → Option β} (ha : Restores act f) (hk : ∀ a, Restores (k a) (g a)) :
    Restores (act >>= k) fun s => (f s).bind fun a => g a s := by
  intro s
  show _ = ((f s).bind fun a => g a s).map (·, s)
  rw [StateT.run_bind, ha s]
  cases f s with
  | none => rfl
  | some a => exact hk a s

theorem Restores.ite {c : Prop} [Decidable c] {act act' : Scoped α} {f f' : Scope → Option α}
    (h : Restores act f) (h' : Restores act' f') :
    Restores (if c then act else act') fun s => if c then f s else f' s := by
  split
  · exact h
  · exact h'

theorem Restores.get {k : Scope → Scoped β} {f : Scope → Option β}
    (h : ∀ s, (k s).run s = (f s).map (·, s)) : Restores (get >>= k) f := h

theorem Restores.lookup {x : Text} {k : Option Pattern → Scoped β} {f : Scope → Option β}
    (h : ∀ s, (k (s.lookup x)).run s = (f s).map (·, s)) : Restores (lookup x >>= k) f := h

/-- What is hidden for a while is visible again afterwards, however the computation ends in between. -/
theorem Restores.within {act : Scoped α} {f : Scope → Option α} (ha : Restores act f) (x : Text) :
    Restores (within x act) fun s => f (s.hide x) := by
  intro s
  have inside : (Scoped.within x act).run s = (act.run (s.hide x)).bind fun r =>
    some (r.1, { r.2 with hidden := r.2.hidden.tail }) := rfl
  show _ = (f (s.hide x)).map (·, s)
  rw [inside, ha (s.hide x)]
  cases f (s.hide x) <;> rfl

variable {inner : Renderer} {inner' : LocalePaths.Renderer}

theorem restores_renderAll {one : Node → Scoped Rendered} {one' : Scope → Node → Option Rendered}
    (h : ∀ n, Restores (one n) fun s => one' s n) :
    ∀ ns, Restores (renderAll one ns) fun s => LocalePaths.renderAll (one' s) ns
  | [] => .pure _
  | n :: ns => by
    unfold renderAll LocalePaths.renderAll
    refine (h n).bind fun first => ?_
    cases first.missing.isSome with
    | true => exact .pure first
    | false => exact (restores_renderAll h ns).bind fun later => .pure (later.prepend first.text)

/-- What `inner` does to nodes in place is what `inner'` does. -/
def Renderer.Follows (inner : Renderer) (inner' : LocalePaths.Renderer) : Prop :=
  ∀ mode ns, Restores (inner mode ns) fun s => inner' mode s ns

theorem restores_renderBinding (h : inner.Follows inner') (x : Text) :
    Restores (renderBinding inner x) fun s => LocalePaths.renderBinding inner' s x := by
  refine .lookup fun s => ?_
  unfold LocalePaths.renderBinding
  cases s.lookup x with
  | none => rfl
  | some v =>
    have written := ((h .halt v.nodes).within androidLocale).bind fun r => .pure r.complete?
    exact (written s).trans (congrArg _ Option.map_eq_bind.symm)

theorem restores_qualifier? (h : inner.Follows inner') :
    Restores (qualifier? inner) fun s => LocalePaths.qualifier? inner' s := by
  refine (restores_renderBinding h localeName).bind fun tag => ?_
  cases tag with
  | some tag => exact .pure (some (Qualifier.ofTag tag))
  | none => exact restores_renderBinding h androidLocale

theorem restores_renderNode (h : inner.Follows inner') (mode : Mode) (n : Node) :
    Restores (renderNode inner mode n) fun s => LocalePaths.renderNode inner' mode s n := by
  cases n with
  | literal t => exact .pure (Rendered.written t)
  | star id | starstar id ending =>
    refine .lookup fun s => ?_
    rw [LocalePaths.renderNode]
    cases s.lookup (starName id) with
    | none => rfl
    | some v => exact h mode v.nodes s
  | «variable» x repeated =>
    refine .lookup fun s => ?_
    rw [LocalePaths.renderNode]
    cases s.lookup x with
    | none => rfl
    | some v => exact (h mode v.nodes).within x s
  | android repeated =>
    refine (restores_qualifier? h).bind fun code => ?_
    cases code <;> exact .pure _

/-- Nodes are rendered on one scope as they are on a scope for each expansion. -/
theorem renderNodes_follows : ∀ d, (renderNodes d).Follows (LocalePaths.renderNodes d)
  | 0, _, _ => fun _ => rfl
  | d + 1, mode, ns => restores_renderAll (restores_renderNode (renderNodes_follows d) mode) ns

theorem restores_rootText (p : Pattern) : Restores (rootText p) p.rootText := by
  unfold rootText Pattern.rootText
  cases p.root with
  | none => exact .pure []
  | some root =>
    simp only [Option.map_eq_bind]
    exact .get fun s => (renderNodes_follows s.depth .halt (p.nodes.take 1)).bind
      (fun first => .pure (if first.text.head? = some '/' then [] else root)) s

theorem restores_render (p : Pattern) (mode : Mode) : Restores (render p mode) (p.render mode) :=
  (restores_rootText p).bind fun root => .get fun s =>
    (renderNodes_follows s.depth mode p.nodes).bind (fun body => .pure (body.prepend root)) s

end Scoped

end LocalePaths
