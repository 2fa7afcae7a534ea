import LocalePaths.Proofs.Pattern.InPlace
import LocalePaths.Proofs.Piece.Depth
import LocalePaths.Proofs.Piece.Flat

/-!
# Pieces on one scope

The pieces of a pattern, like its rendering, can be found on a single scope in which names are hidden and made
visible again (`Scoped.run_ofPattern`). Rendering and finding pieces come to an end whatever variables are
bound to, provided that bindings of wildcards and of the locale do not lead into a circle without a variable
(`Scoped.finishes`); the scope is then what it was before.
-/

namespace LocalePaths

namespace Scoped

/-! ### The pieces -/

def ofNodesWith (one : List Text → Node → Scoped (Piece × List Text)) :
    (opened : List Text) → List Node → Scoped (List Piece × List Text)
  | opened, [] => return ([], opened)
  | opened, n :: ns => do
    let (p, opened) ← one opened n
    let (ps, opened) ← ofNodesWith one opened ns
    return (p :: ps, opened)

/-- The nodes that a variable is bound to, as pieces. -/
abbrev Expander := (opened : List Text) → List Node → Scoped (List Piece × List Text)

def ofNode (inner : Expander) (opened : List Text) : Node → Scoped (Piece × List Text)
  | .literal t => return (.text t, opened)
  | .star id =>
    let (group, opened) := Piece.openOnce opened (starName id)
    return (.star group, opened)
  | .starstar id ending =>
    let (group, opened) := Piece.openOnce opened (starName id)
    return (.starstar group ending, opened)
  | .variable name repeated => do
    let group := Piece.groupName name
    if repeated || opened.contains group then return (.again group, opened)
    match ← lookup name with
    | none => return (.free group, group :: opened)
    | some value =>
      let (body, opened) ← within name (inner (group :: opened) value.nodes)
      return (.bound group body, opened)
  | .android repeated => do
    let group := Piece.groupName androidLocale
    if repeated || opened.contains group then return (.again group, opened)
    match ← qualifier? (renderNodes (← get).depth) with
    | some code => return (.bound group [.text code], group :: opened)
    | none => return (.free group, group :: opened)

/-- Turns nodes into pieces; `depth` bounds how deep bindings may nest. -/
def ofNodes : (depth : Nat) → Expander
  | 0, _, _ => failure
  | depth + 1, opened, nodes => ofNodesWith (ofNode (ofNodes depth)) opened nodes

def ofPattern (p : Pattern) : Scoped (List Piece) := do
  let root ← rootText p
  let (ps, _) ← ofNodes (← get).depth [] p.nodes
  return .text root :: ps

/-! ### The scope is restored -/

variable {inner : Expander} {inner' : Piece.Expander} {n : Node} {ns : List Node}

/-- What `inner` makes of nodes in place is what `inner'` makes of them. -/
def Expander.Follows (inner : Expander) (inner' : Piece.Expander) : Prop :=
  ∀ o ns, Restores (inner o ns) fun s => inner' s o ns

theorem restores_ofNodesWith {one : List Text → Node → Scoped (Piece × List Text)}
    {one' : Scope → List Text → Node → Option (Piece × List Text)}
    (h : ∀ o n, Restores (one o n) fun s => one' s o n) :
    ∀ o ns, Restores (ofNodesWith one o ns) fun s => Piece.ofNodesWith (one' s) o ns
  | o, [] => .pure ([], o)
  | o, n :: ns => (h o n).bind fun (p, o) => (restores_ofNodesWith h o ns).bind fun (ps, o) =>
    .pure (p :: ps, o)

theorem restores_ofNode (h : inner.Follows inner') (o : List Text) (n : Node) :
    Restores (ofNode inner o n) fun s => Piece.ofNode inner' s o n := by
  cases n with
  | literal | star | starstar => exact .pure _
  | «variable» x repeated =>
    simp only [ofNode, Piece.ofNode]
    refine .ite (.pure _) (.lookup fun s => ?_)
    cases s.lookup x with
    | none => rfl
    | some v =>
      exact ((h (Piece.groupName x :: o) v.nodes).within x).bind
        (fun body => .pure (Piece.bound (Piece.groupName x) body.1, body.2)) s
  | android repeated =>
    simp only [ofNode, Piece.ofNode]
    refine .ite (.pure _) (.get fun s => ?_)
    have code := restores_qualifier? (renderNodes_follows s.depth) s
    dsimp only at code
    rw [StateT.run_bind, code]
    cases LocalePaths.qualifier? (LocalePaths.renderNodes s.depth) s with
    | none => rfl
    | some code => cases code <;> rfl

/-- Nodes become the same pieces on one scope as with a scope for each expansion. -/
theorem ofNodes_follows : ∀ d, (ofNodes d).Follows (Piece.ofNodes d)
  | 0, _, _ => fun _ => rfl
  | d + 1, o, ns => restores_ofNodesWith (restores_ofNode (ofNodes_follows d)) o ns

theorem run_ofPattern {p : Pattern} {env : Environment} {ps : List Piece}
    (h : Piece.ofPattern p env = some ps) : (ofPattern p).run (.of env) = some (ps, .of env) := by
  have pieces : Restores (ofPattern p) fun s => (p.rootText s).bind fun root =>
      (Piece.ofNodes s.depth s [] p.nodes).bind fun ps => some (Piece.text root :: ps.1) :=
    (restores_rootText p).bind fun root => .get fun s =>
      (ofNodes_follows s.depth [] p.nodes).bind (fun ps => .pure (Piece.text root :: ps.1)) s
  exact pieces.run_eq h

end Scoped

/-! ### Expansions come to an end -/

/-- A scope is grounded if the bindings that win are and the others are texts. -/
theorem Scope.Grounded.of_isFlat {env fallback : Environment} {hidden : List Text} (flat : fallback.IsFlat)
    (wildcard : ∀ id v, env.get? (starName id) = some v →
      ∀ n ∈ v.nodes, n.isWildcard = false ∧ ∀ repeated, n ≠ .android repeated)
    (locale : ∀ v, env.get? localeName = some v → ∀ n ∈ v.nodes, ∀ repeated, n ≠ .android repeated) :
    Scope.Grounded ⟨env, fallback, hidden⟩ := by
  refine ⟨fun id v hv n hn => ?_, fun v hv n hn => ?_⟩
  · rcases hv with hv | hv
    · exact Node.rank_eq_zero (wildcard id v hv n hn).1 (wildcard id v hv n hn).2
    · exact flat.rank_eq_zero hv hn
  · rcases hv with hv | hv
    · exact Node.rank_le_one (locale v hv n hn)
    · exact (flat.rank_eq_zero hv hn).trans_le (Nat.zero_le 1)

/-- Rendering and finding pieces come to an end, in every mode and whatever names are hidden before, unless a
wildcard is bound to a wildcard or to the variable `androidLocale`, or the locale to that variable. The scope is
left as it was, so that the same names are hidden afterwards. -/
theorem Scoped.finishes {env : Environment}
    (wildcard : ∀ id v, env.get? (starName id) = some v →
      ∀ n ∈ v.nodes, n.isWildcard = false ∧ ∀ repeated, n ≠ .android repeated)
    (locale : ∀ v, env.get? localeName = some v → ∀ n ∈ v.nodes, ∀ repeated, n ≠ .android repeated)
    (b : Bindings) (hidden : List Text) :
    let s : Scope := ⟨env, b.toEnvironment, hidden⟩
    (∀ mode ns, ∃ r, LocalePaths.renderNodes s.depth mode s ns = some r ∧
      ∀ d ≥ s.depth, (renderNodes d mode ns).run s = some (r, s)) ∧
    (∀ opened ns, ∃ ps, Piece.ofNodes s.depth s opened ns = some ps ∧
      ∀ d ≥ s.depth, (ofNodes d opened ns).run s = some (ps, s)) ∧
    (∀ mode p, ∃ r, p.render mode s = some r ∧ (render p mode).run s = some (r, s)) ∧
    ∀ p, ∃ ps, Piece.ofPattern p env = some ps ∧ (ofPattern p).run (.of env) = some (ps, .of env) := by
  intro s
  have grounded : s.Grounded := .of_isFlat b.isFlat_toEnvironment wildcard locale
  have deep := s.visible_lt_depth
  refine ⟨fun mode ns => ?_, fun opened ns => ?_, fun mode p => ?_, fun p => ?_⟩
  · have ends : (LocalePaths.renderNodes s.depth mode s ns).isSome :=
      renderNodes_isSome grounded (fun n _ => n.rank_le_two) deep
    obtain ⟨r, hr⟩ := Option.isSome_iff_exists.1 ends
    exact ⟨r, hr, fun d hd => (renderNodes_follows d mode ns).run_eq (renderNodes_mono hd mode s ns r hr)⟩
  · have visible : s.visible.length < s.depth := by omega
    have ends : (Piece.ofNodes s.depth s opened ns).isSome := Piece.ofNodes_isSome grounded visible
    obtain ⟨ps, hps⟩ := Option.isSome_iff_exists.1 ends
    refine ⟨ps, hps, fun d hd => (ofNodes_follows d opened ns).run_eq ?_⟩
    exact (Piece.ofNodes_congr_depth (visible.trans_le hd) visible).trans hps
  · have ends : (p.render mode s).isSome := p.render_isSome grounded
    obtain ⟨r, hr⟩ := Option.isSome_iff_exists.1 ends
    exact ⟨r, hr, (restores_render p mode).run_eq hr⟩
  · have alone : (Scope.of env).Grounded := .of_isFlat (fun _ _ hv => nomatch hv) wildcard locale
    obtain ⟨ps, hps⟩ := Option.isSome_iff_exists.1 (Piece.ofPattern_isSome p alone)
    exact ⟨ps, hps, run_ofPattern hps⟩

namespace Scoped

/-- The variables lead back to each other, to wildcards and to the qualifier, also from a wildcard. -/
def knot : Environment := .ofList [(['x'], .parse "{y}{x}*".toList), (['y'], .parse "{x}{android_locale}".toList),
  (localeName, .parse "{x}-{locale}".toList), ("s1".toList, .parse "{y}".toList)]

/-- The knot while a further name is hidden, with a value for a wildcard. -/
def knotted : Scope := ⟨knot, Bindings.toEnvironment (.ofList [("s2".toList, [])]), [['z']]⟩

theorem knot_finishes :
    (∀ id v, knot.get? (starName id) = some v →
      ∀ n ∈ v.nodes, n.isWildcard = false ∧ ∀ repeated, n ≠ .android repeated) ∧
    (∀ v, knot.get? localeName = some v → ∀ n ∈ v.nodes, ∀ repeated, n ≠ .android repeated) ∧
    (∃ r, (render (.parse "{android_locale}/*".toList) .template).run knotted = some (r, knotted)) ∧
    ∃ ps, (ofPattern (.parse "{x}/{android_locale}".toList)).run (.of knot) = some (ps, .of knot) := by
  have wildcard : ∀ id v, knot.get? (starName id) = some v →
      ∀ n ∈ v.nodes, n.isWildcard = false ∧ ∀ repeated, n ≠ .android repeated := by
    intro id v hv
    have named : ∀ e ∈ knot.entries, e.1.head? = some 's' →
        ∀ n ∈ e.2.nodes, n.isWildcard = false ∧ ∀ repeated, n ≠ .android repeated := by decide +kernel
    exact named (starName id, v) (NameMap.mem_of_find hv) rfl
  have locale : ∀ v, knot.get? localeName = some v → ∀ n ∈ v.nodes, ∀ repeated, n ≠ .android repeated := by
    intro v hv
    have named : ∀ e ∈ knot.entries, e.1 = localeName →
        ∀ n ∈ e.2.nodes, ∀ repeated, n ≠ .android repeated := by decide +kernel
    exact named (localeName, v) (NameMap.mem_of_find hv) rfl
  obtain ⟨-, -, rendered, pieces⟩ := finishes wildcard locale (.ofList [("s2".toList, [])]) [['z']]
  obtain ⟨r, -, hr⟩ := rendered .template (.parse "{android_locale}/*".toList)
  obtain ⟨ps, -, hps⟩ := pieces (.parse "{x}/{android_locale}".toList)
  exact ⟨wildcard, locale, ⟨r, hr⟩, ps, hps⟩

end Scoped

end LocalePaths
