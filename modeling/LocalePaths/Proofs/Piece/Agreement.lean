import LocalePaths.Proofs.Piece.Lead

/-!
# Environments that agree

A node consults the environment at its own name, and the variable `android_locale` also at the name of the
locale that it stands for (`Node.consulted`). What is consulted for nodes and for what they are bound to is
all that matters: environments that agree there (`Environment.AgreesOn`) render the same and generate the
same (`AgreesOn.renderNodes_eq`, `AgreesOn.generatesAll`). Since the names that are looked up are the same in
both, each statement holds in both directions.
-/

namespace LocalePaths

namespace Node
variable {n : Node} {x : Text} {id : Nat}

/-- The names at which a binding is looked up for the node. The variable `androidLocale` stands for what
`localeName` is bound to, or else for its own binding. -/
def consulted (n : Node) : List Text :=
  n.wildcardId.toList.map starName ++ n.variableName.toList ++
    if n.variableName = some androidLocale then [localeName] else []

theorem wildcard_mem_consulted (h : n.wildcardId = some id) : starName id ∈ n.consulted := by
  simp [consulted, h]

theorem variable_mem_consulted (h : n.variableName = some x) : x ∈ n.consulted := by
  simp [consulted, h]

theorem locale_mem_consulted (h : n.variableName = some androidLocale) : localeName ∈ n.consulted := by
  simp [consulted, h]

end Node

namespace Environment

/-- The node is one of the nodes, or one of those to which a name is bound that is consulted on the way. -/
inductive Reaches (env : Environment) (ns : List Node) : Node → Prop
  | here {n : Node} : n ∈ ns → Reaches env ns n
  | through {n m : Node} {x : Text} {v : Pattern} : Reaches env ns n → x ∈ n.consulted →
    env.get? x = some v → m ∈ v.nodes → Reaches env ns m

/-- The environments bind alike what is consulted for the nodes `S`, which lead to no other nodes. -/
structure AgreesOn (env env' : Environment) (S : Node → Prop) : Prop where
  closed : ∀ n x v, S n → x ∈ n.consulted → env.get? x = some v → ∀ m ∈ v.nodes, S m
  same : ∀ n x, S n → x ∈ n.consulted → env'.get? x = env.get? x

theorem agreesOn_reaches {env env' : Environment} {ns : List Node}
    (same : ∀ n x, env.Reaches ns n → x ∈ n.consulted → env'.get? x = env.get? x) :
    env.AgreesOn env' (env.Reaches ns) :=
  ⟨fun _ _ _ hn hx hv _ hm => .through hn hx hv hm, same⟩

namespace AgreesOn
variable {env env' : Environment} {S : Node → Prop} {H : List Text} {n : Node} {ns : List Node} {d : Nat}
  {mode : Mode} {x t : Text} {r r' : Text → Text} {W : Node → Text → Prop}

theorem symm (h : env.AgreesOn env' S) : env'.AgreesOn env S where
  closed n x v hn hx hv := h.closed n x v hn hx ((h.same n x hn hx).symm.trans hv)
  same n x hn hx := (h.same n x hn hx).symm

/-! ### Rendering -/

theorem lookup_eq (h : env.AgreesOn env' S) (hn : S n) (hx : x ∈ n.consulted) (H : List Text) :
    (env'.without H).lookup x = (env.without H).lookup x := by
  show (if H.contains x then none else (env'.get? x).or none) =
    if H.contains x then none else (env.get? x).or none
  rw [h.same n x hn hx]

theorem mem_of_lookup {v : Pattern} (h : env.AgreesOn env' S) (hn : S n) (hx : x ∈ n.consulted)
    (hv : (env.without H).lookup x = some v) : ∀ m ∈ v.nodes, S m :=
  h.closed n x v hn hx (lookup_without.1 hv).2

theorem renderBinding_eq {inner inner' : Renderer} (h : env.AgreesOn env' S) (hn : S n) (hx : x ∈ n.consulted)
    (same : ∀ mode H ns, (∀ m ∈ ns, S m) → inner' mode (env'.without H) ns = inner mode (env.without H) ns) :
    renderBinding inner' (env'.without H) x = renderBinding inner (env.without H) x := by
  rw [renderBinding, renderBinding, h.lookup_eq hn hx]
  cases hv : (env.without H).lookup x with
  | none => rfl
  | some v =>
    have bound := same .halt (androidLocale :: H) v.nodes (h.mem_of_lookup hn hx hv)
    exact congrArg (Option.map Rendered.complete?) bound

theorem qualifier?_eq {inner inner' : Renderer} (h : env.AgreesOn env' S) (hn : S n)
    (android : n.variableName = some androidLocale)
    (same : ∀ mode H ns, (∀ m ∈ ns, S m) → inner' mode (env'.without H) ns = inner mode (env.without H) ns) :
    qualifier? inner' (env'.without H) = qualifier? inner (env.without H) := by
  unfold qualifier?
  rw [h.renderBinding_eq hn (Node.locale_mem_consulted android) same,
    h.renderBinding_eq hn (Node.variable_mem_consulted android) same]

theorem renderNode_eq (h : env.AgreesOn env' S) (hn : S n)
    (inner : ∀ mode H ns, (∀ m ∈ ns, S m) →
      renderNodes d mode (env'.without H) ns = renderNodes d mode (env.without H) ns) :
    renderNode (renderNodes d) mode (env'.without H) n =
      renderNode (renderNodes d) mode (env.without H) n := by
  cases n with
  | literal t => rfl
  | star id | starstar id ending =>
    have hx := Node.wildcard_mem_consulted (n := Node.star id) rfl
    rw [renderNode, renderNode, h.lookup_eq hn hx]
    cases hv : (env.without H).lookup (starName id) with
    | none => rfl
    | some v => exact inner mode H v.nodes (h.mem_of_lookup hn hx hv)
  | «variable» x repeated =>
    have hx := Node.variable_mem_consulted (n := .variable x repeated) rfl
    rw [renderNode, renderNode, h.lookup_eq hn hx]
    cases hv : (env.without H).lookup x with
    | none => rfl
    | some v => exact inner mode (x :: H) v.nodes (h.mem_of_lookup hn hx hv)
  | android repeated => rw [renderNode, renderNode, h.qualifier?_eq hn rfl inner]

theorem renderNodes_eq (h : env.AgreesOn env' S) (hns : ∀ n ∈ ns, S n) :
    renderNodes d mode (env'.without H) ns = renderNodes d mode (env.without H) ns := by
  induction d generalizing mode H ns with
  | zero => rfl
  | succ d ih =>
    induction ns with
    | nil => rfl
    | cons n ns later =>
      obtain ⟨hn, hns⟩ := List.forall_mem_cons.1 hns
      rw [renderNodes_cons, renderNodes_cons, later hns,
        h.renderNode_eq hn fun mode H ns hns => ih hns]

theorem rootText_eq {p : Pattern} {root root' : Text} (h : env.AgreesOn env' S)
    (hp : ∀ n ∈ p.nodes.take 1, S n) (hr : p.rootText (.of env) = some root)
    (hr' : p.rootText (.of env') = some root') : root = root' := by
  unfold Pattern.rootText at hr hr'
  cases hroot : p.root with
  | none =>
    rw [hroot] at hr hr'
    exact Option.some.inj (hr.symm.trans hr')
  | some dir =>
    rw [hroot] at hr hr'
    obtain ⟨first, rendered, rfl⟩ := Option.map_eq_some_iff.1 hr
    obtain ⟨first', rendered', rfl⟩ := Option.map_eq_some_iff.1 hr'
    -- the environments may be rendered to different depths
    have same : renderNodes (Scope.of env').depth .halt (env.without []) (p.nodes.take 1) = some first' :=
      (h.renderNodes_eq hp).symm.trans rendered'
    have deep := renderNodes_mono (Nat.le_max_left _ (Scope.of env').depth) _ _ _ _ rendered
    have deep' := renderNodes_mono (Nat.le_max_right (Scope.of env).depth _) _ _ _ _ same
    rw [Option.some.inj (deep.symm.trans deep')]

/-! ### Generating -/

theorem expands (h : env.AgreesOn env' S) (hn : S n) (hx : x ∈ n.consulted) (ht : env.Expands x t) :
    env'.Expands x t := by
  obtain ⟨d, v, hv, written⟩ := ht
  refine ⟨d, v, (h.lookup_eq hn hx []).trans hv, ?_⟩
  have nodes := h.closed n x v hn hx (lookup_without.1 hv).2
  exact (h.renderNodes_eq nodes (H := [androidLocale])).trans written

theorem hasCode {code : Text} (h : env.AgreesOn env' S) (hn : S n)
    (android : n.variableName = some androidLocale) (hc : env.HasCode code) : env'.HasCode code := by
  rcases hc with ⟨tag, expands, rfl⟩ | ⟨no, expands⟩
  · exact .inl ⟨tag, h.expands hn (Node.locale_mem_consulted android) expands, rfl⟩
  · refine .inr ⟨fun tag ht => no tag ?_, h.expands hn (Node.variable_mem_consulted android) expands⟩
    exact h.symm.expands hn (Node.locale_mem_consulted android) ht

/-- A variable stands for the same in both environments, and for nodes on which they agree. -/
theorem resolves {o : Option (List Node)} (h : env.AgreesOn env' S) (hn : S n) (hx : n.variableName = some x)
    (hr : env.Resolves x o) : env'.Resolves x o ∧
      ∀ ns, o = some ns → (∀ m ∈ ns, S m) ∨ ∃ code, ns = [.literal code] := by
  cases hr with
  | binding named =>
    have same := h.same n x hn (Node.variable_mem_consulted hx)
    refine ⟨same ▸ .binding named, fun ns e => .inl ?_⟩
    obtain ⟨v, hv, rfl⟩ := Option.map_eq_some_iff.1 e
    exact h.closed n x v hn (Node.variable_mem_consulted hx) hv
  | code hc => exact ⟨.code (h.hasCode hn hx hc), fun ns e => .inr ⟨_, (Option.some.inj e).symm⟩⟩
  | noCode no => exact ⟨.noCode fun code hc => no code (h.symm.hasCode hn hx hc), nofun⟩

mutual

theorem generates (h : env.AgreesOn env' S) (texts : ∀ n x, S n → n.variableName = some x → r' x = r x) :
    ∀ {n : Node} {t : Text}, env.Generates r W n t → S n → env'.Generates r' W n t
  | _, _, .literal, _ => .literal
  | _, _, .wildcard hi hw, _ => .wildcard hi hw
  | n, _, .free hx hf hr, hn => by
    have same := texts n _ hn hx
    exact same ▸ .free hx (h.resolves hn hx hf).1 (same ▸ hr)
  | n, _, .bound hx hb inner, hn => by
    have same := texts n _ hn hx
    obtain ⟨bound, reached⟩ := h.resolves hn hx hb
    refine same ▸ .bound hx bound (same ▸ ?_)
    rcases reached _ rfl with hns | ⟨code, rfl⟩
    · exact h.generatesAll texts inner hns
    · exact generatesAll_literal.2 (generatesAll_literal.1 inner)

theorem generatesAll (h : env.AgreesOn env' S) (texts : ∀ n x, S n → n.variableName = some x → r' x = r x) :
    ∀ {ns : List Node} {t : Text}, env.GeneratesAll r W ns t → (∀ n ∈ ns, S n) → env'.GeneratesAll r' W ns t
  | _, _, .nil, _ => .nil
  | _, _, .cons hn hns, all =>
    .cons (h.generates texts hn (List.forall_mem_cons.1 all).1)
      (h.generatesAll texts hns (List.forall_mem_cons.1 all).2)

end

end AgreesOn

end Environment

end LocalePaths
