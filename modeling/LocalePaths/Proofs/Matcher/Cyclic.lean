import LocalePaths.Proofs.Matcher.Monotone

/-!
# Variables that lead back to themselves

A variable that is bound to something which leads back to it has no text. Matching refers back to a group
that is still open there, and expansion does not see a name while it expands what the name is bound to; for
both a pattern that reaches such a variable is empty (`Matcher.empty_of_cyclic`). What is generated is founded
on variables without a value (`Environment.GeneratesAll.acc`), and what is written hides every name on the way
to the nodes that it reaches (`Matcher.writesNode_of_reaches`). An expansion always comes to an end there, as
every binding that is entered hides a name (`Scope.Below.isSome_renderNodes`).
-/

namespace LocalePaths

open Relation

namespace Environment
variable {env : Environment} {ms ns : List Node} {n k : Node} {x y : Text} {v : Pattern}

/-- What the name is bound to leads back to the variable. -/
def IsCyclic (env : Environment) (x : Text) : Prop :=
  ∃ v n, env.get? x = some v ∧ env.Reaches v.nodes n ∧ n.variableName = some x

/-- No node that is reached is the variable `androidLocale`, and no wildcard is bound. -/
structure Plain (env : Environment) (ns : List Node) : Prop where
  noAndroid : ∀ n, env.Reaches ns n → n.variableName ≠ some androidLocale
  unbound : ∀ id, env.get? (starName id) = none

theorem Reaches.of_value (h : env.Reaches v.nodes k) (hn : env.Reaches ns n) (hx : n.variableName = some x)
    (hv : env.get? x = some v) : env.Reaches ns k := by
  induction h with
  | here hk => exact .through hn (Node.variable_mem_consulted hx) hv hk
  | through _ hy hw hk ih => exact .through ih hy hw hk

namespace Plain

theorem of_reaches (h : env.Plain ns) (sub : ∀ n, env.Reaches ms n → env.Reaches ns n) : env.Plain ms :=
  ⟨fun n hn => h.noAndroid n (sub n hn), h.unbound⟩

theorem variableName_eq (h : env.Plain ns) (hn : env.Reaches ns n) (hx : x ∈ n.consulted)
    (hv : env.get? x = some v) : n.variableName = some x := by
  simp only [Node.consulted, if_neg (h.noAndroid n hn), List.append_nil, List.mem_append, List.mem_map,
    Option.mem_toList] at hx
  rcases hx with ⟨id, -, rfl⟩ | hx
  · cases (h.unbound id).symm.trans hv
  · exact hx

theorem eq_variable (h : env.Plain ns) (hn : env.Reaches ns n) (hx : n.variableName = some x) :
    ∃ repeated, n = .variable x repeated := by
  refine (Node.variableName_eq_some.1 hx).resolve_right ?_
  rintro ⟨rfl, -⟩
  exact h.noAndroid n hn hx

theorem resolves (h : env.Plain ns) (hn : env.Reaches ns n) (hx : n.variableName = some x)
    (hv : env.get? x = some v) : env.Resolves x (some v.nodes) := by
  have other : x ≠ androidLocale := fun e => h.noAndroid n hn (e ▸ hx)
  have bound : env.Resolves x ((env.get? x).map (·.nodes)) := .binding other
  rwa [hv] at bound

theorem exists_occursIn (h : env.Plain ns) (hk : env.Reaches ns k) : ∀ x, k.variableName = some x →
    ∃ n ∈ ns, ∃ y, n.variableName = some y ∧ ReflTransGen env.OccursIn x y := by
  induction hk with
  | here hk => exact fun x hx => ⟨_, hk, x, hx, .refl⟩
  | @through n k y v hn hy hv hk ih =>
    intro x hx
    have named := h.variableName_eq hn hy hv
    obtain ⟨n₀, hn₀, z, hz, occurs⟩ := ih y named
    exact ⟨n₀, hn₀, z, hz, .head ⟨v.nodes, k, h.resolves hn named hv, hk, hx⟩ occurs⟩

theorem not_isCyclic {r : Text → Text} {W : Node → Text → Prop} {t : Text} (h : env.Plain ns)
    (generated : env.GeneratesAll r W ns t) (hn : env.Reaches ns n) (hx : n.variableName = some x) :
    ¬env.IsCyclic x := by
  rintro ⟨v, k, hv, hk, hx'⟩
  have inside : ∀ m, env.Reaches v.nodes m → env.Reaches ns m := fun m hm => hm.of_value hn hx hv
  -- the variable occurs in a variable of its own value
  obtain ⟨m, hm, y, hy, occurs⟩ := (h.of_reaches inside).exists_occursIn hk x hx'
  have cycle : TransGen env.OccursIn x x := .tail' occurs ⟨v.nodes, m, h.resolves hn hx hv, hm, hy⟩
  obtain ⟨n₀, hn₀, z, hz, below⟩ := h.exists_occursIn hn x hx
  have founded : Acc env.OccursIn x :=
    below.head_induction_on (generated.acc n₀ hn₀ z hz) fun step _ ih => ih.inv step
  exact not_transGen_of_acc founded cycle

end Plain

end Environment

/-! ### Expansion -/

namespace Scope
variable {S : Node → Prop} {s : Scope} {mode : Mode} {ns : List Node} {d : Nat}

/-- Where there is no variable `androidLocale` and wildcards are bound to texts, every binding that is entered
hides a name, so that rendering comes to an end. -/
theorem Below.isSome_renderNodes (h : Below S s s)
    (texts : ∀ id v, s.lookup (starName id) = some v → ∃ t, v.nodes = [.literal t]) (hns : ∀ n ∈ ns, S n)
    (deep : s.visible.length + 1 < d) : (renderNodes d mode s ns).isSome := by
  induction d generalizing s ns with
  | zero => exact absurd deep (Nat.not_lt_zero _)
  | succ d ih =>
    refine renderAll_isSome fun n hn => ?_
    have hn := hns n hn
    cases n with
    | literal t => rfl
    | star id | starstar id ending =>
      rw [renderNode]
      cases hl : s.lookup (starName id) with
      | none => rfl
      | some v =>
        obtain ⟨t, ht⟩ := texts id v hl
        obtain ⟨e, rfl⟩ : ∃ e, d = e + 1 := ⟨d - 1, by omega⟩
        dsimp only
        rw [ht]
        rfl
    | «variable» x repeated =>
      rw [renderNode]
      cases hl : s.lookup x with
      | none => rfl
      | some v =>
        have fewer := length_visible_hide_lt hl
        have inner := h.closed _ x v hn (Node.variable_mem_consulted rfl) hl
        exact ih (h.hide x) (fun id w hw => texts id w (lookup_of_hide hw).2) inner (by omega)
    | android repeated => exact absurd rfl (h.plain _ hn)

end Scope

namespace Matcher
variable {m : Matcher} {b : Bindings} {H : List Text} {ns : List Node} {n : Node} {x t : Text} {d : Nat}

/-- Without the variable `androidLocale` and bindings of wildcards every expansion comes to an end. -/
theorem isSome_render (plain : m.env.Plain m.pattern.nodes) (b : Bindings) :
    (m.pattern.render .halt (m.scopeFor b)).isSome := by
  have below : Scope.Below m.Written (m.scopeFor b) (m.scopeFor b) :=
    below_scopeFor plain.noAndroid fun _ _ => id
  have texts : ∀ id v, (m.scopeFor b).lookup (starName id) = some v → ∃ t, v.nodes = [.literal t] := by
    intro id v hv
    rw [lookup_scopeFor, plain.unbound] at hv
    obtain ⟨t, -, rfl⟩ := Option.map_eq_some_iff.1 hv
    exact ⟨t, rfl⟩
  have deep := (m.scopeFor b).visible_lt_depth
  exact Pattern.render_isSome_of fun mode ns hns =>
    below.isSome_renderNodes texts (fun n hn => .inl (.here (hns hn))) (by omega)

theorem exists_writesNode (h : (m.scopeWithout b H).Writes d ns t) (hn : n ∈ ns) :
    ∃ e a, (m.scopeWithout b H).WritesNode e n a := by
  obtain _ | d := d
  · exact absurd h Scope.not_writes_zero
  · exact ⟨d, h.of_mem hn⟩

/-- What is written of a variable that is bound is what it is bound to, with the name hidden. -/
theorem writes_of_writesNode {v : Pattern} {a : Text} {repeated : Bool}
    (h : (m.scopeWithout b H).WritesNode d (.variable x repeated) a) (hv : m.env.get? x = some v) :
    x ∉ H ∧ (m.scopeWithout b (x :: H)).Writes d v.nodes a := by
  obtain ⟨w, hw, written⟩ := h
  rw [lookup_scopeWithout, hv] at hw
  split at hw
  · cases hw
  · cases hw
    exact ⟨‹_›, written⟩

/-- What is written in full is so at all nodes that it leads to, where further names are hidden. -/
theorem writesNode_of_reaches (plain : m.env.Plain ns) (h : (m.scopeWithout b H).Writes d ns t)
    (hn : m.env.Reaches ns n) : ∃ e H' a, (∀ y ∈ H, y ∈ H') ∧ (m.scopeWithout b H').WritesNode e n a := by
  induction hn with
  | here hn =>
    obtain ⟨e, a, written⟩ := exists_writesNode h hn
    exact ⟨e, H, a, fun _ => id, written⟩
  | @through n k x v hn hx hv hk ih =>
    obtain ⟨e, H', a, sub, written⟩ := ih
    obtain ⟨repeated, rfl⟩ := plain.eq_variable hn (plain.variableName_eq hn hx hv)
    obtain ⟨-, body⟩ := writes_of_writesNode written hv
    obtain ⟨e', a', inner⟩ := exists_writesNode body hk
    exact ⟨e', x :: H', a', fun y hy => List.mem_cons_of_mem x (sub y hy), inner⟩

/-- Nothing is written in full that leads to a variable which leads back to itself. -/
theorem not_writes_of_isCyclic (plain : m.env.Plain ns) (hn : m.env.Reaches ns n)
    (hx : n.variableName = some x) (cyclic : m.env.IsCyclic x) : ¬(m.scopeWithout b []).Writes d ns t := by
  intro h
  obtain ⟨v, k, hv, hk, hx'⟩ := cyclic
  have inside : ∀ j, m.env.Reaches v.nodes j → m.env.Reaches ns j := fun j hj => hj.of_value hn hx hv
  obtain ⟨repeated, rfl⟩ := plain.eq_variable hn hx
  obtain ⟨repeated', rfl⟩ := plain.eq_variable (inside k hk) hx'
  obtain ⟨e, H, a, -, written⟩ := writesNode_of_reaches plain h hn
  obtain ⟨-, body⟩ := writes_of_writesNode written hv
  -- inside of its own value the name is hidden
  obtain ⟨e', H', a', sub, again⟩ := writesNode_of_reaches (plain.of_reaches inside) body hk
  exact (writes_of_writesNode again hv).1 (sub x List.mem_cons_self)

/-- A pattern that reaches a variable which leads back to itself matches no path and cannot be expanded,
whatever values there are: some name always has none. -/
theorem empty_of_cyclic (formed : m.Formed) (plain : m.env.Plain m.pattern.nodes) (hn : m.Reaches n)
    (hx : n.variableName = some x) (cyclic : m.env.IsCyclic x) :
    (∀ path, m.isMatch path ≠ .ok true) ∧ ∀ b, ∃ y, m.expand b = .error (.missingBinding y) := by
  constructor
  · intro path matched
    have answers : m.Answers path := ⟨true, matched⟩
    obtain ⟨root, r, body, -, -, generated⟩ := (answers.isMatch_iff formed).1 matched
    exact plain.not_isCyclic generated hn hx cyclic
  · intro b
    obtain ⟨⟨t, missing⟩, rendered⟩ := Option.isSome_iff_exists.1 (isSome_render plain b)
    cases missing with
    | some y => exact ⟨y, by rw [expand, rendered]⟩
    | none =>
      have expanded : m.expand b = .ok t := by rw [expand, rendered]
      obtain ⟨root, body, -, written, -⟩ := expand_eq_ok expanded
      exact absurd written (not_writes_of_isCyclic plain hn hx cyclic)

/-- The names `x` and `y` lead back to each other. -/
def ring : Matcher := (of (.parse "{base}/{x}*".toList)).withEnv
  [(['x'], .parse "a{y}".toList), (['y'], .parse "{z}{x}".toList), (['z'], .parse ['b'])]

theorem ring_formed : ring.Formed :=
  .withEnv ⟨.parse _, nofun⟩ (by
    simp only [List.mem_cons, List.not_mem_nil, or_false, forall_eq_or_imp, forall_eq]
    exact ⟨.parse _, .parse _, .parse _⟩)

theorem ring_plain : ring.env.Plain ring.pattern.nodes where
  noAndroid n hn := by
    have all : ∀ n ∈ ring.allNodes, n.variableName ≠ some androidLocale := by decide +kernel
    exact all n (Reaches.mem_allNodes hn)
  unbound id := by
    have other : ∀ e ∈ ring.env.entries, e.1.head? ≠ some 's' := by decide +kernel
    exact Option.eq_none_iff_forall_ne_some.2 fun v hv => other _ (NameMap.mem_of_find hv) rfl

theorem ring_empty : ring.Formed ∧ ring.env.Plain ring.pattern.nodes ∧ ring.Reaches (.variable ['y'] false) ∧
    ring.env.IsCyclic ['y'] ∧ (∀ path, ring.isMatch path ≠ .ok true) ∧
    ∃ y, ring.expand (.ofList [("base".toList, ['r']), (['x'], ['a']), (['y'], ['c']), ("s1".toList, [])]) =
      .error (.missingBinding y) := by
  have hx : ring.Reaches (.variable ['x'] false) := .here (by decide +kernel)
  have value : ring.env.get? ['x'] = some (.parse "a{y}".toList) := by decide +kernel
  have hy : ring.Reaches (.variable ['y'] false) :=
    .through hx (Node.variable_mem_consulted rfl) value (by decide +kernel)
  have cyclic : ring.env.IsCyclic ['y'] := by
    have inner : ring.env.Reaches (Pattern.parse "{z}{x}".toList).nodes (.variable ['x'] false) :=
      .here (by decide +kernel)
    exact ⟨.parse "{z}{x}".toList, .variable ['y'] false, by decide +kernel,
      .through inner (Node.variable_mem_consulted rfl) value (by decide +kernel), rfl⟩
  obtain ⟨unmatched, unwritten⟩ := empty_of_cyclic ring_formed ring_plain hy rfl cyclic
  exact ⟨ring_formed, ring_plain, hy, cyclic, unmatched, unwritten _⟩

end Matcher

end LocalePaths
