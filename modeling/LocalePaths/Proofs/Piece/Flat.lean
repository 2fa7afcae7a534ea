import LocalePaths.Proofs.Matcher.Values
import LocalePaths.Proofs.Pattern.Depth
import LocalePaths.Proofs.Pattern.Openings
import LocalePaths.Proofs.Pattern.Tokens
import LocalePaths.Proofs.Piece.Generation
import LocalePaths.Proofs.Piece.Spelling

/-!
# Pieces where values are texts

If the values of an environment are texts, nodes always become pieces (`ofNodes_of_isFlat`), and the
groups of the pieces are those of the variables and wildcards among the nodes, in the order of the nodes
(`map_bindingName_groupsOf`). So a regular expression can be used unless a variable has the name of a
wildcard (`Matcher.usablePieces_iff_isApart`).
-/

namespace LocalePaths

namespace Environment
variable {env : Environment} {ns : List Node} {x : Text}

def IsFlat (env : Environment) : Prop := ∀ x v, env.get? x = some v → ∃ t, v.nodes = [.literal t]

theorem Resolves.eq_literal (flat : env.IsFlat) (h : env.Resolves x (some ns)) :
    ∃ t, ns = [.literal t] := by
  generalize e : some ns = value at h
  cases h with
  | binding hx =>
    obtain ⟨v, hv, rfl⟩ := Option.map_eq_some_iff.1 e.symm
    exact flat x v hv
  | code =>
    cases e
    exact ⟨_, rfl⟩
  | noCode => cases e

end Environment

theorem Bindings.isFlat_toEnvironment (b : Bindings) : b.toEnvironment.IsFlat := by
  intro x v hv
  rw [toEnvironment, NameMap.get?_map] at hv
  obtain ⟨t, -, rfl⟩ := Option.map_eq_some_iff.1 hv
  exact ⟨t, rfl⟩

theorem Scope.two_le_depth (s : Scope) : 2 ≤ s.depth := by
  have square := Nat.le_mul_self (s.env.size + s.fallback.size + 2)
  show 2 ≤ 2 * ((s.env.size + s.fallback.size + 2) * (s.env.size + s.fallback.size + 2))
  omega

theorem Scope.lookup_of (env : Environment) (x : Text) : (Scope.of env).lookup x = env.get? x := by
  simp [Scope.lookup, Scope.of]

theorem Environment.IsFlat.rank_eq_zero {env : Environment} (flat : env.IsFlat) {x : Text} {v : Pattern} {n : Node}
    (hv : env.get? x = some v) (hn : n ∈ v.nodes) : n.rank = 0 := by
  obtain ⟨t, ht⟩ := flat x v hv
  rw [ht, List.mem_singleton] at hn
  rw [hn, Node.rank]

/-- Where values are texts, it can always be told which qualifier there is. -/
theorem Environment.IsFlat.qualifier?_isSome {env : Environment} (flat : env.IsFlat) :
    (qualifier? (renderNodes (Scope.of env).depth) (.of env)).isSome := by
  have grounded : (Scope.of env).Grounded := by
    refine ⟨fun id v hv n hn => ?_, fun v hv n hn => ?_⟩
    · exact flat.rank_eq_zero (hv.resolve_right nofun) hn
    · exact (flat.rank_eq_zero (hv.resolve_right nofun) hn).trans_le (Nat.zero_le 1)
  exact grounded.qualifier?_isSome

namespace Piece
variable {env : Environment} {o o' : List Text} {g : Text} {n : Node} {p : Piece} {ns : List Node}
  {ps : List Piece} {d : Nat}

/-! ### Nodes become pieces -/

theorem ofNode_of_isFlat (flat : env.IsFlat) :
    ∃ p o', ofNode (ofNodes (d + 1)) (.of env) o n = some (p, o') ∧ p.depth ≤ 1 := by
  cases n with
  | literal t => exact ⟨_, _, rfl, Nat.zero_le 1⟩
  | star id | starstar id ending => exact ⟨_, _, rfl, Nat.le_refl 1⟩
  | android repeated =>
    rw [ofNode]
    split
    · exact ⟨_, _, rfl, Nat.zero_le 1⟩
    · obtain ⟨answer, ha⟩ := Option.isSome_iff_exists.1 flat.qualifier?_isSome
      rw [ha]
      cases answer with
      | none => exact ⟨_, _, rfl, Nat.le_refl 1⟩
      | some code => exact ⟨_, _, rfl, Nat.le_refl 1⟩
  | «variable» x repeated =>
    rw [ofNode]
    dsimp only
    split
    · exact ⟨_, _, rfl, Nat.zero_le 1⟩
    · rw [Scope.lookup_of]
      cases hv : env.get? x with
      | none => exact ⟨_, _, rfl, Nat.le_refl 1⟩
      | some v =>
        obtain ⟨t, ht⟩ := flat x v hv
        refine ⟨.bound (groupName x) [.text t], groupName x :: o, ?_, Nat.le_refl 1⟩
        dsimp only
        rw [ht]
        rfl

/-- Nodes become pieces whose groups nest no deeper than one in another. -/
theorem ofNodes_of_isFlat (flat : env.IsFlat) :
    ∃ ps o', ofNodes (d + 2) (.of env) o ns = some (ps, o') ∧ depths ps ≤ 1 := by
  unfold ofNodes
  induction ns generalizing o with
  | nil => exact ⟨[], o, rfl, Nat.zero_le 1⟩
  | cons n ns ih =>
    obtain ⟨p, mid, hp, shallow⟩ := ofNode_of_isFlat (o := o) (n := n) (d := d) flat
    obtain ⟨ps, o', hps, shallows⟩ := ih (o := mid)
    exact ⟨p :: ps, o', ofNodesWith_cons.2 ⟨p, mid, ps, hp, hps, rfl⟩, Nat.max_le.2 ⟨shallow, shallows⟩⟩

/-! ### Groups -/

theorem TranslatesAll.exists_translates (h : TranslatesAll env o ns ps o') (hn : n ∈ ns) :
    ∃ o₁ p o₂, Translates env o₁ n p o₂ ∧ ∀ g ∈ o₂, g ∈ o' := by
  induction ns generalizing o ps with
  | nil => cases hn
  | cons k ns ih =>
    cases h with
    | cons hk hs =>
      rcases List.mem_cons.1 hn with rfl | hn
      · exact ⟨_, _, _, hk, fun _ => hs.subset⟩
      · exact ih hs hn

theorem TranslatesAll.exists_of_mem_groupsOf (h : TranslatesAll env o ns ps o')
    (hg : g ∈ groupsOf ps) : ∃ n ∈ ns, ∃ o₁ p o₂, Translates env o₁ n p o₂ ∧ g ∈ p.groups := by
  induction ns generalizing o ps with
  | nil =>
    cases h
    cases hg
  | cons n ns ih =>
    cases h with
    | cons hn hs =>
      rcases List.mem_append.1 hg with hg | hg
      · exact ⟨n, List.mem_cons_self, _, _, _, hn, hg⟩
      · obtain ⟨k, hk, found⟩ := ih hs hg
        exact ⟨k, List.mem_cons_of_mem n hk, found⟩

theorem Translates.opens_wildcard {id : Nat} (h : Translates env o n p o')
    (hi : n.wildcardId = some id) : starName id ∈ o' := by
  cases h with
  | literal => cases hi
  | star | starstar =>
    cases hi
    unfold openOnce
    split
    · rename_i opened
      exact List.contains_iff_mem.1 opened
    · exact List.mem_cons_self
  | again hx | free hx | bound hx => cases (Environment.wildcardId_of_variableName hx).symm.trans hi

theorem TranslatesAll.eq_text {t : Text} (h : TranslatesAll env o [.literal t] ps o') :
    ps = [.text t] := by
  cases h with
  | cons first last =>
    cases first with
    | literal =>
      cases last
      rfl
    | again hy | free hy | bound hy => cases hy

/-- A piece opens the group of its variable or wildcard, and no other if values are texts. -/
theorem Translates.eq_of_mem_groups (flat : env.IsFlat) (h : Translates env o n p o')
    (hg : g ∈ p.groups) : (∃ x, n.variableName = some x ∧ g = groupName x) ∨
      ∃ id, n.wildcardId = some id ∧ g = starName id := by
  cases h with
  | literal | again => cases hg
  | star | starstar => exact .inr ⟨_, rfl, openOnce_eq hg⟩
  | free hx => exact .inl ⟨_, hx, List.mem_singleton.1 hg⟩
  | bound hx _ hb hs =>
    obtain ⟨t, rfl⟩ := hb.eq_literal flat
    rw [hs.eq_text] at hg
    exact .inl ⟨_, hx, List.mem_singleton.1 hg⟩

theorem Translates.groupName_mem_iff (flat : env.IsFlat) {x : Text} (h : Translates env o n p o') :
    groupName x ∈ o' ↔ n.variableName = some x ∨ groupName x ∈ o := by
  constructor
  · intro hg
    rcases h.mem_iff.1 hg with hg | ho
    · rcases h.eq_of_mem_groups flat hg with ⟨y, hy, e⟩ | ⟨id, -, e⟩
      · exact .inl (groupName_injective e ▸ hy)
      · exact absurd e (groupName_ne_starName x id)
    · exact .inr ho
  · rintro (hx | ho)
    · exact h.opens hx
    · exact h.subset ho

theorem Translates.starName_mem_iff (flat : env.IsFlat) {id : Nat} (h : Translates env o n p o') :
    starName id ∈ o' ↔ n.wildcardId = some id ∨ starName id ∈ o := by
  constructor
  · intro hg
    rcases h.mem_iff.1 hg with hg | ho
    · rcases h.eq_of_mem_groups flat hg with ⟨x, -, e⟩ | ⟨j, hj, e⟩
      · exact absurd e.symm (groupName_ne_starName x id)
      · exact .inl (starName_injective e ▸ hj)
    · exact .inr ho
  · rintro (hi | ho)
    · exact h.opens_wildcard hi
    · exact h.subset ho

/-- The groups of a piece bind the name that its node opens. -/
theorem Translates.map_bindingName_groups (flat : env.IsFlat) {seen : List Text}
    (h : Translates env o n p o') (flagged : n.flag seen = n) (seen_iff : ∀ x, groupName x ∈ o ↔ x ∈ seen)
    (fresh : ∀ id, n.wildcardId = some id → starName id ∉ o) :
    p.groups.map bindingName = n.opening?.toList := by
  cases h with
  | literal => rfl
  | star | starstar =>
    have new := fresh _ rfl
    simp only [groups, openOnce, List.contains_iff_mem, new, if_false]
    rfl
  | again hx ho =>
    have repeated := (Node.isRepeated_iff_mem flagged hx).2 ((seen_iff _).1 ho)
    rw [Node.opening?_of_variableName hx, if_pos repeated]
    rfl
  | free hx ho =>
    have new := mt (Node.isRepeated_iff_mem flagged hx).1 (mt (seen_iff _).2 ho)
    rw [Node.opening?_of_variableName hx, if_neg new]
    rfl
  | bound hx ho hb hs =>
    have new := mt (Node.isRepeated_iff_mem flagged hx).1 (mt (seen_iff _).2 ho)
    obtain ⟨t, rfl⟩ := hb.eq_literal flat
    rw [hs.eq_text, Node.opening?_of_variableName hx, if_neg new]
    rfl

theorem TranslatesAll.map_bindingName_groupsOf (flat : env.IsFlat) {seen : List Text}
    (h : TranslatesAll env o ns ps o') (flagged : Node.flagAll seen ns = ns)
    (distinct : (Node.wildcards ns).Nodup) (seen_iff : ∀ x, groupName x ∈ o ↔ x ∈ seen)
    (fresh : ∀ id ∈ Node.wildcards ns, starName id ∉ o) :
    (groupsOf ps).map bindingName = Node.openings ns := by
  induction ns generalizing o ps seen with
  | nil =>
    cases h
    rfl
  | cons n ns ih =>
    obtain ⟨flag, flags⟩ := List.cons.inj flagged
    rw [Node.wildcards_cons, List.nodup_append] at distinct
    obtain ⟨-, distinct, other⟩ := distinct
    cases h with
    | cons hn hs =>
      have first := hn.map_bindingName_groups flat flag seen_iff fun id hi =>
        fresh id (Node.mem_wildcards_cons.2 (.inl hi))
      have later := ih hs flags distinct (fun x => ?_) fun id hi ho => ?_
      · rw [groupsOf, List.map_append, first, later, Node.openings_cons]
      · rw [hn.groupName_mem_iff flat, seen_iff, List.mem_append, Option.mem_toList]
      · rcases (hn.starName_mem_iff flat).1 ho with hj | ho
        · exact other id (Option.mem_toList.2 hj) id hi rfl
        · exact fresh id (Node.mem_wildcards_cons.2 (.inr hi)) ho

end Piece

namespace Matcher
variable {m : Matcher} {ps : List Piece}

/-- The pieces can be used unless a name is opened twice. -/
theorem usablePieces_of_isFlat (hp : m.pattern.WellFormed) (he : m.env.WellFormed)
    (flat : m.env.IsFlat) (hr : m.pattern.root = none) :
    ∃ ps, (Piece.groupsOf ps).map Piece.bindingName = Node.openings m.pattern.nodes ∧
      m.usablePieces = (firstRepeated? [] (Node.openings m.pattern.nodes)).elim (.ok ps)
        fun x => .error (.duplicateBinding x) := by
  obtain ⟨d, hd⟩ : ∃ d, (Scope.of m.env).depth = d + 2 :=
    ⟨_, (Nat.sub_add_cancel (Scope.two_le_depth _)).symm⟩
  obtain ⟨ps, o', hps, shallow⟩ : ∃ ps o', Piece.ofNodes (d + 2) (.of m.env) [] m.pattern.nodes =
      some (ps, o') ∧ Piece.depths ps ≤ 1 := Piece.ofNodes_of_isFlat flat
  have pieces : m.pieces? = some (.text [] :: ps) := by
    rw [pieces?, Piece.ofPattern, Pattern.rootText, hr]
    simp [hd, hps]
  have start : Piece.Entered m.env [] [] [] m.pattern.nodes :=
    ⟨nofun, nofun, hp.flagged, hp.named, fun _ => nofun⟩
  have names : (Piece.groupsOf ps).map Piece.bindingName = Node.openings m.pattern.nodes :=
    (Piece.translatesAll_of_ofNodes he hps start).map_bindingName_groupsOf flat hp.flagged
      hp.nodup_wildcards (fun _ => iff_of_false List.not_mem_nil List.not_mem_nil) fun _ _ => List.not_mem_nil
  have front : Piece.groupsOf (.text [] :: ps) = Piece.groupsOf ps := rfl
  have few : ¬Regex.nestLimit ≤ Piece.depths (.text [] :: ps) := by
    have : Piece.depths (.text [] :: ps) ≤ 1 := Nat.max_le.2 ⟨Nat.zero_le 1, shallow⟩
    rw [Regex.nestLimit]
    omega
  refine ⟨.text [] :: ps, names, ?_⟩
  unfold usablePieces
  simp only [pieces, if_neg few, front, names]
  cases firstRepeated? [] (Node.openings m.pattern.nodes) <;> rfl

/-- The pieces of a pattern can be used if and only if no variable has the name of a wildcard. -/
theorem usablePieces_iff_isApart (hp : m.pattern.WellFormed) (he : m.env.WellFormed)
    (flat : m.env.IsFlat) (hr : m.pattern.root = none) :
    (∃ ps, m.usablePieces = .ok ps) ↔ Node.IsApart m.pattern.nodes := by
  obtain ⟨ps, -, usable⟩ := usablePieces_of_isFlat hp he flat hr
  rw [usable, ← hp.nodup_openings_iff, ← firstRepeated?_eq_none_iff]
  cases firstRepeated? [] (Node.openings m.pattern.nodes) <;> simp

end Matcher

end LocalePaths
