import LocalePaths.Proofs.Matcher.Values
import LocalePaths.Proofs.Piece.Generation

/-!
# Expansion inverts capturing

The values that a path has for a matcher give back the path (`Matcher.expand_of_captures`), provided
that only one of the patterns involved has wildcards (`Matcher.Reversible`). Then every wildcard has a
group of its own (`groupedAll_of_translatesAll`), so that the path is generated by the values alone,
and what is generated by values is written in the scope of the expansion (`writes_of_generatesAll`).
-/

namespace LocalePaths

open Piece Relation

namespace Matcher

/-- The patterns that a matcher uses: its own, and what the variables in used patterns are bound to,
each under the name of its variable. -/
inductive Uses (m : Matcher) : Option Text → Pattern → Prop
  | own : Uses m none m.pattern
  | value {source : Option Text} {p v : Pattern} {x : Text} {repeated : Bool} : Uses m source p →
    .variable x repeated ∈ p.nodes → m.env.get? x = some v → Uses m (some x) v

/-- Every node is written as its own value: there is no Android qualifier, and wildcards are not
bound. -/
structure Direct (m : Matcher) : Prop where
  noAndroid : ∀ source p, m.Uses source p → ∀ repeated, .android repeated ∉ p.nodes
  unbound : ∀ id, m.env.get? (starName id) = none

/-- The values of a path determine the path: there is no root and no Android qualifier, wildcards are
not bound, and at most one used pattern has wildcards. -/
structure Reversible (m : Matcher) : Prop where
  rootless : m.pattern.root = none
  noAndroid : ∀ source p, m.Uses source p → ∀ repeated, .android repeated ∉ p.nodes
  unbound : ∀ id, m.env.get? (starName id) = none
  single : ∀ source source' p p', m.Uses source p → m.Uses source' p' →
    p.hasWildcard → p'.hasWildcard → source = source'

variable {m : Matcher} {source : Option Text} {p : Pattern}

theorem Reversible.direct (hm : m.Reversible) : m.Direct := ⟨hm.noAndroid, hm.unbound⟩

theorem Uses.wellFormed (hp : m.pattern.WellFormed) (he : m.env.WellFormed) (h : m.Uses source p) :
    p.WellFormed := by
  cases h with
  | own => exact hp
  | value _ _ hv => exact he _ _ hv

theorem Uses.eq_own (he : m.env = .empty) (h : m.Uses source p) : source = none ∧ p = m.pattern := by
  cases h with
  | own => exact ⟨rfl, rfl⟩
  | value _ _ hv =>
    rw [he] at hv
    cases (NameMap.get?_empty _).symm.trans hv

structure UsesNodes (m : Matcher) (ns : List Node) : Prop where
  wellFormed : ∀ source p, m.Uses source p → p.WellFormed
  used : ∃ source p, m.Uses source p ∧ ∀ n ∈ ns, n ∈ p.nodes

namespace UsesNodes
variable {n : Node} {ns body : List Node} {x : Text}

theorem head (h : m.UsesNodes (n :: ns)) : m.UsesNodes [n] := by
  obtain ⟨wf, source, p, hp, hn⟩ := h
  exact ⟨wf, source, p, hp, fun k hk => hn k (List.mem_singleton.1 hk ▸ List.mem_cons_self)⟩

theorem tail (h : m.UsesNodes (n :: ns)) : m.UsesNodes ns := by
  obtain ⟨wf, source, p, hp, hn⟩ := h
  exact ⟨wf, source, p, hp, (List.forall_mem_cons.1 hn).2⟩

theorem resolves (h : m.UsesNodes [n]) (hm : m.Direct) (hx : n.variableName = some x)
    {ns? : Option (List Node)} (hv : m.env.Resolves x ns?) :
    (∃ repeated, n = .variable x repeated) ∧ ns? = (m.env.get? x).map (·.nodes) := by
  obtain ⟨wf, source, p, hp, hn⟩ := h
  have hn : n ∈ p.nodes := hn n List.mem_cons_self
  rcases Node.variableName_eq_some.1 hx with ⟨repeated, rfl⟩ | ⟨rfl, repeated, rfl⟩
  · exact ⟨⟨repeated, rfl⟩, hv.unique (.binding ((wf _ _ hp).named _ hn))⟩
  · exact absurd hn (hm.noAndroid _ _ hp repeated)

theorem value (h : m.UsesNodes [n]) (hm : m.Direct) (hx : n.variableName = some x)
    (hv : m.env.Resolves x (some body)) :
    ∃ v, m.env.get? x = some v ∧ v.nodes = body ∧ m.Uses (some x) v := by
  obtain ⟨⟨repeated, rfl⟩, e⟩ := h.resolves hm hx hv
  obtain ⟨v, hg, e⟩ := Option.map_eq_some_iff.1 e.symm
  obtain ⟨wf, source, p, hp, hn⟩ := h
  exact ⟨v, hg, e, .value hp (hn _ List.mem_cons_self) hg⟩

end UsesNodes

/-! ### Every wildcard has a group -/

theorem hasWildcard_of_mem {id : Nat} (h : id ∈ Node.wildcards p.nodes) : p.hasWildcard = true := by
  obtain ⟨n, hn, hi⟩ := List.mem_filterMap.1 h
  exact List.any_eq_true.2 ⟨n, hn, by rw [Node.isWildcard, hi]; rfl⟩

/-- Of the used patterns only that of `source` may have wildcards. -/
def OnlyWild (m : Matcher) (source : Option Text) : Prop :=
  ∀ source' p, m.Uses source' p → p.hasWildcard → source' = source

theorem Reversible.onlyWild (hm : m.Reversible) : ∃ source, m.OnlyWild source := by
  by_cases some_wild : ∃ source p, m.Uses source p ∧ p.hasWildcard = true
  · obtain ⟨source, p, hp, hw⟩ := some_wild
    exact ⟨source, fun source' p' hp' hw' => hm.single _ _ _ _ hp' hp hw' hw⟩
  · exact ⟨none, fun source' p' hp' hw' => absurd ⟨source', p', hp', hw'⟩ some_wild⟩

def Entered (source : Option Text) (o : List Text) : Prop :=
  ∀ x, source = some x → groupName x ∈ o

section
variable {o o' : List Text} {n : Node} {ns : List Node} {q : Piece} {ps : List Piece} {id : Nat}

/-- A variable that is entered has no wildcards once the one pattern with wildcards is entered. -/
theorem not_wildcard_of_fresh (wild : m.OnlyWild source) {x : Text} {v : Pattern}
    (hv : m.Uses (some x) v) (hx : groupName x ∉ o) (he : Entered source o) : id ∉ Node.wildcards v.nodes := fun hi =>
  hx (he x (wild _ _ hv (hasWildcard_of_mem hi)).symm)

mutual

/-- Once the one pattern with wildcards is entered, only its own wildcards open groups. -/
theorem starName_mem_of_translates (hm : m.Reversible) (wild : m.OnlyWild source) :
    ∀ {n o q o'}, Translates m.env o n q o' → m.UsesNodes [n] →
    Entered source o → starName id ∈ o' → starName id ∈ o ∨ n.wildcardId = some id
  | _, _, _, _, .literal, _, _, hi | _, _, _, _, .again .., _, _, hi => .inl hi
  | _, _, _, _, .star, _, _, hi | _, _, _, _, .starstar, _, _, hi => by
    refine (mem_openOnce.1 hi).symm.imp_right fun h => ?_
    rw [starName_injective (openOnce_eq h)]
    rfl
  | _, _, _, _, .free (x := x) .., _, _, hi =>
    .inl ((List.mem_cons.1 hi).resolve_left (groupName_ne_starName x id).symm)
  | _, _, _, _, .bound (x := x) hx ho hb h, hn, he, hi => by
    have inner := starName_mem_of_translatesAll hm wild h
    obtain ⟨v, hg, rfl, hv⟩ := hn.value hm.direct hx hb
    have he' : Entered source (groupName x :: _) := fun y hy => List.mem_cons_of_mem _ (he y hy)
    rcases inner ⟨hn.wellFormed, _, v, hv, fun _ h => h⟩ he' hi with hi | hi
    · exact .inl ((List.mem_cons.1 hi).resolve_left (groupName_ne_starName x id).symm)
    · exact absurd hi (not_wildcard_of_fresh wild hv ho he)

theorem starName_mem_of_translatesAll (hm : m.Reversible) (wild : m.OnlyWild source) :
    ∀ {ns o ps o'}, TranslatesAll m.env o ns ps o' → m.UsesNodes ns → Entered source o →
      starName id ∈ o' → starName id ∈ o ∨ id ∈ Node.wildcards ns
  | _, _, _, _, .nil, _, _, hi => .inl hi
  | _, _, _, _, .cons h hs, hn, he, hi => by
    rw [Node.mem_wildcards_cons, ← or_assoc]
    have he' : Entered source _ := fun x hx => h.subset (he x hx)
    exact (starName_mem_of_translatesAll hm wild hs hn.tail he' hi).imp_left
      (starName_mem_of_translates hm wild h hn.head he)

end

/-- What is known where nodes are translated: their wildcards have no groups yet, and there is a group
of a wildcard only if the one pattern with wildcards is entered. -/
structure Unspent (source : Option Text) (o : List Text) (ns : List Node) : Prop where
  nodup : (Node.wildcards ns).Nodup
  fresh : ∀ id ∈ Node.wildcards ns, starName id ∉ o
  entered : Node.wildcards ns ≠ [] → Entered source o
  late : ∀ id, starName id ∈ o → Entered source o

namespace Unspent

theorem head (h : Unspent source o (n :: ns)) : Unspent source o [n] := by
  have sub : ∀ id ∈ Node.wildcards [n], id ∈ Node.wildcards (n :: ns) := fun id hi =>
    Node.mem_wildcards_cons.2 ((Node.mem_wildcards_cons.1 hi).imp_right nofun)
  refine ⟨?_, fun id hi => h.fresh id (sub id hi), fun hne => h.entered ?_, h.late⟩
  · have nodup := h.nodup
    rw [Node.wildcards_cons] at nodup ⊢
    exact (List.append_nil _).symm ▸ (List.nodup_append.1 nodup).1
  · obtain ⟨id, hi⟩ := List.exists_mem_of_ne_nil _ hne
    exact List.ne_nil_of_mem (sub id hi)

theorem tail (hm : m.Reversible) (wild : m.OnlyWild source) (h : Unspent source o (n :: ns))
    (ht : Translates m.env o n q o') (hn : m.UsesNodes [n])
    (late : ∀ id, starName id ∈ o' → Entered source o') :
    Unspent source o' ns := by
  have nodup := h.nodup
  rw [Node.wildcards_cons, List.nodup_append] at nodup
  have entered : ∀ id ∈ Node.wildcards ns, Entered source o := fun id hi =>
    h.entered (List.ne_nil_of_mem (Node.mem_wildcards_cons.2 (.inr hi)))
  refine ⟨nodup.2.1, fun id hi ho => ?_, fun hne => ?_, late⟩
  · rcases starName_mem_of_translates hm wild ht hn (entered id hi) ho with ho | hw
    · exact h.fresh id (Node.mem_wildcards_cons.2 (.inr hi)) ho
    · exact nodup.2.2 id (Option.mem_toList.2 hw) id hi rfl
  · obtain ⟨id, hi⟩ := List.exists_mem_of_ne_nil _ hne
    exact fun x hx => ht.subset (entered id hi x hx)

theorem value (wild : m.OnlyWild source) {x : Text} {v : Pattern}
    (late : ∀ id, starName id ∈ o → Entered source o) (hx : groupName x ∉ o) (hv : m.Uses (some x) v) (wf : v.WellFormed) :
    Unspent source (groupName x :: o) v.nodes := by
  have before : ∀ id, starName id ∈ groupName x :: o → starName id ∈ o := fun id hi =>
    (List.mem_cons.1 hi).resolve_left (groupName_ne_starName x id).symm
  refine ⟨wf.nodup_wildcards, fun id hi ho => ?_, fun hne => ?_, fun id hi => ?_⟩
  · exact not_wildcard_of_fresh wild hv hx (late id (before id ho)) hi
  · obtain ⟨id, hi⟩ := List.exists_mem_of_ne_nil _ hne
    intro y hy
    obtain rfl : x = y := Option.some.inj ((wild _ _ hv (hasWildcard_of_mem hi)).trans hy)
    exact List.mem_cons_self
  · exact fun y hy => List.mem_cons_of_mem _ (late id (before id hi) y hy)

theorem wildcard (h : Unspent source o [n]) (hn : n.wildcardId = some id) :
    (openOnce o (starName id)).1.isSome ∧
      ∀ id', starName id' ∈ (openOnce o (starName id)).2 →
        Entered source (openOnce o (starName id)).2 := by
  have hi : id ∈ Node.wildcards [n] := Node.mem_wildcards_cons.2 (.inl hn)
  refine ⟨by simp [openOnce, h.fresh id hi], fun _ _ x hx => mem_openOnce.2 (.inr ?_)⟩
  exact h.entered (List.ne_nil_of_mem hi) x hx

end Unspent

mutual

theorem grouped_of_translates (hm : m.Reversible) (wild : m.OnlyWild source) :
    ∀ {n o q o'}, Translates m.env o n q o' → m.UsesNodes [n] → Unspent source o [n] →
      q.Grouped ∧ ∀ id, starName id ∈ o' → Entered source o'
  | _, _, _, _, .literal, _, hu | _, _, _, _, .again .., _, hu => ⟨trivial, hu.late⟩
  | _, _, _, _, .star, _, hu | _, _, _, _, .starstar, _, hu => hu.wildcard rfl
  | _, _, _, _, .free (x := x) .., _, hu => by
    refine ⟨trivial, fun id hi y hy => List.mem_cons_of_mem _ (hu.late id ?_ y hy)⟩
    exact (List.mem_cons.1 hi).resolve_left (groupName_ne_starName x id).symm
  | _, _, _, _, .bound (x := x) hx ho hb h, hn, hu => by
    have inner := groupedAll_of_translatesAll hm wild h
    obtain ⟨v, -, rfl, hv⟩ := hn.value hm.direct hx hb
    exact inner ⟨hn.wellFormed, _, v, hv, fun _ h => h⟩
      (.value wild hu.late ho hv (hn.wellFormed _ _ hv))

theorem groupedAll_of_translatesAll (hm : m.Reversible) (wild : m.OnlyWild source) :
    ∀ {ns o ps o'}, TranslatesAll m.env o ns ps o' → m.UsesNodes ns → Unspent source o ns →
      GroupedAll ps ∧ ∀ id, starName id ∈ o' → Entered source o'
  | _, _, _, _, .nil, _, hu => ⟨trivial, hu.late⟩
  | _, _, _, _, .cons h hs, hn, hu => by
    obtain ⟨hq, late⟩ := grouped_of_translates hm wild h hn.head hu.head
    have hu' := hu.tail hm wild h hn.head late
    obtain ⟨hqs, late'⟩ := groupedAll_of_translatesAll hm wild hs hn.tail hu'
    exact ⟨⟨hq, hqs⟩, late'⟩

end

end

/-! ### What is generated by values is written -/

/-- The scope of an expansion where names are hidden. -/
def scopeWithout (m : Matcher) (b : Bindings) (hidden : List Text) : Scope :=
  { m.scopeFor b with hidden }

def unhidden (m : Matcher) (hidden : List Text) : Nat :=
  (m.env.names.filter fun x => !hidden.contains x).length

theorem unhidden_cons_lt {H : List Text} {x : Text} (hx : x ∈ m.env.names) (hH : x ∉ H) :
    m.unhidden (x :: H) < m.unhidden H := by
  have fewer : m.env.names.filter (fun y => !(x :: H).contains y) =
      (m.env.names.filter fun y => !H.contains y).filter fun y => !(y == x) := by
    rw [List.filter_filter]
    congr 1
    funext y
    rw [List.contains_cons, Bool.not_or]
  rw [unhidden, fewer]
  refine List.length_filter_lt_length_iff_exists.2 ⟨x, ?_, by simp⟩
  simpa using ⟨hx, hH⟩

theorem unhidden_nil_le (m : Matcher) : m.unhidden [] ≤ m.env.size :=
  Nat.le_trans (List.length_filter_le ..) (Nat.le_of_eq (List.length_map _))

def HasValue (b : Bindings) (n : Node) (t : Text) : Prop :=
  ∀ id, n.wildcardId = some id → b.get? (starName id) = some t

section
variable {b : Bindings} {H : List Text} {x t : Text} {d : Nat}

theorem lookup_scopeWithout : (m.scopeWithout b H).lookup x =
    if x ∈ H then none else (m.env.get? x).or ((b.get? x).map Pattern.literal) := by
  simp [scopeWithout, scopeFor, Scope.lookup, Scope.layered, Bindings.toEnvironment]

theorem writes_literal {s : Scope} : s.Writes (d + 1) (Pattern.literal t).nodes t :=
  Scope.writes_cons.2 ⟨t, [], rfl, Scope.writes_nil.2 rfl, (List.append_nil t).symm⟩

theorem writes_value (hx : m.env.get? x = none) (hb : b.get? x = some t)
    (hH : ∀ y ∈ H, m.env.get? y ≠ none) (s : Scope) :
    ∃ v, (m.scopeWithout b H).lookup x = some v ∧ s.Writes (d + 1) v.nodes t := by
  refine ⟨.literal t, ?_, writes_literal⟩
  rw [lookup_scopeWithout, if_neg fun h => hH x h hx, hx, hb]
  rfl

variable {r : Text → Text}

mutual

/-- What a node generates from values is written in the scope of the expansion. Names are hidden
that the node is reached through, and the depth suffices for those that are not. -/
theorem writesNode_of_generates (hm : m.Direct)
    (free : ∀ x, m.env.Resolves x none → m.env.get? x = none → r x ≠ [] →
      b.get? x = some (r x)) :
    ∀ {n : Node} {t : Text} {H : List Text} {k : Nat},
      m.env.Generates r (HasValue b) n t → m.UsesNodes [n] → (∀ y ∈ H, m.env.get? y ≠ none) →
        (∀ y ∈ H, ∀ x, n.variableName = some x → TransGen m.env.OccursIn x y) →
          m.unhidden H ≤ k → (m.scopeWithout b H).WritesNode (k + 1) n t
  | _, _, _, _, .literal, _, _, _, _ => rfl
  | .star id, _, _, _, .wildcard _ hw, _, hH, _, _
  | .starstar id _, _, _, _, .wildcard _ hw, _, hH, _, _ =>
    writes_value (hm.unbound id) (hw id rfl) hH _
  | n, _, _, _, .free hx hf hr, hn, hH, _, _ => by
    obtain ⟨⟨repeated, rfl⟩, e⟩ := hn.resolves hm hx hf
    have unbound := Option.map_eq_none_iff.1 e.symm
    exact writes_value unbound (free _ hf unbound hr.1) hH _
  | n, _, H, k, .bound (x := x) hx hb h, hn, hH, hr, hk => by
    -- the variable is not reached through itself, so its name is not hidden here
    have closed : x ∉ H := fun h' =>
      Environment.not_transGen_of_acc ((Environment.Generates.bound hx hb h).acc x hx) (hr x h' x hx)
    have inner := fun {k} => writes_of_generatesAll (H := x :: H) (k := k) hm free h
    have reached : ∀ y ∈ x :: H, ReflTransGen m.env.OccursIn x y := reach_opening hr hx
    obtain ⟨⟨repeated, rfl⟩, -⟩ := hn.resolves hm hx hb
    obtain ⟨v, hg, rfl, hv⟩ := hn.value hm hx hb
    have fewer := unhidden_cons_lt (NameMap.mem_names hg) closed
    obtain ⟨j, rfl⟩ : ∃ j, k = j + 1 := ⟨k - 1, by omega⟩
    refine ⟨v, by rw [lookup_scopeWithout, if_neg closed, hg]; rfl, ?_⟩
    refine inner ⟨hn.wellFormed, _, v, hv, fun _ h => h⟩ ?_ ?_ (by omega)
    · exact List.forall_mem_cons.2 ⟨by simp [hg], hH⟩
    · exact fun y hy k hk z hz => .head' ⟨v.nodes, k, hb, hk, hz⟩ (reached y hy)

theorem writes_of_generatesAll (hm : m.Direct)
    (free : ∀ x, m.env.Resolves x none → m.env.get? x = none → r x ≠ [] →
      b.get? x = some (r x)) :
    ∀ {ns : List Node} {t : Text} {H : List Text} {k : Nat},
      m.env.GeneratesAll r (HasValue b) ns t → m.UsesNodes ns → (∀ y ∈ H, m.env.get? y ≠ none) →
        (∀ y ∈ H, ∀ n ∈ ns, ∀ x, n.variableName = some x → TransGen m.env.OccursIn x y) →
          m.unhidden H ≤ k → (m.scopeWithout b H).Writes (k + 2) ns t
  | _, _, _, _, .nil, _, _, _, _ => Scope.writes_nil.2 rfl
  | _, _, _, _, .cons h hs, hn, hH, hr, hk =>
    Scope.writes_cons.2 ⟨_, _,
      writesNode_of_generates hm free h hn.head hH
        (fun y hy => (List.forall_mem_cons.1 (hr y hy)).1) hk,
      writes_of_generatesAll hm free hs hn.tail hH
        (fun y hy => (List.forall_mem_cons.1 (hr y hy)).2) hk, rfl⟩

end

theorem writes_scopeFor (hm : m.Direct)
    (free : ∀ x, m.env.Resolves x none → m.env.get? x = none → r x ≠ [] →
      b.get? x = some (r x)) {ns : List Node}
    (hn : m.UsesNodes ns) (h : m.env.GeneratesAll r (HasValue b) ns t) :
    (m.scopeFor b).Writes (m.scopeFor b).depth ns t := by
  have h : (m.scopeWithout b []).Writes (m.unhidden [] + 2) ns t :=
    writes_of_generatesAll hm free h hn nofun nofun (Nat.le_refl _)
  refine h.mono ?_
  have hidden := unhidden_nil_le m
  have square := Nat.le_mul_self (m.env.size + b.toEnvironment.size + 2)
  show m.unhidden [] + 2 ≤ 2 * _
  exact (by omega : m.unhidden [] + 2 ≤ m.env.size + b.toEnvironment.size + 2).trans
    (square.trans (Nat.le_mul_of_pos_left _ (by decide)))

theorem expand_of_writes {root : Text} (hr : m.pattern.rootText (m.scopeFor b) = some root)
    (h : (m.scopeFor b).Writes (m.scopeFor b).depth m.pattern.nodes t) :
    m.expand b = .ok (root ++ t) := by
  have rendered : m.pattern.render .halt (m.scopeFor b) = some (.written (root ++ t)) :=
    Pattern.render_eq_some.2 ⟨root, .written t, hr, h, rfl⟩
  rw [expand, rendered]
  rfl

theorem rootText_of_rootless (h : p.root = none) (s : Scope) : p.rootText s = some [] := by
  rw [Pattern.rootText, h]

theorem expand_of_generatesAll (hm : m.Reversible)
    (free : ∀ x, r x ≠ [] → b.get? x = some (r x)) (hn : m.UsesNodes m.pattern.nodes)
    (h : m.env.GeneratesAll r (HasValue b) m.pattern.nodes t) : m.expand b = .ok t :=
  expand_of_writes (rootText_of_rootless hm.rootless _)
    (writes_scopeFor hm.direct (fun x _ _ => free x) hn h)

end

theorem groupedAll_of_reversible {qs : List Piece} {o' : List Text} (hm : m.Reversible)
    (hn : m.UsesNodes m.pattern.nodes) (ht : TranslatesAll m.env [] m.pattern.nodes qs o') :
    GroupedAll qs := by
  obtain ⟨source, wild⟩ := hm.onlyWild
  have wf := hn.wellFormed _ _ .own
  refine (groupedAll_of_translatesAll hm wild ht hn ⟨?_, nofun, fun hne => ?_, nofun⟩).1
  · exact wf.nodup_wildcards
  · obtain ⟨id, hi⟩ := List.exists_mem_of_ne_nil _ hne
    exact fun x hx => nomatch (wild _ _ .own (hasWildcard_of_mem hi)).trans hx

/-- The values with which a path matches expand to the path. -/
theorem expand_of_captures {path : Text} {b : Bindings} (hp : m.pattern.Formed)
    (he : ∀ x v, m.env.get? x = some v → v.Formed) (hm : m.Reversible)
    (h : m.captures path = .ok (some b)) : m.expand b = .ok path := by
  have wfp := hp.wellFormed
  have wfe : m.env.WellFormed := fun x v hv => (he x v hv).wellFormed
  have used : m.UsesNodes m.pattern.nodes :=
    ⟨fun source p => Uses.wellFormed wfp wfe, none, m.pattern, .own, fun _ h => h⟩
  obtain ⟨ps, cs, hu, hr, hb⟩ := reads_of_captures h
  obtain ⟨root, qs, o', hroot, rfl, ht⟩ := translatesAll_of_usablePieces wfp wfe hu
  rw [Pattern.rootText, hm.rootless] at hroot
  cases hroot
  obtain ⟨_, body, _, rfl, ⟨rfl, rfl⟩, hr⟩ := hr
  -- the groups bind different names, so the values are the captures, whatever locale is added
  have value : ∀ g ∈ o', b.get? (bindingName g) = some ((cs.get? g).getD []) := fun g hg => by
    rw [hb]
    refine get?_addLocale (get?_valuesOf (usablePieces_eq_ok hu).2 ?_)
    exact (ht.mem_iff.1 hg).resolve_right nofun
  have agrees : Agrees (fun x => (b.get? x).getD []) (fun id => b.get? (starName id)) o' cs :=
    ⟨fun x t hx ht => by rw [← bindingName_groupName x, value _ hx, ht]; rfl,
      fun id hi => value _ hi⟩
  have wildcard : Allows True (fun id => b.get? (starName id)) (HasValue b) := by
    intro n id t hn _ h k hk
    rw [← Option.some.inj (hn.symm.trans hk)]
    exact h trivial
  have grouped : True → GroupedAll qs := fun _ => groupedAll_of_reversible hm used ht
  have generated := (generatesAll_of_reads wildcard ht grouped hr known_nil agrees).1
  refine expand_of_generatesAll hm (fun x hx => ?_) used generated
  cases hx' : b.get? x with
  | none => simp [hx'] at hx
  | some t => rfl

def mirror : Matcher :=
  (Matcher.of (.parse "{a}/**/{b}-{b}.x".toList)).withEnv [("a".toList, .parse "x{c}".toList)]

theorem mirror_get? (x : Text) :
    mirror.env.get? x = if x = ['a'] then some (.parse "x{c}".toList) else none := by
  simp [mirror, Matcher.withEnv, Matcher.of, NameMap.insertMany]

theorem mirror_uses {source : Option Text} (h : mirror.Uses source p) :
    source = none ∧ p = mirror.pattern ∨ p = .parse "x{c}".toList := by
  cases h with
  | own => exact .inl ⟨rfl, rfl⟩
  | value _ _ hv =>
    rw [mirror_get?] at hv
    split at hv
    · exact .inr (Option.some.inj hv).symm
    · cases hv

theorem mirror_reversible : mirror.Reversible where
  rootless := rfl
  noAndroid source p h := by
    rcases mirror_uses h with ⟨-, rfl⟩ | rfl <;> decide +kernel
  unbound id := by
    have other : starName id ≠ ['a'] := fun h => absurd (List.cons.inj h).1 (by decide)
    rw [mirror_get?, if_neg other]
  single := by
    have own : ∀ source p, mirror.Uses source p → p.hasWildcard → source = none := by
      intro source p h hw
      rcases mirror_uses h with ⟨rfl, -⟩ | rfl
      · rfl
      · exact absurd hw (by decide +kernel)
    intro source source' p p' h h' hw hw'
    rw [own _ _ h hw, own _ _ h' hw']

theorem mirror_expand : mirror.expand (.ofList [("a".toList, "x{c}".toList),
    ("b".toList, ['*']), ("c".toList, "{c}".toList), ("s1".toList, [])]) =
      .ok "x{c}/*-*.x".toList :=
  expand_of_captures (.parse _)
    (fun x v hv => by
      rw [mirror_get?] at hv
      split at hv
      · exact Option.some.inj hv ▸ .parse _
      · cases hv)
    mirror_reversible (by decide +kernel)

end Matcher

end LocalePaths
