import LocalePaths.Proofs.Pattern.Formed
import LocalePaths.Proofs.Pattern.Rendering
import LocalePaths.Proofs.Piece.Reading

/-!
# From nodes to pieces

`Piece.Translates` says which piece a node becomes, given the groups opened before. It does not
mention depths, flags or hidden names: what a variable stands for depends on the environment alone
(`Environment.Resolves`), and a variable refers back exactly if its group is open. The pieces of a
formed pattern are such a translation (`translatesAll_of_ofNodes`).
-/

namespace LocalePaths

namespace Node
variable {n : Node} {x : Text}

theorem variableName_eq_some : n.variableName = some x ↔
    (∃ repeated, n = .variable x repeated) ∨ x = androidLocale ∧ ∃ repeated, n = .android repeated := by
  cases n <;> simp [variableName, eq_comm]

end Node

namespace Environment
variable {env : Environment} {x : Text}

def WellFormed (env : Environment) : Prop := ∀ x v, env.get? x = some v → v.WellFormed

/-- The nodes that a variable stands for, if it stands for any: those that it is bound to, and the
qualifier of the locale for `androidLocale`. -/
inductive Resolves (env : Environment) : Text → Option (List Node) → Prop
  | binding {x : Text} : x ≠ androidLocale → Resolves env x ((env.get? x).map (·.nodes))
  | code {code : Text} : env.HasCode code → Resolves env androidLocale (some [.literal code])
  | noCode : (∀ code, ¬env.HasCode code) → Resolves env androidLocale none

theorem Resolves.unique {a b : Option (List Node)} (ha : env.Resolves x a) (hb : env.Resolves x b) :
    a = b := by
  cases ha with
  | binding hx =>
    cases hb with
    | binding => rfl
    | _ => exact absurd rfl hx
  | code ha =>
    cases hb with
    | binding hx => exact absurd rfl hx
    | code hb => rw [ha.unique hb]
    | noCode no => exact absurd ha (no _)
  | noCode no =>
    cases hb with
    | binding hx => exact absurd rfl hx
    | code hb => exact absurd hb (no _)
    | noCode => rfl

end Environment

namespace Piece
variable {env : Environment} {o o' : List Text} {g h : Text} {n : Node} {p : Piece} {ns : List Node}
  {ps : List Piece}

theorem groupName_injective {x y : Text} (h : groupName x = groupName y) : x = y :=
  (List.cons.inj (List.cons.inj h).2).2

theorem groupName_ne_starName (x : Text) (id : Nat) : groupName x ≠ starName id := fun h =>
  absurd (List.cons.inj h).1 (by decide)

theorem mem_openOnce : h ∈ (openOnce o g).2 ↔ h ∈ (openOnce o g).1.toList ∨ h ∈ o := by
  unfold openOnce
  split <;> simp

theorem openOnce_fresh (hh : h ∈ (openOnce o g).1.toList) : h ∉ o := by
  unfold openOnce at hh
  split at hh
  · cases hh
  · rename_i ho
    obtain rfl : h = g := by simpa using hh
    simpa using ho

theorem openOnce_eq (hh : h ∈ (openOnce o g).1.toList) : h = g := by
  unfold openOnce at hh
  split at hh
  · cases hh
  · simpa using hh

mutual

/-- The node becomes the piece; the groups opened are `o` before it and `o'` after it. -/
inductive Translates (env : Environment) : (o : List Text) → Node → Piece → (o' : List Text) → Prop
  | literal {o : List Text} {t : Text} : Translates env o (.literal t) (.text t) o
  | star {o : List Text} {id : Nat} :
    Translates env o (.star id) (.star (openOnce o (starName id)).1) (openOnce o (starName id)).2
  | starstar {o : List Text} {id : Nat} {ending : Text} :
    Translates env o (.starstar id ending) (.starstar (openOnce o (starName id)).1 ending)
      (openOnce o (starName id)).2
  | again {o : List Text} {n : Node} {x : Text} : n.variableName = some x → groupName x ∈ o →
    Translates env o n (.again (groupName x)) o
  | free {o : List Text} {n : Node} {x : Text} : n.variableName = some x → groupName x ∉ o →
    env.Resolves x none → Translates env o n (.free (groupName x)) (groupName x :: o)
  | bound {o o' : List Text} {n : Node} {x : Text} {ns : List Node} {body : List Piece} :
    n.variableName = some x → groupName x ∉ o → env.Resolves x (some ns) →
      TranslatesAll env (groupName x :: o) ns body o' →
        Translates env o n (.bound (groupName x) body) o'

inductive TranslatesAll (env : Environment) :
    (o : List Text) → List Node → List Piece → (o' : List Text) → Prop
  | nil {o : List Text} : TranslatesAll env o [] [] o
  | cons {o mid o' : List Text} {n : Node} {p : Piece} {ns : List Node} {ps : List Piece} :
    Translates env o n p mid → TranslatesAll env mid ns ps o' →
      TranslatesAll env o (n :: ns) (p :: ps) o'

end

mutual

theorem Translates.mem_iff : ∀ {o n p o'}, Translates env o n p o' →
    (g ∈ o' ↔ g ∈ p.groups ∨ g ∈ o)
  | _, _, _, _, .literal => by simp [groups]
  | _, _, _, _, .star | _, _, _, _, .starstar => mem_openOnce
  | _, _, _, _, .again .. => by simp [groups]
  | _, _, _, _, .free .. => by simp [groups]
  | _, _, _, _, .bound _ _ _ h => by
    rw [h.mem_iff, groups]
    simp only [List.mem_cons]
    exact or_left_comm.trans (or_assoc ..).symm

theorem TranslatesAll.mem_iff : ∀ {o ns ps o'}, TranslatesAll env o ns ps o' →
    (g ∈ o' ↔ g ∈ groupsOf ps ∨ g ∈ o)
  | _, _, _, _, .nil => by simp [groupsOf]
  | _, _, _, _, .cons hn h => by
    rw [h.mem_iff, hn.mem_iff, groupsOf, List.mem_append]
    exact or_left_comm.trans (or_assoc ..).symm

end

theorem TranslatesAll.subset (h : TranslatesAll env o ns ps o') (hg : g ∈ o) : g ∈ o' :=
  h.mem_iff.2 (.inr hg)

theorem Translates.subset (h : Translates env o n p o') (hg : g ∈ o) : g ∈ o' :=
  h.mem_iff.2 (.inr hg)

theorem Translates.opens {x : Text} (h : Translates env o n p o') (hx : n.variableName = some x) :
    groupName x ∈ o' := by
  cases h with
  | literal | star | starstar => cases hx
  | again hy ho => rwa [Option.some.inj (hx.symm.trans hy)]
  | free hy => exact Option.some.inj (hx.symm.trans hy) ▸ List.mem_cons_self
  | bound hy _ _ h =>
    exact h.subset (Option.some.inj (hx.symm.trans hy) ▸ List.mem_cons_self)

mutual

theorem Translates.fresh : ∀ {o n p o'}, Translates env o n p o' → g ∈ p.groups → g ∉ o
  | _, _, _, _, .literal, hg | _, _, _, _, .again .., hg => nomatch hg
  | _, _, _, _, .star, hg | _, _, _, _, .starstar, hg => openOnce_fresh hg
  | _, _, _, _, .free _ hx _, hg => List.mem_singleton.1 hg ▸ hx
  | _, _, _, _, .bound _ hx _ h, hg => by
    rcases List.mem_cons.1 hg with rfl | hg
    · exact hx
    · exact fun ho => h.fresh hg (List.mem_cons_of_mem _ ho)

theorem TranslatesAll.fresh : ∀ {o ns ps o'}, TranslatesAll env o ns ps o' → g ∈ groupsOf ps → g ∉ o
  | _, _, _, _, .nil, hg => nomatch hg
  | _, _, _, _, .cons hn h, hg => by
    rcases List.mem_append.1 hg with hg | hg
    · exact hn.fresh hg
    · exact fun ho => h.fresh hg (hn.subset ho)

end

/-! ### The pieces of a pattern are a translation -/

theorem ofNodesWith_cons {one : List Text → Node → Option (Piece × List Text)} :
    ofNodesWith one o (n :: ns) = some (ps, o') ↔
      ∃ p mid qs, one o n = some (p, mid) ∧ ofNodesWith one mid ns = some (qs, o') ∧ ps = p :: qs := by
  simp only [ofNodesWith, Option.bind_eq_bind, Option.bind_eq_some_iff, Prod.exists, Option.pure_def,
    Option.some.injEq, Prod.mk.injEq]
  constructor
  · rintro ⟨p, mid, hp, qs, _, hqs, rfl, rfl⟩
    exact ⟨p, mid, qs, hp, hqs, rfl⟩
  · rintro ⟨p, mid, qs, hp, hqs, rfl⟩
    exact ⟨p, mid, hp, qs, o', hqs, rfl, rfl⟩

/-- What is known where nodes are translated: the names hidden and the names that flags refer to have
groups, and names are hidden on the way to the nodes. -/
structure Entered (env : Environment) (hidden seen o : List Text) (ns : List Node) : Prop where
  hidden_opened : ∀ x ∈ hidden, groupName x ∈ o
  seen_opened : ∀ x ∈ seen, groupName x ∈ o
  flagged : Node.flagAll seen ns = ns
  named : ∀ n ∈ ns, n.IsNamed
  leads : env.EntersAndroid ns → ∀ x ∈ hidden, ∀ v, env.get? x = some v → env.EntersAndroid v.nodes

namespace Entered
variable {H seen : List Text} {x : Text} {b : Bool}

theorem tail (h : Entered env H seen o (n :: ns)) (sub : ∀ g ∈ o, g ∈ o')
    (opened : ∀ x, n.variableName = some x → groupName x ∈ o') :
    Entered env H (n.variableName.toList ++ seen) o' ns where
  hidden_opened x hx := sub _ (h.hidden_opened x hx)
  seen_opened x hx := by
    rcases List.mem_append.1 hx with hx | hx
    · exact opened x (Option.mem_toList.1 hx)
    · exact sub _ (h.seen_opened x hx)
  flagged := (List.cons.inj h.flagged).2
  named := (List.forall_mem_cons.1 h.named).2
  leads enters := h.leads enters.of_tail

theorem body {v : Pattern} (h : Entered env H seen o (.variable x b :: ns)) (hv : env.get? x = some v)
    (wf : v.WellFormed) : Entered env (x :: H) [] (groupName x :: o) v.nodes where
  hidden_opened := List.forall_mem_cons.2
    ⟨List.mem_cons_self, fun y hy => List.mem_cons_of_mem _ (h.hidden_opened y hy)⟩
  seen_opened := nofun
  flagged := wf.flagged
  named := wf.named
  leads enters := List.forall_mem_cons.2
    ⟨fun _ hw => Option.some.inj (hv.symm.trans hw) ▸ enters,
      h.leads (.through List.mem_cons_self hv enters)⟩

/-- A flag that is set says no more than that the group is open. -/
theorem repeated_or (h : Entered env H seen o (n :: ns)) (hn : n.variableName = some x) :
    (n.isRepeated || o.contains (groupName x)) = true ↔ groupName x ∈ o := by
  have flag : n.flag seen = n := (List.cons.inj h.flagged).1
  have set : n.isRepeated = true → groupName x ∈ o := by
    intro hr
    rw [← flag] at hr
    rcases Node.variableName_eq_some.1 hn with ⟨b, rfl⟩ | ⟨rfl, b, rfl⟩ <;>
      exact h.seen_opened _ (by simpa [Node.flag, Node.isRepeated] using hr)
  rw [Bool.or_eq_true, List.contains_iff_mem]
  exact or_iff_right_of_imp set

end Entered

theorem translates_of_ofNode {H seen : List Text} {inner : Expander} {o' : List Text}
    (wf : env.WellFormed) (hi : Entered env H seen o (n :: ns))
    (hin : ∀ {H seen o ns ps o'}, inner (env.without H) o ns = some (ps, o') →
      Entered env H seen o ns → TranslatesAll env o ns ps o')
    (h : ofNode inner (env.without H) o n = some (p, o')) : Translates env o n p o' := by
  cases n with
  | literal t =>
    cases h
    exact .literal
  | star id =>
    cases h
    exact .star
  | starstar id ending =>
    cases h
    exact .starstar
  | «variable» x b =>
    have named : x ≠ androidLocale := (List.forall_mem_cons.1 hi.named).1
    have again := hi.repeated_or (x := x) rfl
    simp only [Node.isRepeated] at again
    simp only [ofNode] at h
    by_cases hx : groupName x ∈ o
    · rw [if_pos (again.2 hx)] at h
      cases h
      exact .again rfl hx
    · rw [if_neg (mt again.1 hx)] at h
      -- hidden names have groups, so the scope shows what the environment binds
      have hxH : x ∉ H := mt (hi.hidden_opened x) hx
      have value : env.Resolves x _ := .binding named
      cases hv : env.get? x with
      | none =>
        rw [Environment.lookup_without_eq_none.2 (.inr hv)] at h
        rw [hv] at value
        cases h
        exact .free rfl hx value
      | some v =>
        rw [Environment.lookup_without.2 ⟨hxH, hv⟩] at h
        rw [hv] at value
        obtain ⟨⟨body, mid⟩, hb, he⟩ := Option.bind_eq_some_iff.1 h
        cases he
        exact .bound rfl hx value (hin hb (hi.body hv (wf x v hv)))
  | android b =>
    have again := hi.repeated_or (x := androidLocale) rfl
    simp only [Node.isRepeated] at again
    simp only [ofNode] at h
    by_cases hx : groupName androidLocale ∈ o
    · rw [if_pos (again.2 hx)] at h
      cases h
      exact .again rfl hx
    · rw [if_neg (mt again.1 hx)] at h
      obtain ⟨answer, hq, he⟩ := Option.bind_eq_some_iff.1 h
      have code := fun t => Environment.qualifier?_eq_some_iff (t := t) hq
        (hi.leads (.here List.mem_cons_self))
      cases answer with
      | none =>
        cases he
        have none (t : Text) : ¬ env.HasCode t := by
          intro ht
          cases (code t).2 ht
        exact .free rfl hx (.noCode none)
      | some t =>
        cases he
        exact .bound rfl hx (.code ((code t).1 rfl)) (.cons .literal .nil)

theorem translatesAll_of_ofNodes (wf : env.WellFormed) {d : Nat} : ∀ {H seen o ns ps o'},
    ofNodes d (env.without H) o ns = some (ps, o') → Entered env H seen o ns →
      TranslatesAll env o ns ps o' := by
  induction d with
  | zero => nofun
  | succ d ih =>
    intro H seen o ns ps o' h hi
    unfold ofNodes at h
    induction ns generalizing seen o ps with
    | nil =>
      cases h
      exact .nil
    | cons n ns ihn =>
      obtain ⟨p, mid, qs, hp, hqs, rfl⟩ := ofNodesWith_cons.1 h
      have first := translates_of_ofNode wf hi ih hp
      exact .cons first (ihn (hi.tail (fun _ => first.subset) fun x => first.opens) hqs)

end Piece

namespace Matcher
variable {m : Matcher} {ps : List Piece}

theorem usablePieces_eq_ok_iff : m.usablePieces = .ok ps ↔ m.pieces? = some ps ∧
    Piece.depths ps < Regex.nestLimit ∧
      firstRepeated? [] ((Piece.groupsOf ps).map Piece.bindingName) = none := by
  unfold usablePieces
  cases m.pieces? with
  | none => simp
  | some qs =>
    by_cases deep : Regex.nestLimit ≤ Piece.depths qs
    · simp only [deep, if_true]
      constructor
      · intro h
        cases h
      · rintro ⟨e, shallow, -⟩
        cases e
        omega
    · simp only [deep, if_false]
      constructor
      · intro h
        cases repeated : firstRepeated? [] ((Piece.groupsOf qs).map Piece.bindingName) with
        | none =>
          rw [repeated] at h
          cases h
          exact ⟨rfl, Nat.lt_of_not_le deep, repeated⟩
        | some x => simp [repeated] at h
      · rintro ⟨e, -, distinct⟩
        cases e
        rw [distinct]

theorem usablePieces_eq_ok (h : m.usablePieces = .ok ps) : m.pieces? = some ps ∧
    firstRepeated? [] ((Piece.groupsOf ps).map Piece.bindingName) = none := by
  obtain ⟨written, -, distinct⟩ := usablePieces_eq_ok_iff.1 h
  exact ⟨written, distinct⟩

/-- The reasons for which the pieces cannot be used. -/
theorem usablePieces_eq_error {e : PatternError} (h : m.usablePieces = .error e) :
    e = .endless ∨ e = .tooDeep m.pattern.text ∨ ∃ name, e = .duplicateBinding name := by
  unfold usablePieces at h
  cases pieces : m.pieces? with
  | none =>
    rw [pieces] at h
    cases h
    exact .inl rfl
  | some ps =>
    rw [pieces] at h
    by_cases deep : Regex.nestLimit ≤ Piece.depths ps
    · simp only [deep, if_true] at h
      cases h
      exact .inr (.inl rfl)
    · simp only [deep, if_false] at h
      cases repeated : firstRepeated? [] ((Piece.groupsOf ps).map Piece.bindingName) with
      | none =>
        rw [repeated] at h
        cases h
      | some name =>
        rw [repeated] at h
        cases h
        exact .inr (.inr ⟨name, rfl⟩)

/-- The pieces of a matcher are its root and a translation of its nodes. -/
theorem translatesAll_of_pieces? (hp : m.pattern.WellFormed) (he : m.env.WellFormed)
    (h : m.pieces? = some ps) : ∃ root qs o', m.pattern.rootText (.of m.env) = some root ∧
      ps = .text root :: qs ∧ Piece.TranslatesAll m.env [] m.pattern.nodes qs o' := by
  obtain ⟨root, hr, h⟩ := Option.bind_eq_some_iff.1 h
  obtain ⟨⟨qs, o'⟩, hq, h⟩ := Option.bind_eq_some_iff.1 h
  cases h
  have start : Piece.Entered m.env [] [] [] m.pattern.nodes :=
    ⟨nofun, nofun, hp.flagged, hp.named, fun _ => nofun⟩
  exact ⟨root, qs, o', hr, rfl, Piece.translatesAll_of_ofNodes he hq start⟩

theorem translatesAll_of_usablePieces (hp : m.pattern.WellFormed) (he : m.env.WellFormed)
    (h : m.usablePieces = .ok ps) : ∃ root qs o', m.pattern.rootText (.of m.env) = some root ∧
      ps = .text root :: qs ∧ Piece.TranslatesAll m.env [] m.pattern.nodes qs o' :=
  translatesAll_of_pieces? hp he (usablePieces_eq_ok h).1

end Matcher

end LocalePaths
