import LocalePaths.Proofs.Piece.Flat

/-!
# Wildcards that share a group

A wildcard whose number has been met before is read without a group, so that several texts may have
one value. The nodes that are met in the translation of nodes all have open groups in the end
(`TranslatesAll.opened_of_meets`), and the value of a wildcard is a text of one of the wildcards with
its number (`filledAll_of_reads`). If it is a text of all of them, the values generate a text again,
which may differ from the one that has been read (`Environment.GeneratesAll.retext`).
-/

namespace LocalePaths

open Piece Relation

namespace Environment
variable {env : Environment} {ns ms : List Node} {n k : Node} {x : Text}

/-- The node is one of the nodes, or one of those that a variable met before stands for. -/
inductive Meets (env : Environment) (ns : List Node) : Node → Prop
  | here {n : Node} : n ∈ ns → Meets env ns n
  | through {n k : Node} {x : Text} {ms : List Node} : Meets env ns n → n.variableName = some x →
    env.Resolves x (some ms) → k ∈ ms → Meets env ns k

/-! ### Texts from values -/

end Environment

/-- The text of a node where wildcards have the texts `w` and variables the texts `r`. -/
def Node.textWith (w : Nat → Text) (r : Text → Text) : Node → Text
  | .literal t => t
  | .star id | .starstar id _ => w id
  | .variable x _ => r x
  | .android _ => r androidLocale

theorem Node.textWith_variable {n : Node} {x : Text} (hx : n.variableName = some x) (w : Nat → Text)
    (r : Text → Text) : n.textWith w r = r x := by
  rcases Node.variableName_eq_some.1 hx with ⟨_, rfl⟩ | ⟨rfl, _, rfl⟩ <;> rfl

theorem Node.textWith_wildcard {n : Node} {id : Nat} (hn : n.wildcardId = some id) (w : Nat → Text)
    (r : Text → Text) : n.textWith w r = w id := by
  cases n with
  | star | starstar => cases hn; rfl
  | _ => cases hn

theorem Node.textWith_congr {n : Node} {w : Nat → Text} {r s : Text → Text}
    (h : ∀ x, n.variableName = some x → r x = s x) : n.textWith w r = n.textWith w s := by
  cases n with
  | «variable» | android => exact h _ rfl
  | _ => rfl

namespace Environment
variable {env : Environment} {r : Text → Text} {w : Nat → Text} {W W' : Node → Text → Prop}
  {ns ms : List Node} {x : Text}

/-- The variable `x` occurs in what `y` stands for, and `y` does not lead back to itself. -/
def Within (env : Environment) (x y : Text) : Prop := env.OccursIn x y ∧ Acc env.OccursIn y

theorem within_wellFounded (env : Environment) : WellFounded env.Within :=
  ⟨fun y => ⟨y, fun _ hx => Subrelation.accessible (fun h => h.1) (hx.2.inv hx.1)⟩⟩

open Classical in
/-- The texts of variables that follow from the texts `w` of wildcards and from the texts `value` of
variables without a value. -/
noncomputable def texts (env : Environment) (w : Nat → Text) (value : Text → Text) : Text → Text :=
  env.within_wellFounded.fix fun y texts =>
    if h : ∃ ns, env.Resolves y (some ns) then
      h.choose.flatMap (Node.textWith w fun x => if hx : env.Within x y then texts x hx else [])
    else value y

theorem texts_free {value : Text → Text} (hx : env.Resolves x none) : env.texts w value x = value x := by
  rw [texts, WellFounded.fix_eq]
  refine dif_neg ?_
  rintro ⟨ns, h⟩
  cases hx.unique h

theorem texts_bound {value : Text → Text} (hx : env.Resolves x (some ns))
    (acc : Acc env.OccursIn x) :
    env.texts w value x = ns.flatMap (Node.textWith w (env.texts w value)) := by
  have some_nodes : ∃ ns, env.Resolves x (some ns) := ⟨ns, hx⟩
  have chosen : some_nodes.choose = ns := Option.some.inj (some_nodes.choose_spec.unique hx)
  rw [texts, WellFounded.fix_eq]
  refine (dif_pos some_nodes).trans ?_
  rw [chosen]
  refine List.flatMap_congr fun n hn => Node.textWith_congr fun y hy => ?_
  exact dif_pos ⟨⟨ns, n, hx, hn, hy⟩, acc⟩

mutual

/-- Where a node generates a text, it also generates one from other texts of wildcards and of variables
without a value. -/
theorem Generates.retext {value : Text → Text}
    (wild : ∀ n id, env.Meets ms n → n.wildcardId = some id → W' n (w id))
    (free : ∀ x, env.Resolves x none → InLine (r x) → InLine (value x)) :
    ∀ {n : Node} {t : Text}, env.Generates r W n t → env.Meets ms n →
      env.Generates (env.texts w value) W' n (n.textWith w (env.texts w value))
  | _, _, .literal, _ => .literal
  | n, _, .wildcard hi _, hn => .wildcard hi (Node.textWith_wildcard hi w _ ▸ wild n _ hn hi)
  | n, _, .free hx hf hr, _ => by
    rw [Node.textWith_variable hx]
    exact .free hx hf (texts_free hf ▸ free _ hf hr)
  | n, _, .bound (x := x) hx hb h, hn => by
    have inner := h.retext wild free fun k hk => .through hn hx hb hk
    rw [Node.textWith_variable hx]
    exact .bound hx hb (texts_bound hb ((Generates.bound hx hb h).acc x hx) ▸ inner)

theorem GeneratesAll.retext {value : Text → Text}
    (wild : ∀ n id, env.Meets ms n → n.wildcardId = some id → W' n (w id))
    (free : ∀ x, env.Resolves x none → InLine (r x) → InLine (value x)) :
    ∀ {ns : List Node} {t : Text}, env.GeneratesAll r W ns t → (∀ n ∈ ns, env.Meets ms n) →
      env.GeneratesAll (env.texts w value) W' ns (ns.flatMap (Node.textWith w (env.texts w value)))
  | _, _, .nil, _ => .nil
  | _, _, .cons h hs, hn =>
    .cons (h.retext wild free (List.forall_mem_cons.1 hn).1)
      (hs.retext wild free (List.forall_mem_cons.1 hn).2)

end

end Environment

namespace Piece
variable {env : Environment} {o o' : List Text} {n : Node} {p : Piece} {ns ms : List Node}
  {ps : List Piece} {cs cs' : Captures} {u x g : Text}

/-! ### Groups of the nodes that are met -/

/-- The group of the variable or wildcard is open. -/
def Opened (o : List Text) (n : Node) : Prop :=
  (∀ x, n.variableName = some x → groupName x ∈ o) ∧ ∀ id, n.wildcardId = some id → starName id ∈ o

theorem Translates.opened (h : Translates env o n p o') : Opened o' n :=
  ⟨fun _ => h.opens, fun _ => h.opens_wildcard⟩

theorem TranslatesAll.opened (h : TranslatesAll env o ns ps o') : ∀ n ∈ ns, Opened o' n := by
  intro n hn
  obtain ⟨_, _, _, translated, sub⟩ := h.exists_translates hn
  exact ⟨fun x hx => sub _ (translated.opened.1 x hx), fun id hi => sub _ (translated.opened.2 id hi)⟩

mutual

/-- Where the group of a variable is opened, the nodes that it stands for are translated. -/
theorem Translates.opened_inside (hx : env.Resolves x (some ms)) : ∀ {o n p o'},
    Translates env o n p o' → groupName x ∉ o → groupName x ∈ o' → ∀ k ∈ ms, Opened o' k
  | _, _, _, _, .literal, fresh, ho | _, _, _, _, .again .., fresh, ho => absurd ho fresh
  | _, _, _, _, @Translates.star _ _ id, fresh, ho | _, _, _, _, @Translates.starstar _ _ id _, fresh, ho =>
    absurd ((mem_openOnce.1 ho).resolve_left fun hg => groupName_ne_starName x id (openOnce_eq hg)) fresh
  | _, _, _, _, .free _ _ hf, fresh, ho => by
    obtain rfl := groupName_injective ((List.mem_cons.1 ho).resolve_right fresh)
    cases hf.unique hx
  | _, _, _, _, .bound (x := y) _ _ hb h, fresh, ho => by
    by_cases e : x = y
    · subst e
      cases hb.unique hx
      exact h.opened
    · refine h.opened_inside hx (fun hx => ?_) ho
      exact (List.mem_cons.1 hx).elim (fun h => e (groupName_injective h)) fresh

theorem TranslatesAll.opened_inside (hx : env.Resolves x (some ms)) : ∀ {o ns ps o'},
    TranslatesAll env o ns ps o' → groupName x ∉ o → groupName x ∈ o' → ∀ k ∈ ms, Opened o' k
  | _, _, _, _, .nil, fresh, ho => absurd ho fresh
  | _, _, _, _, @TranslatesAll.cons _ _ mid _ _ _ _ _ h hs, fresh, ho => by
    by_cases opened : groupName x ∈ mid
    · intro k hk
      obtain ⟨named, numbered⟩ := h.opened_inside hx fresh opened k hk
      exact ⟨fun y hy => hs.subset (named y hy), fun id hi => hs.subset (numbered id hi)⟩
    · exact hs.opened_inside hx opened ho

end

/-- All nodes that are met have open groups in the end. -/
theorem TranslatesAll.opened_of_meets (h : TranslatesAll env [] ns ps o') (hn : env.Meets ns n) :
    Opened o' n := by
  induction hn with
  | here hn => exact h.opened _ hn
  | through _ hx hv hk ih => exact h.opened_inside hv List.not_mem_nil (ih.1 _ hx) _ hk

/-! ### Values of wildcards -/

/-- The values of the open groups of wildcards are texts that `S` allows. -/
def Filled (S : Nat → Text → Prop) (o : List Text) (cs : Captures) : Prop :=
  ∀ id, starName id ∈ o → S id ((cs.get? (starName id)).getD [])

section
variable {S : Nat → Text → Prop} {id : Nat}

theorem Reads.unset (hr : p.Reads cs u cs') (h : Translates env o n p o')
    (unset : ∀ g, g ∉ o → cs.get? g = none) : ∀ g, g ∉ o' → cs'.get? g = none := by
  intro g hg
  obtain ⟨inner, outer⟩ := not_or.1 (mt h.mem_iff.2 hg)
  rw [hr.get?_eq inner, unset g outer]

theorem Filled.named (h : Filled S o cs) (same : ∀ id, cs'.get? (starName id) = cs.get? (starName id)) :
    Filled S (groupName x :: o) cs' := by
  intro id hi
  rw [same]
  exact h id ((List.mem_cons.1 hi).resolve_left (groupName_ne_starName x id).symm)

theorem Filled.star (h : Filled S o cs) (hu : S id u) :
    Filled S (openOnce o (starName id)).2 (cs.record (openOnce o (starName id)).1 u) := by
  unfold openOnce
  split
  · exact h
  · intro k hk
    by_cases e : k = id
    · rw [e, Captures.get?_record_self]
      exact hu
    · have other : starName k ≠ starName id := fun h => e (starName_injective h)
      rw [Captures.get?_record_of_ne fun h => other (Option.some.inj h)]
      exact h k ((List.mem_cons.1 hk).resolve_left other)

theorem Filled.skipped (h : Filled S o cs) (unset : ∀ g, g ∉ o → cs.get? g = none) (hs : S id []) :
    Filled S (openOnce o (starName id)).2 cs := by
  intro k hk
  by_cases ho : starName k ∈ o
  · exact h k ho
  · obtain rfl := starName_injective (openOnce_eq ((mem_openOnce.1 hk).resolve_right ho))
    rwa [unset _ ho]

mutual

/-- The value of a wildcard is a text of one of the wildcards with its number. -/
theorem filled_of_reads (spans : ∀ n id t, env.Meets ms n → n.wildcardId = some id → n.Spans t → S id t) :
    ∀ {n o p o' cs u cs'}, Translates env o n p o' → env.Meets ms n → p.Reads cs u cs' →
      (∀ g, g ∉ o → cs.get? g = none) → Filled S o cs → Filled S o' cs'
  | _, _, _, _, _, _, _, .literal, _, hr, _, hs | _, _, _, _, _, _, _, .again .., _, hr, _, hs => by
    rw [hr.2]
    exact hs
  | _, _, _, _, _, _, _, .star, hn, hr, _, hs => by
    obtain ⟨hu, rfl⟩ := hr
    exact hs.star (spans _ _ _ hn rfl hu)
  | _, _, _, _, _, _, _, .starstar, hn, hr, unset, hs => by
    rcases hr with ⟨-, rfl⟩ | ⟨hu, rfl⟩
    · exact hs.skipped unset (spans _ _ _ hn rfl (.inl rfl))
    · exact hs.star (spans _ _ _ hn rfl (.inr hu))
  | _, _, _, _, _, _, _, .free (x := x) .., _, hr, _, hs => by
    rw [hr.2]
    exact hs.named fun id => Captures.get?_record_of_ne fun e =>
      groupName_ne_starName x id (Option.some.inj e).symm
  | _, _, _, _, _, _, _, .bound (x := x) hx _ hb h, hn, hr, unset, hs => by
    obtain ⟨inner, hr, rfl⟩ := hr
    have apart (id : Nat) : starName id ≠ groupName x := (groupName_ne_starName x id).symm
    have inside := filledAll_of_reads spans h (fun k hk => .through hn hx hb hk) hr
      (fun g hg => ?_) (hs.named fun id => Captures.get?_forget_of_ne (apart id))
    · intro id hi
      rw [Captures.get?_cons, if_neg (groupName_ne_starName x id)]
      exact inside id hi
    · obtain ⟨other, outer⟩ := not_or.1 (mt List.mem_cons.2 hg)
      rw [Captures.get?_forget_of_ne other, unset g outer]

theorem filledAll_of_reads
    (spans : ∀ n id t, env.Meets ms n → n.wildcardId = some id → n.Spans t → S id t) :
    ∀ {ns o ps o' cs u cs'}, TranslatesAll env o ns ps o' → (∀ n ∈ ns, env.Meets ms n) →
      ReadsAll ps cs u cs' → (∀ g, g ∉ o → cs.get? g = none) → Filled S o cs → Filled S o' cs'
  | _, _, _, _, _, _, _, .nil, _, hr, _, hs => by
    rw [hr.2]
    exact hs
  | _, _, _, _, _, _, _, .cons h hs, hn, hr, unset, filled => by
    obtain ⟨a, b, between, -, hp, hps⟩ := hr
    have hn := List.forall_mem_cons.1 hn
    exact filledAll_of_reads spans hs hn.2 hps (hp.unset h unset)
      (filled_of_reads spans h hn.1 hp unset filled)

end

end

end Piece

end LocalePaths
