import LocalePaths.Proofs.Piece.Translation

/-!
# What nodes generate

`Environment.Generates` gives the texts of a node, where every variable has one text: it is generated
in turn by what the variable stands for. Reading the pieces of nodes is generating their text
(`generatesAll_of_reads`, `readsAll_of_generates`).

A reading fixes the text of a variable where its group is captured, and everything captured so far has
been generated (`Known`). Conversely, generated texts are captured by the groups that are closed
(`Captured`); a group that is still open is not referred to, because what a variable stands for does
not lead back to it (`Generates.acc`).
-/

namespace LocalePaths

open Piece Relation

/-- The texts of a wildcard: `*` stays within a segment, `**` is nothing or text on one line and the
ending. -/
def Node.Spans : Node → Text → Prop
  | .star _, t => '/' ∉ t
  | .starstar _ ending, t => t = [] ∨ ∃ v, InLine v ∧ t = v ++ ending
  | _, _ => False

namespace Environment
variable {env : Environment} {r : Text → Text} {W : Node → Text → Prop} {n : Node} {ms ns : List Node}
  {x t u : Text}

mutual

/-- The node generates the text, where the variables have the texts `r` and the wildcards texts that
`W` allows. -/
inductive Generates (env : Environment) (r : Text → Text) (W : Node → Text → Prop) :
    Node → Text → Prop
  | literal {t : Text} : Generates env r W (.literal t) t
  | wildcard {n : Node} {id : Nat} {t : Text} : n.wildcardId = some id → W n t → Generates env r W n t
  | free {n : Node} {x : Text} : n.variableName = some x → env.Resolves x none → InLine (r x) →
    Generates env r W n (r x)
  | bound {n : Node} {x : Text} {ns : List Node} : n.variableName = some x →
    env.Resolves x (some ns) → GeneratesAll env r W ns (r x) → Generates env r W n (r x)

inductive GeneratesAll (env : Environment) (r : Text → Text) (W : Node → Text → Prop) :
    List Node → Text → Prop
  | nil : GeneratesAll env r W [] []
  | cons {n : Node} {ns : List Node} {a b : Text} : Generates env r W n a →
    GeneratesAll env r W ns b → GeneratesAll env r W (n :: ns) (a ++ b)

end

theorem wildcardId_of_variableName (hn : n.variableName = some x) : n.wildcardId = none := by
  cases n with
  | star | starstar => cases hn
  | _ => rfl

theorem generates_variable (hn : n.variableName = some x) : env.Generates r W n t ↔
    t = r x ∧ (env.Resolves x none ∧ InLine (r x) ∨
      ∃ ns, env.Resolves x (some ns) ∧ env.GeneratesAll r W ns (r x)) := by
  constructor
  · intro h
    cases h with
    | literal => cases hn
    | wildcard hi => cases (wildcardId_of_variableName hn).symm.trans hi
    | free hy hf hr =>
      cases hn.symm.trans hy
      exact ⟨rfl, .inl ⟨hf, hr⟩⟩
    | bound hy hb hr =>
      cases hn.symm.trans hy
      exact ⟨rfl, .inr ⟨_, hb, hr⟩⟩
  · rintro ⟨rfl, ⟨hf, hr⟩ | ⟨ns, hb, hr⟩⟩
    · exact .free hn hf hr
    · exact .bound hn hb hr

theorem generates_wildcard {id : Nat} (hn : n.wildcardId = some id) :
    env.Generates r W n t ↔ W n t := by
  refine ⟨fun h => ?_, .wildcard hn⟩
  cases h with
  | literal => cases hn
  | wildcard _ ht => exact ht
  | free hx | bound hx => cases (wildcardId_of_variableName hx).symm.trans hn

theorem generatesAll_nil : env.GeneratesAll r W [] t ↔ t = [] := by
  constructor
  · intro h
    cases h
    rfl
  · rintro rfl
    exact .nil

theorem generatesAll_cons : env.GeneratesAll r W (n :: ns) t ↔
    ∃ a b, t = a ++ b ∧ env.Generates r W n a ∧ env.GeneratesAll r W ns b := by
  constructor
  · intro h
    cases h with
    | cons hn hns => exact ⟨_, _, rfl, hn, hns⟩
  · rintro ⟨a, b, rfl, hn, hns⟩
    exact .cons hn hns

theorem generatesAll_append : env.GeneratesAll r W (ms ++ ns) t ↔
    ∃ a b, t = a ++ b ∧ env.GeneratesAll r W ms a ∧ env.GeneratesAll r W ns b := by
  induction ms generalizing t with
  | nil => simp [generatesAll_nil]
  | cons m ms ih =>
    simp only [List.cons_append, generatesAll_cons, ih]
    constructor
    · rintro ⟨a, _, rfl, hm, b, c, rfl, hms, hns⟩
      exact ⟨a ++ b, c, (List.append_assoc a b c).symm, ⟨a, b, rfl, hm, hms⟩, hns⟩
    · rintro ⟨_, c, rfl, ⟨a, b, rfl, hm, hms⟩, hns⟩
      exact ⟨a, b ++ c, List.append_assoc a b c, hm, b, c, rfl, hms, hns⟩

theorem generates_literal : env.Generates r W (.literal u) t ↔ t = u := by
  constructor
  · intro h
    cases h with
    | literal => rfl
    | wildcard hn | free hn | bound hn => cases hn
  · rintro rfl
    exact .literal

mutual

theorem Generates.mono {W' : Node → Text → Prop} (wild : ∀ n t, W n t → W' n t) :
    ∀ {n : Node} {t : Text}, env.Generates r W n t → env.Generates r W' n t
  | _, _, .literal => .literal
  | _, _, .wildcard hn hw => .wildcard hn (wild _ _ hw)
  | _, _, .free hx hf hr => .free hx hf hr
  | _, _, .bound hx hb h => .bound hx hb (h.mono wild)

theorem GeneratesAll.mono {W' : Node → Text → Prop} (wild : ∀ n t, W n t → W' n t) :
    ∀ {ns : List Node} {t : Text}, env.GeneratesAll r W ns t → env.GeneratesAll r W' ns t
  | _, _, .nil => .nil
  | _, _, .cons h hs => .cons (h.mono wild) (hs.mono wild)

end

/-- The variable `x` occurs in what `y` stands for. -/
def OccursIn (env : Environment) (x y : Text) : Prop :=
  ∃ ns n, env.Resolves y (some ns) ∧ n ∈ ns ∧ n.variableName = some x

theorem acc_of_free (hf : env.Resolves x none) : Acc env.OccursIn x := by
  refine ⟨_, fun y occurs => ?_⟩
  obtain ⟨ns, _, hb, _⟩ := occurs
  cases hf.unique hb

/-- A variable does not lead back to itself if no variable of what it stands for does. -/
theorem acc_of_bound (hb : env.Resolves x (some ns))
    (h : ∀ n ∈ ns, ∀ y, n.variableName = some y → Acc env.OccursIn y) : Acc env.OccursIn x := by
  refine ⟨_, fun y occurs => ?_⟩
  obtain ⟨ns', m, hb', hm, hy⟩ := occurs
  cases hb.unique hb'
  exact h m hm y hy

mutual

/-- What a variable with a text stands for does not lead back to the variable. -/
theorem Generates.acc : ∀ {n : Node} {t : Text}, env.Generates r W n t →
    ∀ x, n.variableName = some x → Acc env.OccursIn x
  | _, _, .literal, _, hx => nomatch hx
  | _, _, .wildcard hn _, _, hx => nomatch (wildcardId_of_variableName hx).symm.trans hn
  | _, _, .free hn hf _, _, hx => by
    cases hx.symm.trans hn
    exact acc_of_free hf
  | _, _, .bound hn hb h, _, hx => by
    have inner := h.acc
    cases hx.symm.trans hn
    exact acc_of_bound hb inner

theorem GeneratesAll.acc : ∀ {ns : List Node} {t : Text}, env.GeneratesAll r W ns t →
    ∀ n ∈ ns, ∀ x, n.variableName = some x → Acc env.OccursIn x
  | _, _, .nil => nofun
  | _, _, .cons h hs => List.forall_mem_cons.2 ⟨h.acc, hs.acc⟩

end

theorem not_transGen_of_acc (h : Acc env.OccursIn x) : ¬TransGen env.OccursIn x x := by
  replace h := h.transGen
  induction h with
  | intro x _ ih => exact fun hx => ih x hx hx

end Environment

namespace Piece
variable {env : Environment} {r : Text → Text} {W : Node → Text → Prop} {n : Node} {ns : List Node}
  {p : Piece} {ps : List Piece} {o o' opening : List Text} {cs cs' : Captures} {u x : Text} {id : Nat}

theorem groupName_ne_openOnce (x : Text) (id : Nat) :
    some (groupName x) ≠ (openOnce o (starName id)).1 := fun h =>
  groupName_ne_starName x id (openOnce_eq (Option.mem_toList.2 h.symm))

/-! ### What is read is generated -/

mutual

/-- The wildcards of the piece have groups. -/
def Grouped : Piece → Prop
  | star group | starstar group _ => group.isSome
  | bound _ body => GroupedAll body
  | text _ | free _ | again _ => True

def GroupedAll : List Piece → Prop
  | [] => True
  | p :: ps => p.Grouped ∧ GroupedAll ps

end

/-- What has been captured for a variable has been generated, and only open groups are captured. -/
structure Known (env : Environment) (r : Text → Text) (W : Node → Text → Prop) (o : List Text)
    (cs : Captures) : Prop where
  generated : ∀ n x t, n.variableName = some x → cs.get? (groupName x) = some t →
    env.Generates r W n (r x)
  opened : ∀ g, g ∉ o → cs.get? g = none

/-- The captures of the open groups are the texts `r` of variables and `w` of wildcards. -/
structure Agrees (r : Text → Text) (w : Nat → Option Text) (o : List Text) (cs : Captures) : Prop where
  bindings : ∀ x t, groupName x ∈ o → cs.get? (groupName x) = some t → t = r x
  wildcards : ∀ id, starName id ∈ o → w id = some ((cs.get? (starName id)).getD [])

theorem known_nil : Known env r W [] [] := ⟨fun _ _ _ _ h => (nomatch h), fun _ _ => rfl⟩

theorem Known.skipped (h : Known env r W o cs) : Known env r W (openOnce o (starName id)).2 cs :=
  ⟨h.generated, fun g hg => h.opened g fun ho => hg (mem_openOnce.2 (.inr ho))⟩

theorem Known.star (h : Known env r W o cs) :
    Known env r W (openOnce o (starName id)).2 (cs.record (openOnce o (starName id)).1 u) where
  generated n x t hn ht :=
    h.generated n x t hn (by rwa [Captures.get?_record_of_ne (groupName_ne_openOnce x id)] at ht)
  opened g hg := by
    have fresh : some g ≠ (openOnce o (starName id)).1 :=
      fun e => hg (mem_openOnce.2 (.inl (Option.mem_toList.2 e.symm)))
    rw [Captures.get?_record_of_ne fresh]
    exact h.skipped.opened g hg

theorem Known.forget {g : Text} (h : Known env r W o cs) : Known env r W (g :: o) (cs.forget g) where
  generated n x t hn ht := by
    by_cases e : groupName x = g
    · rw [e, Captures.get?_forget_self] at ht
      cases ht
    · rw [Captures.get?_forget_of_ne e] at ht
      exact h.generated n x t hn ht
  opened k hk := by
    have hk := not_or.1 (mt List.mem_cons.2 hk)
    rw [Captures.get?_forget_of_ne hk.1]
    exact h.opened k hk.2

theorem Known.capture (h : Known env r W o cs) (hx : groupName x ∈ o)
    (generates : ∀ n, n.variableName = some x → env.Generates r W n (r x)) :
    Known env r W o ((groupName x, u) :: cs) where
  generated n y t hn ht := by
    by_cases e : x = y
    · exact e ▸ generates n (e ▸ hn)
    · rw [Captures.get?_cons, if_neg fun h => e (groupName_injective h)] at ht
      exact h.generated n y t hn ht
  opened g hg := by
    rw [Captures.get?_cons, if_neg fun (e : groupName x = g) => hg (e ▸ hx)]
    exact h.opened g hg

theorem agrees_captures : Agrees (fun x => (cs.get? (groupName x)).getD [])
    (fun id => some ((cs.get? (starName id)).getD [])) o cs :=
  ⟨fun x t _ hx => by rw [hx, Option.getD_some], fun _ _ => rfl⟩

theorem Agrees.before {w : Nat → Option Text} (ha : Agrees r w o' cs')
    (h : TranslatesAll env o ns ps o') (hr : ReadsAll ps cs u cs') : Agrees r w o cs where
  bindings x t hx ht :=
    ha.bindings x t (h.subset hx) (by rwa [hr.get?_eq fun hg => h.fresh hg hx])
  wildcards id hi := by
    rw [ha.wildcards id (h.subset hi), hr.get?_eq fun hg => h.fresh hg hi]

theorem Agrees.inside {w : Nat → Option Text} (h : Agrees r w o ((groupName x, u) :: cs))
    (unset : cs.get? (groupName x) = none) : Agrees r w o cs where
  bindings y t hy ht := by
    have other : groupName x ≠ groupName y := fun e => by rw [← e, unset] at ht; cases ht
    exact h.bindings y t hy (by rwa [Captures.get?_cons, if_neg other])
  wildcards id hi := by
    rw [h.wildcards id hi, Captures.get?_cons, if_neg (groupName_ne_starName x id)]

theorem openOnce_of_isSome {g : Text} (h : (openOnce o g).1.isSome) :
    (openOnce o g).1 = some g ∧ g ∉ o ∧ g ∈ (openOnce o g).2 := by
  obtain ⟨k, hk⟩ := Option.isSome_iff_exists.1 h
  have mem : k ∈ (openOnce o g).1.toList := by simp [hk]
  obtain rfl := openOnce_eq mem
  exact ⟨hk, openOnce_fresh mem, mem_openOnce.2 (.inl mem)⟩

theorem Agrees.star {w : Nat → Option Text}
    (h : Agrees r w (openOnce o (starName id)).2 (cs.record (openOnce o (starName id)).1 u))
    (hg : (openOnce o (starName id)).1.isSome) : w id = some u := by
  obtain ⟨e, -, ho⟩ := openOnce_of_isSome hg
  rw [h.wildcards id ho, e, Captures.get?_record_self, Option.getD_some]

theorem Agrees.skipped {w : Nat → Option Text} (h : Agrees r w (openOnce o (starName id)).2 cs)
    (hk : Known env r W o cs) (hg : (openOnce o (starName id)).1.isSome) : w id = some [] := by
  obtain ⟨-, fresh, ho⟩ := openOnce_of_isSome hg
  rw [h.wildcards id ho, hk.opened _ fresh, Option.getD_none]

/-- `W` allows every text of a wildcard, or only the text `w` of the wildcard if this is `fixed`. -/
def Allows (fixed : Prop) (w : Nat → Option Text) (W : Node → Text → Prop) : Prop :=
  ∀ n id t, n.wildcardId = some id → n.Spans t → (fixed → w id = some t) → W n t

section
variable {w : Nat → Option Text} {fixed : Prop}

mutual

/-- A piece reads what its node generates; if all wildcards have groups, these have captured their
texts in the end. -/
theorem generates_of_reads (wild : Allows fixed w W) : ∀ {n : Node} {p : Piece} {o o' : List Text}
    {cs cs' : Captures} {u : Text}, Translates env o n p o' → (fixed → p.Grouped) → p.Reads cs u cs' →
      Known env r W o cs → Agrees r w o' cs' → env.Generates r W n u ∧ Known env r W o' cs'
  | _, _, _, _, _, _, _, .literal, _, hr, hk, _ => by
    obtain ⟨rfl, rfl⟩ := hr
    exact ⟨.literal, hk⟩
  | _, _, _, _, _, _, _, .star, hf, hr, hk, ha => by
    obtain ⟨hu, rfl⟩ := hr
    exact ⟨.wildcard rfl (wild _ _ _ rfl hu fun h => ha.star (hf h)), hk.star⟩
  | _, _, _, _, _, _, _, .starstar, hf, hr, hk, ha => by
    rcases hr with ⟨rfl, rfl⟩ | ⟨hu, rfl⟩
    · exact ⟨.wildcard rfl (wild _ _ _ rfl (.inl rfl) fun h => ha.skipped hk (hf h)), hk.skipped⟩
    · exact ⟨.wildcard rfl (wild _ _ _ rfl (.inr hu) fun h => ha.star (hf h)), hk.star⟩
  | n, _, _, _, cs, _, u, .again (x := x) hn ho, _, hr, hk, ha => by
    obtain ⟨hu, rfl⟩ := hr
    cases ha.bindings x u ho hu
    exact ⟨hk.generated n x _ hn hu, hk⟩
  | n, _, _, _, cs, _, u, .free (x := x) hn ho hv, _, hr, hk, ha => by
    obtain ⟨hu, rfl⟩ := hr
    cases ha.bindings x u List.mem_cons_self Captures.get?_record_self
    exact ⟨.free hn hv hu, hk.forget.capture List.mem_cons_self fun m hm => .free hm hv hu⟩
  | n, _, _, _, cs, _, u, .bound (x := x) hn ho hb h, hf, hr, hk, ha => by
    obtain ⟨inner, hr, rfl⟩ := hr
    have hx := h.subset List.mem_cons_self
    have captured : u = r x := ha.bindings x u hx (by rw [Captures.get?_cons, if_pos rfl])
    -- the body opens other groups only, so the captures inside agree as well
    have unset : inner.get? (groupName x) = none := by
      rw [hr.get?_eq fun hg => h.fresh hg List.mem_cons_self, Captures.get?_forget_self]
    obtain ⟨hu, hk'⟩ := generatesAll_of_reads wild h hf hr hk.forget (ha.inside unset)
    cases captured
    exact ⟨.bound hn hb hu, hk'.capture hx fun m hm => .bound hm hb hu⟩

theorem generatesAll_of_reads (wild : Allows fixed w W) : ∀ {ns : List Node} {ps : List Piece}
    {o o' : List Text} {cs cs' : Captures} {u : Text}, TranslatesAll env o ns ps o' →
      (fixed → GroupedAll ps) → ReadsAll ps cs u cs' → Known env r W o cs → Agrees r w o' cs' →
        env.GeneratesAll r W ns u ∧ Known env r W o' cs'
  | _, _, _, _, _, _, _, .nil, _, hr, hk, _ => by
    obtain ⟨rfl, rfl⟩ := hr
    exact ⟨.nil, hk⟩
  | _, _, _, _, _, _, _, .cons h hs, hf, hr, hk, ha => by
    obtain ⟨a, b, between, rfl, hp, hps⟩ := hr
    obtain ⟨hn, hk'⟩ := generates_of_reads wild h (fun e => (hf e).1) hp hk (ha.before hs hps)
    obtain ⟨hns, hk''⟩ := generatesAll_of_reads wild hs (fun e => (hf e).2) hps hk' ha
    exact ⟨.cons hn hns, hk''⟩

end

end

/-! ### What is generated is read -/

/-- The groups of variables that have been opened and closed have captured the texts `r`. -/
def Captured (r : Text → Text) (o opening : List Text) (cs : Captures) : Prop :=
  ∀ x, groupName x ∈ o → x ∉ opening → cs.get? (groupName x) = some (r x)

theorem Captured.skipped (h : Captured r o opening cs) :
    Captured r (openOnce o (starName id)).2 opening cs := fun x hx hop =>
  h x ((mem_openOnce.1 hx).resolve_left fun hg => groupName_ne_starName x id (openOnce_eq hg)) hop

theorem Captured.star (h : Captured r o opening cs) :
    Captured r (openOnce o (starName id)).2 opening (cs.record (openOnce o (starName id)).1 u) :=
  fun x hx hop => by
    rw [Captures.get?_record_of_ne (groupName_ne_openOnce x id)]
    exact h.skipped x hx hop

theorem reach_opening (h : ∀ y ∈ opening, ∀ x, n.variableName = some x → TransGen env.OccursIn x y)
    (hn : n.variableName = some x) : ∀ y ∈ x :: opening, ReflTransGen env.OccursIn x y :=
  List.forall_mem_cons.2 ⟨.refl, fun y hy => (h y hy x hn).to_reflTransGen⟩

mutual

theorem reads_of_generates : ∀ {n : Node} {p : Piece} {o o' : List Text} {opening : List Text}
    {cs : Captures} {u : Text}, Translates env o n p o' → env.Generates r Node.Spans n u →
      (∀ y ∈ opening, ∀ x, n.variableName = some x → TransGen env.OccursIn x y) →
        Captured r o opening cs → ∃ cs', p.Reads cs u cs' ∧ Captured r o' opening cs'
  | _, _, _, _, _, cs, _, .literal, hg, _, hc => by
    cases hg with
    | literal => exact ⟨cs, ⟨rfl, rfl⟩, hc⟩
    | wildcard hn | free hn | bound hn => cases hn
  | _, _, _, _, _, _, _, .star, hg, _, hc =>
    ⟨_, ⟨(Environment.generates_wildcard rfl).1 hg, rfl⟩, hc.star⟩
  | _, _, _, _, _, cs, _, .starstar, hg, _, hc => by
    rcases (Environment.generates_wildcard rfl).1 hg with rfl | hu
    · exact ⟨cs, .inl ⟨rfl, rfl⟩, hc.skipped⟩
    · exact ⟨_, .inr ⟨hu, rfl⟩, hc.star⟩
  | _, _, _, _, _, cs, _, .again (x := x) hn ho, hg, hop, hc => by
    obtain ⟨rfl, -⟩ := (Environment.generates_variable hn).1 hg
    -- the group is closed: what the variable stands for does not lead back to it
    have closed : x ∉ _ := fun hx =>
      Environment.not_transGen_of_acc (hg.acc x hn) (hop x hx x hn)
    exact ⟨cs, ⟨hc x ho closed, rfl⟩, hc⟩
  | _, _, _, _, _, cs, _, .free (x := x) hn ho hf, hg, hop, hc => by
    obtain ⟨rfl, ⟨-, hu⟩ | ⟨ns, hb, -⟩⟩ := (Environment.generates_variable hn).1 hg
    · refine ⟨_, ⟨hu, rfl⟩, fun y hy hyo => ?_⟩
      by_cases e : y = x
      · rw [e, Captures.get?_record_self]
      · have other : groupName y ≠ groupName x := fun h => e (groupName_injective h)
        rw [Captures.get?_record_of_ne fun h => other (Option.some.inj h)]
        exact hc y ((List.mem_cons.1 hy).resolve_left other) hyo
    · cases hf.unique hb
  | _, _, _, _, opening, cs, _, @Translates.bound _ o _ n x ns _ hn ho hb h, hg, hop, hc => by
    have hc' : Captured r (groupName x :: o) (x :: opening) (cs.forget (groupName x)) :=
      fun y hy hyo => by
        have hyo := not_or.1 (mt List.mem_cons.2 hyo)
        have other : groupName y ≠ groupName x := fun h => hyo.1 (groupName_injective h)
        rw [Captures.get?_forget_of_ne other]
        exact hc y ((List.mem_cons.1 hy).resolve_left other) hyo.2
    have hop' : ∀ y ∈ x :: opening, ∀ m ∈ ns, ∀ z, m.variableName = some z →
        TransGen env.OccursIn z y := fun y hy m hm z hz =>
      .head' ⟨ns, m, hb, hm, hz⟩ (reach_opening hop hn y hy)
    have body := fun hgen : env.GeneratesAll r Node.Spans ns (r x) =>
      readsAll_of_generates h hgen hop' hc'
    obtain ⟨rfl, ⟨hf, -⟩ | ⟨ns, hb', hu⟩⟩ := (Environment.generates_variable hn).1 hg
    · cases hf.unique hb
    · cases hb.unique hb'
      obtain ⟨inner, hr, hc'⟩ := body hu
      refine ⟨_, ⟨inner, hr, rfl⟩, fun y hy hyo => ?_⟩
      by_cases e : y = x
      · rw [e, Captures.get?_cons, if_pos rfl]
      · rw [Captures.get?_cons, if_neg fun h => e (groupName_injective h).symm]
        exact hc' y hy fun h => (List.mem_cons.1 h).elim e hyo

theorem readsAll_of_generates : ∀ {ns : List Node} {ps : List Piece} {o o' : List Text}
    {opening : List Text} {cs : Captures} {u : Text}, TranslatesAll env o ns ps o' →
      env.GeneratesAll r Node.Spans ns u →
        (∀ y ∈ opening, ∀ n ∈ ns, ∀ x, n.variableName = some x → TransGen env.OccursIn x y) →
          Captured r o opening cs → ∃ cs', ReadsAll ps cs u cs' ∧ Captured r o' opening cs'
  | _, _, _, _, _, cs, _, .nil, hg, _, hc => by
    cases hg
    exact ⟨cs, ⟨rfl, rfl⟩, hc⟩
  | _, _, _, _, _, cs, _, .cons h hs, hg, hop, hc => by
    cases hg with
    | cons hn hns =>
      obtain ⟨between, hp, hc'⟩ := reads_of_generates h hn
        (fun y hy => (List.forall_mem_cons.1 (hop y hy)).1) hc
      obtain ⟨cs', hps, hc''⟩ := readsAll_of_generates hs hns
        (fun y hy => (List.forall_mem_cons.1 (hop y hy)).2) hc'
      exact ⟨cs', ⟨_, _, between, rfl, hp, hps⟩, hc''⟩

end

end Piece

end LocalePaths
