import LocalePaths.Proofs.Matcher.Captures
import LocalePaths.Proofs.Pattern.Representation
import LocalePaths.Proofs.Regex.Anchored

/-!
# Matchers that repeat no variable

If no variable occurs twice in the patterns that a matcher uses, what a variable stands for is reached
in one way only (`Unrepeated.eq_of_inside`). So a variable is never met again after its group has been
opened: the regular expression has no backreferences (`Unrepeated.isEasyAll_of_translatesAll`), and a
search for it always comes to an end (`Unrepeated.isMatch_ne_undecided`).
-/

namespace LocalePaths

open Piece Relation

theorem Pattern.WellFormed.hasRepeatedVariable_eq_false_iff {p : Pattern} (wf : p.WellFormed) :
    p.hasRepeatedVariable = false ↔ (Node.names p.nodes).Nodup := by
  rw [hasRepeatedVariable, ← Bool.not_eq_true, Node.any_isRepeated_iff wf.flagged, not_or, not_not]
  exact and_iff_left fun ⟨_, _, seen⟩ => nomatch seen

namespace Matcher

/-- No variable occurs twice in a used pattern, nor in two of them. -/
structure Unrepeated (m : Matcher) : Prop where
  once : ∀ source p, m.Uses source p → p.hasRepeatedVariable = false
  parted : ∀ source source' p p' x, m.Uses source p → m.Uses source' p' →
    x ∈ Node.names p.nodes → x ∈ Node.names p'.nodes → source = source'

/-- The variable `x` occurs in what the variable `y` of a used pattern is bound to. -/
def Inside (m : Matcher) (x y : Text) : Prop := ∃ v, m.Uses (some y) v ∧ x ∈ Node.names v.nodes

variable {m : Matcher} {source : Option Text} {p : Pattern} {a b x y : Text}

theorem Inside.occursIn (wf : ∀ source p, m.Uses source p → p.WellFormed) (h : m.Inside x y) :
    m.env.OccursIn x y := by
  obtain ⟨v, hv, hx⟩ := h
  obtain ⟨n, hn, hx⟩ := Node.mem_names.1 hx
  cases hv with
  | value hp hy hg =>
    have resolves : m.env.Resolves y _ := .binding ((wf _ _ hp).named _ hy)
    rw [hg] at resolves
    exact ⟨v.nodes, n, resolves, hn, hx⟩

namespace Unrepeated

theorem eq_of_reached (hm : m.Unrepeated) (hp : m.Uses source p) (ha : a ∈ Node.names p.nodes)
    (hb : b ∈ Node.names p.nodes) (closed : ¬TransGen m.Inside b b) (h : ReflTransGen m.Inside a b) :
    a = b := by
  rcases h.cases_head with rfl | ⟨c, ⟨v, hv, hav⟩, hcb⟩
  · rfl
  · -- the one pattern with `a` is what `c` is bound to, so that `b` is inside `c` as well
    obtain rfl := hm.parted _ _ _ _ _ hp hv ha hav
    exact absurd (.head' ⟨p, hp, hb⟩ hcb) closed

theorem rightUnique (hm : m.Unrepeated) : Relator.RightUnique m.Inside := by
  rintro x y z ⟨v, hv, hx⟩ ⟨w, hw, hx'⟩
  exact Option.some.inj (hm.parted _ _ _ _ _ hv hw hx hx')

/-- Variables of one pattern do not lead to the same variable. -/
theorem eq_of_inside (hm : m.Unrepeated) (hp : m.Uses source p) (ha : a ∈ Node.names p.nodes)
    (hb : b ∈ Node.names p.nodes) (closedA : ¬TransGen m.Inside a a)
    (closedB : ¬TransGen m.Inside b b) (hxa : ReflTransGen m.Inside x a)
    (hxb : ReflTransGen m.Inside x b) : a = b := by
  rcases ReflTransGen.total_of_right_unique hm.rightUnique hxa hxb with h | h
  · exact hm.eq_of_reached hp ha hb closedB h
  · exact (hm.eq_of_reached hp hb ha closedA h).symm

theorem nodup_names (hm : m.Unrepeated) (hp : m.Uses source p) (wf : p.WellFormed) :
    (Node.names p.nodes).Nodup :=
  wf.hasRepeatedVariable_eq_false_iff.1 (hm.once _ _ hp)

end Unrepeated

section
variable {o o' : List Text} {n : Node} {q : Piece} {body ns : List Node} {names names' : List Text}

/-- The variable `x` has one of the names, or what one of these stands for leads to it. -/
def Below (m : Matcher) (names : List Text) (x : Text) : Prop :=
  ∃ y ∈ names, ReflTransGen m.Inside x y

theorem below_append : m.Below (names ++ names') x ↔ m.Below names x ∨ m.Below names' x := by
  simp only [Below, List.mem_append, or_and_right, exists_or]

/-- The nodes that a variable stands for are those of a used pattern, or a qualifier. -/
theorem UsesNodes.stands (h : m.UsesNodes [n]) (hx : n.variableName = some x)
    (hv : m.env.Resolves x (some body)) :
    (∃ t, body = [.literal t]) ∨ ∃ v, v.nodes = body ∧ m.Uses (some x) v := by
  obtain ⟨wf, source, p, hp, hn⟩ := h
  have hn : n ∈ p.nodes := hn n List.mem_cons_self
  rcases Node.variableName_eq_some.1 hx with ⟨repeated, rfl⟩ | ⟨rfl, repeated, rfl⟩
  · have e := hv.unique (.binding ((wf _ _ hp).named _ hn))
    obtain ⟨v, hg, e⟩ := Option.map_eq_some_iff.1 e.symm
    exact .inr ⟨v, e, .value hp hn hg⟩
  · generalize e : some body = value at hv
    cases hv with
    | binding hx => exact absurd rfl hx
    | code => exact .inl ⟨_, Option.some.inj e⟩
    | noCode => cases e

/-- What is known where the variables with the names are translated: none of the variables below them
has a group yet, and none leads back to itself. -/
structure Unmet (m : Matcher) (o names : List Text) : Prop where
  nodup : names.Nodup
  closed : ∀ y ∈ names, ¬TransGen m.Inside y y
  fresh : ∀ x, m.Below names x → groupName x ∉ o

/-- The translation opens groups of variables below the names only. -/
def OpensBelow (m : Matcher) (o names o' : List Text) : Prop :=
  ∀ x, groupName x ∈ o' → groupName x ∈ o ∨ m.Below names x

namespace Unmet

theorem head (h : m.Unmet o (names ++ names')) : m.Unmet o names where
  nodup := (List.nodup_append.1 h.nodup).1
  closed y hy := h.closed y (List.mem_append_left _ hy)
  fresh x hx := h.fresh x (below_append.2 (.inl hx))

theorem tail (h : m.Unmet o (names ++ names')) (hm : m.Unrepeated)
    (used : ∃ source p, m.Uses source p ∧ ∀ y ∈ names ++ names', y ∈ Node.names p.nodes)
    (opens : m.OpensBelow o names o') : m.Unmet o' names' where
  nodup := (List.nodup_append.1 h.nodup).2.1
  closed y hy := h.closed y (List.mem_append_right _ hy)
  fresh x hx ho := by
    rcases opens x ho with ho | ⟨y, hy, hxy⟩
    · exact h.fresh x (below_append.2 (.inr hx)) ho
    · obtain ⟨z, hz, hxz⟩ := hx
      obtain ⟨source, p, hp, sub⟩ := used
      have hy' := List.mem_append_left names' hy
      have hz' := List.mem_append_right names hz
      have same := hm.eq_of_inside hp (sub y hy') (sub z hz') (h.closed y hy') (h.closed z hz') hxy hxz
      exact (List.nodup_append.1 h.nodup).2.2 y hy z hz same

theorem value {v : Pattern} (h : m.Unmet o [x]) (hm : m.Unrepeated) (hv : m.Uses (some x) v)
    (wf : v.WellFormed) : m.Unmet (groupName x :: o) (Node.names v.nodes) where
  nodup := hm.nodup_names hv wf
  closed y hy cycle := by
    -- the cycle goes through the only variable that `y` is inside of
    obtain ⟨z, hz, back⟩ := TransGen.head'_iff.1 cycle
    obtain rfl := hm.rightUnique hz ⟨v, hv, hy⟩
    exact h.closed z List.mem_cons_self (.tail' back hz)
  fresh z hz ho := by
    obtain ⟨y, hy, hzy⟩ := hz
    have inside : m.Inside y x := ⟨v, hv, hy⟩
    rcases List.mem_cons.1 ho with e | ho
    · obtain rfl := groupName_injective e
      exact h.closed z List.mem_cons_self (.tail' hzy inside)
    · exact h.fresh z ⟨x, List.mem_cons_self, hzy.tail inside⟩ ho

end Unmet

theorem OpensBelow.refl : m.OpensBelow o names o := fun _ => .inl

mutual

/-- The expression of a variable that is met for the first time has no backreferences. -/
theorem Unrepeated.isEasy_of_translates (hm : m.Unrepeated) :
    ∀ {n o q o'}, Translates m.env o n q o' → m.UsesNodes [n] → m.Unmet o n.variableName.toList →
      q.regex.isEasy = true ∧ m.OpensBelow o n.variableName.toList o'
  | _, _, _, _, .literal, _, _ => ⟨rfl, .refl⟩
  | _, _, _, _, @Translates.star _ o id, _, _ => by
    refine ⟨?_, fun x hx => .inl ((mem_openOnce.1 hx).resolve_left fun hg => ?_)⟩
    · cases (openOnce o (starName id)).1 <;> rfl
    · exact groupName_ne_starName x id (openOnce_eq hg)
  | _, _, _, _, @Translates.starstar _ o id _, _, _ => by
    refine ⟨?_, fun x hx => .inl ((mem_openOnce.1 hx).resolve_left fun hg => ?_)⟩
    · cases (openOnce o (starName id)).1 <;> rfl
    · exact groupName_ne_starName x id (openOnce_eq hg)
  | n, _, _, _, .again (x := x) hx ho, _, hu =>
    absurd ho (hu.fresh x ⟨x, Option.mem_toList.2 hx, .refl⟩)
  | n, _, _, _, .free (x := x) hx ho hf, _, _ => by
    refine ⟨rfl, fun z hz => ?_⟩
    rcases List.mem_cons.1 hz with e | hz
    · exact .inr ⟨x, Option.mem_toList.2 hx, groupName_injective e ▸ .refl⟩
    · exact .inl hz
  | _, _, _, _, @Translates.bound _ o o' n x ns body hx ho hb h, hn, hu => by
    have inner := hm.isEasyAll_of_translatesAll h
    rw [hx, Option.toList_some] at hu ⊢
    obtain ⟨easy, opens⟩ : (regexes body).isEasy = true ∧ ∀ z, groupName z ∈ o' →
        groupName z ∈ groupName x :: o ∨ m.Below [x] z := by
      rcases hn.stands hx hb with ⟨t, rfl⟩ | ⟨v, rfl, hv⟩
      · cases h with
        | cons first last =>
          cases last
          cases first with
          | literal => exact ⟨rfl, fun z => .inl⟩
          | again hy | free hy | bound hy => cases hy
      · obtain ⟨easy, opens⟩ := inner ⟨hn.wellFormed, _, v, hv, fun _ h => h⟩
          (hu.value hm hv (hn.wellFormed _ _ hv))
        refine ⟨easy, fun z hz => (opens z hz).imp_right fun ⟨y, hy, hzy⟩ => ?_⟩
        exact ⟨x, List.mem_cons_self, hzy.tail ⟨v, hv, hy⟩⟩
    refine ⟨easy, fun z hz => ?_⟩
    rcases opens z hz with hz | hz
    · rcases List.mem_cons.1 hz with e | hz
      · exact .inr ⟨x, List.mem_cons_self, groupName_injective e ▸ .refl⟩
      · exact .inl hz
    · exact .inr hz

/-- Where no variable is repeated, the expression has no backreferences. -/
theorem Unrepeated.isEasyAll_of_translatesAll (hm : m.Unrepeated) :
    ∀ {ns o ps o'}, TranslatesAll m.env o ns ps o' → m.UsesNodes ns → m.Unmet o (Node.names ns) →
      (regexes ps).isEasy = true ∧ m.OpensBelow o (Node.names ns) o'
  | _, _, _, _, .nil, _, _ => ⟨rfl, .refl⟩
  | n :: ns, _, _, _, .cons h hs, hn, hu => by
    rw [Node.names_cons] at hu ⊢
    have ⟨easy, opens⟩ := hm.isEasy_of_translates h hn.head hu.head
    have used : ∃ source p, m.Uses source p ∧
        ∀ y ∈ n.variableName.toList ++ Node.names ns, y ∈ Node.names p.nodes := by
      obtain ⟨-, source, p, hp, sub⟩ := hn
      refine ⟨source, p, hp, fun y hy => ?_⟩
      rw [← Node.names_cons] at hy
      obtain ⟨k, hk, hy⟩ := Node.mem_names.1 hy
      exact Node.mem_names.2 ⟨k, sub k hk, hy⟩
    have ⟨easy', opens'⟩ := hm.isEasyAll_of_translatesAll hs hn.tail (hu.tail hm used opens)
    refine ⟨Bool.and_eq_true_iff.2 ⟨easy, easy'⟩, fun x hx => ?_⟩
    rw [below_append, ← or_assoc]
    exact (opens' x hx).imp_left (opens x)

end

end

theorem usablePieces_ne_undecided (m : Matcher) (path : Text) :
    m.usablePieces ≠ .error (.undecided path) := by
  intro h
  rcases usablePieces_eq_error h with e | e | ⟨_, e⟩ <;> cases e

/-- Where no variable is repeated and none leads back to itself, matching comes to an answer. -/
theorem Unrepeated.isMatch_ne_undecided (hp : m.pattern.Formed)
    (he : ∀ x v, m.env.get? x = some v → v.Formed) (hm : m.Unrepeated)
    (acyclic : ∀ y ∈ Node.names m.pattern.nodes, Acc m.env.OccursIn y) (path : Text) :
    m.isMatch path ≠ .error (.undecided path) := by
  have used := usesNodes hp he
  rw [isMatch_eq]
  cases hu : m.usablePieces with
  | error e =>
    rintro ⟨⟩
    exact usablePieces_ne_undecided m path hu
  | ok ps =>
    obtain ⟨root, qs, o', -, rfl, ht⟩ :=
      translatesAll_of_usablePieces hp.wellFormed (fun x v hv => (he x v hv).wellFormed) hu
    have closed : ∀ y ∈ Node.names m.pattern.nodes, ¬TransGen m.Inside y y := fun y hy cycle =>
      Environment.not_transGen_of_acc (acyclic y hy)
        (TransGen.mono (fun _ _ => Inside.occursIn used.wellFormed) _ _ cycle)
    have unmet : m.Unmet [] (Node.names m.pattern.nodes) :=
      ⟨hm.nodup_names .own hp.wellFormed, closed, fun _ _ hz => absurd hz List.not_mem_nil⟩
    have easy := (hm.isEasyAll_of_translatesAll ht used unmet).1
    have whole_easy : (whole (.text root :: qs)).isEasy = true := by
      simp [whole, regexes, regex, Regex.isEasy, easy]
    have answered := Regex.search_ne_gaveUp whole_easy path
    dsimp only
    cases hs : (whole (.text root :: qs)).search path with
    | gaveUp => exact absurd hs answered
    | _ =>
      intro h
      cases h

end Matcher

end LocalePaths
