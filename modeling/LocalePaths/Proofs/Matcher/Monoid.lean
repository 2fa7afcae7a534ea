import LocalePaths.Matcher
import LocalePaths.Proofs.NameMap
import LocalePaths.Proofs.Pattern.Divided

/-!
# Matchers form a monoid

Three matchers can be joined from the left or from the right: the nodes with their numbers and flags, the
root, the stem and the environment come out the same, and so does the error for a part with a root
(`Matcher.concat_monoid`). The empty matcher is neutral. The numbers only agree because the wildcards of a
pattern that can be made are numbered from 1 on, so that its last number says how many there are
(`Pattern.lastWildcard_concat?`).
-/

namespace LocalePaths

namespace NameMap
variable {α : Type}

theorem merge_assoc (m n k : NameMap α) : (m.merge n).merge k = m.merge (n.merge k) :=
  ext_get? fun name => by simp only [get?_merge, Option.or_assoc]

theorem merge_empty (m : NameMap α) : m.merge empty = m := rfl

theorem empty_merge (m : NameMap α) : empty.merge m = m :=
  ext_get? fun name => by rw [get?_merge, get?_empty, Option.or_none]

end NameMap

namespace Node

theorem shift_shift (j k : Nat) (n : Node) : (n.shift j).shift k = n.shift (j + k) := by
  cases n with
  | star id | starstar id ending => simp only [shift, Nat.add_assoc]
  | literal | «variable» | android => rfl

theorem shift_zero (n : Node) : n.shift 0 = n := by cases n <;> rfl

end Node

namespace Pattern
variable {p q r : Pattern}

theorem ext_parts (nodes : p.nodes = q.nodes) (root : p.root = q.root)
    (stem : p.stemLength = q.stemLength) : p = q := by
  cases p
  cases q
  cases nodes
  cases root
  cases stem
  rfl

theorem concat?_rooted (h : q.root ≠ none) : p.concat? q = none :=
  if_pos (Option.isSome_iff_ne_none.2 h)

/-- The pattern that is joined from two patterns, of which the second has no root. -/
def join (p q : Pattern) : Pattern where
  nodes := Node.flagAll [] (p.nodes ++ q.nodes.map (Node.shift p.lastWildcard))
  root := p.root
  stemLength := if p.hasWildcard then p.stemLength else p.stemLength + q.stemLength

theorem concat?_unrooted (h : q.root = none) : p.concat? q = some (p.join q) := by
  rw [concat?, h]
  rfl

theorem wildcards_join (p q : Pattern) : Node.wildcards (p.join q).nodes =
    Node.wildcards p.nodes ++ (Node.wildcards q.nodes).map (· + p.lastWildcard) := by
  rw [join, Node.wildcards_flagAll, Node.wildcards_append, Node.wildcards_shift]

theorem hasWildcard_eq (p : Pattern) : p.hasWildcard = !(Node.wildcards p.nodes).isEmpty := by
  rw [hasWildcard]
  induction p.nodes with
  | nil => rfl
  | cons n ns ih =>
    rw [List.any_cons, ih, Node.wildcards_cons, Node.isWildcard]
    cases n.wildcardId <;> rfl

theorem hasWildcard_join (p q : Pattern) : (p.join q).hasWildcard = (p.hasWildcard || q.hasWildcard) := by
  rw [hasWildcard_eq, hasWildcard_eq, hasWildcard_eq, wildcards_join]
  cases Node.wildcards p.nodes <;> cases Node.wildcards q.nodes <;> rfl

theorem lastWildcard_join (hp : p.WellFormed) (hq : q.WellFormed) (unrooted : q.root = none) :
    (p.join q).lastWildcard = p.lastWildcard + q.lastWildcard := by
  rw [lastWildcard_eq (wellFormed_concat hp hq (concat?_unrooted unrooted)), lastWildcard_eq hp,
    lastWildcard_eq hq, wildcards_join, List.length_append, List.length_map]

theorem join_assoc (hp : p.WellFormed) (hq : q.WellFormed) (hr : r.WellFormed) (unrooted : q.root = none) :
    (p.join q).join r = p.join (q.join r) := by
  have numbers : Node.shift p.lastWildcard ∘ Node.shift q.lastWildcard =
      Node.shift (p.join q).lastWildcard := by
    funext n
    rw [Function.comp_apply, Node.shift_shift, lastWildcard_join hp hq unrooted, Nat.add_comm]
  have nodes : ((p.join q).join r).nodes = (p.join (q.join r)).nodes := by
    calc ((p.join q).join r).nodes
        = Node.flagAll [] (Node.flagAll [] (p.nodes ++ q.nodes.map (Node.shift p.lastWildcard)) ++
            (Node.flagAll [] r.nodes).map (Node.shift (p.join q).lastWildcard)) := by
          rw [hr.flagged]
          rfl
      _ = Node.flagAll [] (p.nodes ++
            (q.nodes ++ r.nodes.map (Node.shift q.lastWildcard)).map (Node.shift p.lastWildcard)) := by
          rw [Node.flagAll_reset, List.map_append, List.map_map, numbers, List.append_assoc]
      _ = (p.join (q.join r)).nodes := by
          rw [← Node.flagAll_reset, hp.flagged]
          rfl
  have stem : ((p.join q).join r).stemLength = (p.join (q.join r)).stemLength := by
    show (if (p.join q).hasWildcard then _ else _) = if p.hasWildcard then _ else _
    rw [hasWildcard_join]
    unfold join
    cases p.hasWildcard <;> cases q.hasWildcard <;> simp [Nat.add_assoc]
  exact ext_parts nodes rfl stem

theorem join_empty (hp : p.WellFormed) : p.join empty = p := by
  have nodes : (p.join empty).nodes = p.nodes := by
    show Node.flagAll [] (p.nodes ++ []) = p.nodes
    rw [List.append_nil, hp.flagged]
  exact ext_parts nodes rfl (ite_self _)

theorem empty_join (hp : p.WellFormed) (unrooted : p.root = none) : empty.join p = p := by
  have nodes : (empty.join p).nodes = p.nodes := by
    show Node.flagAll [] (p.nodes.map (Node.shift 0)) = p.nodes
    rw [show Node.shift 0 = id from funext Node.shift_zero, List.map_id, hp.flagged]
  exact ext_parts nodes unrooted.symm (Nat.zero_add _)

end Pattern

namespace Matcher
variable {a b c : Matcher}

/-- The matcher that is joined from two matchers, of which the second has no root. -/
def join (a b : Matcher) : Matcher := ⟨a.pattern.join b.pattern, a.env.merge b.env, false⟩

theorem concat_rooted (a b : Matcher) (h : b.pattern.root ≠ none) : a.concat b = .error .rootedConcat := by
  rw [concat, Pattern.concat?_rooted h]

theorem concat_unrooted (a b : Matcher) (h : b.pattern.root = none) : a.concat b = .ok (a.join b) := by
  rw [concat, Pattern.concat?_unrooted h]
  rfl

theorem join_assoc (ha : a.pattern.Formed) (hb : b.pattern.Formed) (hc : c.pattern.Formed)
    (unrooted : b.pattern.root = none) : (a.join b).join c = a.join (b.join c) := by
  have pattern := Pattern.join_assoc ha.wellFormed hb.wellFormed hc.wellFormed unrooted
  show (⟨(a.pattern.join b.pattern).join c.pattern, (a.env.merge b.env).merge c.env, false⟩ : Matcher) = _
  rw [pattern, NameMap.merge_assoc]
  rfl

theorem concat_assoc (ha : a.pattern.Formed) (hb : b.pattern.Formed) (hc : c.pattern.Formed) :
    (a.concat b >>= fun ab => ab.concat c) = b.concat c >>= fun bc => a.concat bc := by
  by_cases rootB : b.pattern.root = none
  · rw [concat_unrooted a b rootB]
    show (a.join b).concat c = _
    by_cases rootC : c.pattern.root = none
    · rw [concat_unrooted b c rootC, concat_unrooted _ c rootC, join_assoc ha hb hc rootB]
      exact (concat_unrooted a (b.join c) rootB).symm
    · rw [concat_rooted _ c rootC, concat_rooted b c rootC]
      rfl
  · rw [concat_rooted a b rootB]
    by_cases rootC : c.pattern.root = none
    · rw [concat_unrooted b c rootC]
      exact (concat_rooted a (b.join c) rootB).symm
    · rw [concat_rooted b c rootC]
      rfl

theorem concat_empty (ha : a.pattern.Formed) : a.concat (.of .empty) = .ok ⟨a.pattern, a.env, false⟩ := by
  rw [concat_unrooted a _ rfl, join, of, Pattern.join_empty ha.wellFormed, NameMap.merge_empty]

theorem empty_concat (ha : a.pattern.Formed) (unrooted : a.pattern.root = none) :
    (of .empty).concat a = .ok ⟨a.pattern, a.env, false⟩ := by
  rw [concat_unrooted _ a unrooted, join, of, Pattern.empty_join ha.wellFormed unrooted, NameMap.empty_merge]

/-- Matchers of patterns that can be made are joined to the same matcher from the left and from the right,
or to none for the same reason. The empty matcher is neutral on the right, and on the left of a matcher
without a root. -/
theorem concat_monoid (ha : a.pattern.Formed) (hb : b.pattern.Formed) (hc : c.pattern.Formed) :
    (a.concat b >>= fun ab => ab.concat c) = (b.concat c >>= fun bc => a.concat bc) ∧
      a.concat (.of .empty) = .ok ⟨a.pattern, a.env, false⟩ ∧
      (a.pattern.root = none → (of .empty).concat a = .ok ⟨a.pattern, a.env, false⟩) :=
  ⟨concat_assoc ha hb hc, concat_empty ha, empty_concat ha⟩

def site : Matcher :=
  ((of (.parse "*/{locale}".toList)).withRoot ['/'] "/r".toList).withEnv [(localeName, .parse "de".toList)]

def area : Matcher := of (.parse "-{locale}/**/".toList)

def page : Matcher := (of (.parse "*.{kind}".toList)).withEnv [(localeName, .parse "fr".toList)]

/-- The wildcards are numbered on, the second occurrence of the locale is flagged, and its last value stays. -/
theorem site_concat_area_page : site.pattern.Formed ∧ area.pattern.Formed ∧ page.pattern.Formed ∧
    area.pattern.root = none ∧ (of .empty).concat area = .ok area ∧ ∃ m,
      (site.concat area >>= fun m => m.concat page) = .ok m ∧
      (area.concat page >>= fun m => site.concat m) = .ok m ∧ m.pattern.root = some "/r/".toList ∧
      m.pattern.nodes = [.star 1, .literal ['/'], .variable localeName false, .literal [], .literal ['-'],
        .variable localeName true, .literal ['/'], .starstar 2 ['/'], .literal [], .star 3, .literal ['.'],
        .variable "kind".toList false, .literal []] ∧
      m.env.get? localeName = some (.parse "fr".toList) := by
  have formed : site.pattern.Formed ∧ area.pattern.Formed ∧ page.pattern.Formed :=
    ⟨.withRoot _ (.parse _), .parse _, .parse _⟩
  obtain ⟨hs, ha, hp⟩ := formed
  obtain ⟨same, -, -⟩ := concat_monoid hs ha hp
  obtain ⟨-, -, neutral⟩ := concat_monoid ha hs hp
  refine ⟨hs, ha, hp, rfl, neutral rfl, (site.join area).join page, ?_, ?_, ?_⟩
  · decide +kernel
  · rw [← same]
    decide +kernel
  · decide +kernel

end Matcher

end LocalePaths
