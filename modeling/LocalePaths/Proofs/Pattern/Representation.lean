import LocalePaths.Proofs.Pattern.Formed
import Mathlib.Data.List.Count
import Mathlib.Data.List.Nodup

/-!
# What a pattern records about its nodes

A pattern keeps the number of nodes before its first wildcard, the numbers of its wildcards, and a flag
at every variable that repeats an earlier one. For every pattern that can be made these agree with the
nodes (`Pattern.record_of_formed`), however often it has been joined from others. Concatenation adds up
the numbers of nodes that its parts have recorded (`Formed.stemLength_eq`), and what the flags say about
names is the same whatever names come before (`Node.mem_unflagged`, `Node.pairwise_unflagged`).
-/

namespace LocalePaths

namespace Node
variable {seen : List Text} {n : Node} {ns : List Node} {x : Text}

/-- The names of variables, as often as they occur. -/
def names (ns : List Node) : List Text := ns.filterMap variableName

/-- The names of the variables without a flag. -/
def unflagged (ns : List Node) : List Text := names (ns.filter fun n => !n.isRepeated)

theorem names_cons (n : Node) (ns : List Node) :
    names (n :: ns) = n.variableName.toList ++ names ns := by
  rw [names, List.filterMap_cons]
  cases n.variableName <;> rfl

theorem unflagged_cons (n : Node) (ns : List Node) : unflagged (n :: ns) =
    (if n.isRepeated then [] else n.variableName.toList) ++ unflagged ns := by
  unfold unflagged
  cases h : n.isRepeated <;> simp [h, names_cons]

theorem mem_names : x ∈ names ns ↔ ∃ n ∈ ns, n.variableName = some x := List.mem_filterMap

theorem isRepeated_iff (h : n.flag seen = n) :
    n.isRepeated = true ↔ ∃ x ∈ seen, n.variableName = some x := by
  rw [← h]
  cases n with
  | «variable» | android => simp [flag, isRepeated, variableName]
  | literal | star | starstar => simp [flag, isRepeated, variableName]

theorem isRepeated_iff_mem (h : n.flag seen = n) (hx : n.variableName = some x) :
    n.isRepeated = true ↔ x ∈ seen := by
  rw [isRepeated_iff h]
  constructor
  · rintro ⟨y, hy, e⟩
    rwa [← Option.some.inj (e.symm.trans hx)]
  · exact fun hs => ⟨x, hs, hx⟩

/-- The flag at a place says whether the name has been seen or occurs at an earlier place. -/
theorem isRepeated_getElem? (h : flagAll seen ns = ns) {i : Nat} (hn : ns[i]? = some n)
    (hx : n.variableName = some x) : n.isRepeated = true ↔ x ∈ seen ∨ x ∈ names (ns.take i) := by
  induction ns generalizing seen i with
  | nil => cases hn
  | cons m ns ih =>
    obtain ⟨hm, hns⟩ := List.cons.inj h
    cases i with
    | zero =>
      obtain rfl : m = n := Option.some.inj hn
      rw [isRepeated_iff_mem hm hx]
      exact (or_iff_left List.not_mem_nil).symm
    | succ i =>
      rw [ih hns hn, List.take_succ_cons, names_cons, List.mem_append, List.mem_append]
      exact or_right_comm.trans or_comm.symm

theorem mem_unflagged_cons (h : n.flag seen = n) : x ∈ unflagged (n :: ns) ↔
    n.variableName = some x ∧ x ∉ seen ∨ x ∈ unflagged ns := by
  rw [unflagged_cons, List.mem_append]
  refine or_congr ?_ Iff.rfl
  by_cases hx : n.variableName = some x
  · rw [← isRepeated_iff_mem h hx]
    cases hr : n.isRepeated <;> simp [hx]
  · split <;> simp [hx]

theorem mem_unflagged (h : flagAll seen ns = ns) : x ∈ unflagged ns ↔ x ∈ names ns ∧ x ∉ seen := by
  induction ns generalizing seen with
  | nil => simp [unflagged, names]
  | cons n ns ih =>
    obtain ⟨hn, hns⟩ := List.cons.inj h
    rw [mem_unflagged_cons hn, ih hns, names_cons, List.mem_append, List.mem_append, Option.mem_toList]
    by_cases hx : n.variableName = some x <;> simp [hx]

/-- The names without a flag come in the order of their first places. -/
theorem pairwise_unflagged (h : flagAll seen ns = ns) :
    (unflagged ns).Pairwise fun x y => (names ns).idxOf x < (names ns).idxOf y := by
  induction ns generalizing seen with
  | nil => exact List.Pairwise.nil
  | cons n ns ih =>
    obtain ⟨hn, hns⟩ := List.cons.inj h
    have later := ih hns
    rw [unflagged_cons, names_cons]
    cases hx : n.variableName with
    | none =>
      rw [Option.toList_none, ite_self]
      exact later
    | some x =>
      -- the name of the first node is flagged from now on, so the other names are different
      have other : ∀ y ∈ unflagged ns, y ≠ x := by
        intro y hy e
        refine ((mem_unflagged hns).1 hy).2 (List.mem_append_left _ ?_)
        rw [hx, e]
        exact List.mem_singleton_self x
      have moved : ∀ y ∈ unflagged ns,
          (x :: names ns).idxOf y = (names ns).idxOf y + 1 := by
        intro y hy
        exact List.idxOf_cons_ne _ (other y hy).symm
      have shifted : (unflagged ns).Pairwise
          fun y z => (x :: names ns).idxOf y < (x :: names ns).idxOf z := by
        refine later.imp_of_mem fun {y z} hy hz lt => ?_
        rw [moved y hy, moved z hz]
        exact Nat.succ_lt_succ lt
      split
      · exact shifted
      · refine List.pairwise_cons.2 ⟨fun y hy => ?_, shifted⟩
        show (x :: names ns).idxOf x < (x :: names ns).idxOf y
        rw [moved y hy, List.idxOf_cons_self]
        exact Nat.succ_pos _

theorem any_isRepeated_iff (h : flagAll seen ns = ns) :
    ns.any isRepeated = true ↔ ¬(names ns).Nodup ∨ ∃ x ∈ names ns, x ∈ seen := by
  induction ns generalizing seen with
  | nil => simp [names]
  | cons n ns ih =>
    obtain ⟨hn, hns⟩ := List.cons.inj h
    rw [List.any_cons, Bool.or_eq_true, ih hns, isRepeated_iff hn, names_cons]
    cases hx : n.variableName with
    | none => simp
    | some x =>
      simp only [Option.toList_some, List.singleton_append, List.nodup_cons, List.mem_cons]
      grind

end Node

namespace Pattern
variable {p : Pattern}

theorem stemOf_eq_findIdx (ns : List Node) : stemOf ns = ns.findIdx Node.isWildcard := by
  induction ns with
  | nil => rfl
  | cons n ns ih =>
    rw [List.findIdx_cons, ← ih, stemOf, stemOf, List.takeWhile_cons]
    cases n.isWildcard <;> rfl

theorem findIdx_isWildcard_map {f : Node → Node} (ns : List Node)
    (hf : ∀ n, (f n).isWildcard = n.isWildcard) :
    (ns.map f).findIdx Node.isWildcard = ns.findIdx Node.isWildcard := by
  rw [List.findIdx_map]
  congr 1
  funext n
  exact hf n

theorem findIdx_isWildcard_flagAll (seen : List Text) (ns : List Node) :
    (Node.flagAll seen ns).findIdx Node.isWildcard = ns.findIdx Node.isWildcard := by
  induction ns generalizing seen with
  | nil => rfl
  | cons n ns ih =>
    have : (n.flag seen).isWildcard = n.isWildcard := by
      rw [Node.isWildcard, Node.wildcardId_flag, Node.isWildcard]
    rw [Node.flagAll, List.findIdx_cons, List.findIdx_cons, ih, this]

/-- The stem of a pattern that can be made ends before the first wildcard. -/
theorem Formed.stemLength_eq (h : p.Formed) : p.stemLength = p.nodes.findIdx Node.isWildcard := by
  induction h with
  | parse s => exact stemOf_eq_findIdx _
  | literal text => rfl
  | empty => rfl
  | withRoot root _ ih => exact ih
  | @concat p q r _ _ h ihp ihq =>
    unfold concat? at h
    split at h
    · cases h
    · obtain rfl := Option.some.inj h
      have shifted : (q.nodes.map (Node.shift p.lastWildcard)).findIdx Node.isWildcard =
          q.nodes.findIdx Node.isWildcard := by
        refine findIdx_isWildcard_map _ fun n => ?_
        rw [Node.isWildcard, Node.wildcardId_shift, Option.isSome_map, Node.isWildcard]
      show (if p.hasWildcard then p.stemLength else p.stemLength + q.stemLength) = _
      rw [findIdx_isWildcard_flagAll, List.findIdx_append, shifted, ihp, ihq]
      split
      · rename_i wild
        rw [if_pos (List.findIdx_lt_length.2 (List.any_eq_true.1 wild))]
      · rename_i wild
        have none : ¬p.nodes.findIdx Node.isWildcard < p.nodes.length := fun lt =>
          wild (List.any_eq_true.2 (List.findIdx_lt_length.1 lt))
        have all : p.nodes.findIdx Node.isWildcard ≤ p.nodes.length := List.findIdx_le_length
        rw [if_neg none]
        omega

/-- What a pattern records about its nodes. The wildcards are numbered from 1 on; the stem ends before
the first wildcard, or with the last node; a variable is flagged if an earlier one has its name. So the
names that are listed are all that occur, each once, in the order of their first places, and the
pattern tells whether one of them occurs twice. -/
theorem record_of_formed (h : p.Formed) :
    (∃ k, Node.wildcards p.nodes = List.range' 1 k) ∧
      (p.stemLength = p.nodes.findIdx Node.isWildcard ∧ p.stemLength ≤ p.length) ∧
      (∀ i n x, p.nodes[i]? = some n → n.variableName = some x →
        (n.isRepeated = true ↔ ∃ m ∈ p.nodes.take i, m.variableName = some x)) ∧
      (∀ x, x ∈ p.variableNames ↔ ∃ n ∈ p.nodes, n.variableName = some x) ∧
      p.variableNames.Nodup ∧
      (p.variableNames.Pairwise fun x y =>
        (Node.names p.nodes).idxOf x < (Node.names p.nodes).idxOf y) ∧
      (p.hasRepeatedVariable = true ↔ ∃ x, 2 ≤ (Node.names p.nodes).count x) := by
  have wf := h.wellFormed
  have inOrder : p.variableNames.Pairwise fun x y =>
      (Node.names p.nodes).idxOf x < (Node.names p.nodes).idxOf y :=
    Node.pairwise_unflagged wf.flagged
  refine ⟨⟨_, wf.numbered⟩, ⟨h.stemLength_eq, ?_⟩, fun i n x hn hx => ?_, fun x => ?_, ?_, inOrder, ?_⟩
  · rw [h.stemLength_eq]
    exact List.findIdx_le_length
  · rw [Node.isRepeated_getElem? wf.flagged hn hx, ← Node.mem_names]
    exact or_iff_right List.not_mem_nil
  · rw [← Node.mem_names]
    exact (Node.mem_unflagged wf.flagged).trans (and_iff_left List.not_mem_nil)
  · refine inOrder.imp fun {x y} lt e => ?_
    rw [e] at lt
    exact Nat.lt_irrefl _ lt
  · have twice : p.hasRepeatedVariable = true ↔ ¬(Node.names p.nodes).Nodup := by
      refine (Node.any_isRepeated_iff wf.flagged).trans (or_iff_left ?_)
      rintro ⟨x, -, hx⟩
      cases hx
    rw [twice, List.nodup_iff_count_le_one, not_forall]
    exact exists_congr fun x => Nat.not_le

/-- A pattern with a root, joined from a part without wildcards, the empty pattern, and a part that
repeats a variable. -/
def joined : Pattern :=
  let first := ((parse "a/{x}/".toList).withRoot (some ['/'])).concat? empty
  (first.bind (·.concat? (parse "*/{x}/**/{android_locale}".toList))).getD empty

theorem joined_formed : joined.Formed :=
  .concat (.concat (.withRoot _ (.parse _)) .empty rfl) (.parse _) rfl

theorem joined_record : joined.Formed ∧ joined.stemLength = 3 ∧
    joined.variableNames = ["x".toList, androidLocale] ∧
    ∃ x, 2 ≤ (Node.names joined.nodes).count x := by
  obtain ⟨-, -, -, -, -, -, repeated⟩ := record_of_formed joined_formed
  exact ⟨joined_formed, by decide +kernel, by decide +kernel, repeated.1 (by decide +kernel)⟩

end Pattern

end LocalePaths
