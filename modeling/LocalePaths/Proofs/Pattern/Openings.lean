import LocalePaths.Environment
import LocalePaths.Proofs.Pattern.Representation

/-!
# The names that are opened

A wildcard opens a group that binds the name of its number, a variable one that binds its own name, the
first time that it occurs. These names are different unless a variable has the name of a wildcard
(`Node.nodup_openings_iff`). Then the first name that is bound again is that of the wildcard whose clash
with a variable is complete first (`Pattern.exists_firstClash`).
-/

namespace LocalePaths

theorem starName_ne {x : Text} (h : x.head? ≠ some 's') (id : Nat) : starName id ≠ x := fun e =>
  h (e ▸ rfl)

namespace Node
variable {n : Node} {ns : List Node} {seen : List Text} {x : Text} {id k : Nat}

/-- The name that the group of a node binds, provided that the node opens one. -/
def opening? (n : Node) : Option Text :=
  (n.wildcardId.map starName).or (if n.isRepeated then none else n.variableName)

theorem opening?_of_variableName (hx : n.variableName = some x) :
    n.opening? = if n.isRepeated then none else some x := by
  cases n with
  | literal | star | starstar => cases hx
  | «variable» | android =>
    rw [← hx]
    rfl

/-- The names that are bound by groups, in the order in which the groups open. -/
def openings (ns : List Node) : List Text := ns.filterMap opening?

theorem openings_cons (n : Node) (ns : List Node) :
    openings (n :: ns) = n.opening?.toList ++ openings ns := by
  rw [openings, List.filterMap_cons]
  cases n.opening? <;> rfl

/-- What is opened are the names of wildcards and those of variables. -/
theorem openings_perm : ∀ ns : List Node,
    (openings ns).Perm ((wildcards ns).map starName ++ unflagged ns)
  | [] => .nil
  | .literal _ :: ns | .variable _ true :: ns | .android true :: ns => openings_perm ns
  | .star id :: ns | .starstar id _ :: ns => (openings_perm ns).cons (starName id)
  | .variable _ false :: ns | .android false :: ns =>
    ((openings_perm ns).cons _).trans List.perm_middle.symm

/-- No variable has the name of a wildcard. -/
def IsApart (ns : List Node) : Prop := ∀ x ∈ names ns, ∀ id ∈ wildcards ns, x ≠ starName id

theorem nodup_unflagged (flagged : flagAll seen ns = ns) : (unflagged ns).Nodup := by
  refine (pairwise_unflagged flagged).imp fun {x y} lt e => ?_
  rw [e] at lt
  exact Nat.lt_irrefl _ lt

theorem mem_unflagged_iff (flagged : flagAll [] ns = ns) : x ∈ unflagged ns ↔ x ∈ names ns :=
  (mem_unflagged flagged).trans (and_iff_left List.not_mem_nil)

theorem mem_openings (flagged : flagAll [] ns = ns) :
    x ∈ openings ns ↔ (∃ id ∈ wildcards ns, starName id = x) ∨ x ∈ names ns := by
  rw [(openings_perm ns).mem_iff, List.mem_append, List.mem_map, mem_unflagged_iff flagged]

/-- The names that are opened are different if and only if no variable has the name of a wildcard. -/
theorem nodup_openings_iff (flagged : flagAll [] ns = ns) (distinct : (wildcards ns).Nodup) :
    (openings ns).Nodup ↔ IsApart ns := by
  have numbers : ((wildcards ns).map starName).Nodup :=
    distinct.map fun _ _ => starName_injective
  rw [(openings_perm ns).nodup_iff, List.nodup_append]
  constructor
  · rintro ⟨-, -, apart⟩ x hx id hi e
    exact apart _ (List.mem_map_of_mem hi) x ((mem_unflagged_iff flagged).2 hx) e.symm
  · intro apart
    refine ⟨numbers, nodup_unflagged flagged, fun a ha x hx e => ?_⟩
    obtain ⟨id, hi, rfl⟩ := List.mem_map.1 ha
    exact apart x ((mem_unflagged_iff flagged).1 hx) id hi e.symm

theorem two_le_count (flagged : flagAll [] ns = ns) (wild : id ∈ wildcards ns)
    (named : starName id ∈ names ns) : 2 ≤ (openings ns).count (starName id) := by
  rw [(openings_perm ns).count_eq, List.count_append]
  have first := List.count_pos_iff.2 (List.mem_map_of_mem (f := starName) wild)
  have second := List.count_pos_iff.2 ((mem_unflagged_iff flagged).2 named)
  omega

theorem flagAll_take : ∀ (seen : List Text) (ns : List Node) (k : Nat),
    flagAll seen (ns.take k) = (flagAll seen ns).take k
  | _, _, 0 => rfl
  | _, [], _ + 1 => rfl
  | _, _ :: ns, k + 1 => congrArg (_ :: ·) (flagAll_take _ ns k)

end Node

namespace Pattern
variable {p : Pattern} {x : Text} {id k : Nat}

theorem WellFormed.nodup_openings_iff (wf : p.WellFormed) :
    (Node.openings p.nodes).Nodup ↔ Node.IsApart p.nodes :=
  Node.nodup_openings_iff wf.flagged wf.nodup_wildcards

/-- The number of the node at which the second of two groups opens, that of the wildcard and that of a
variable with its name. -/
def clashPlace (p : Pattern) (id : Nat) : Nat :=
  max (p.nodes.findIdx fun n => n.wildcardId = some id)
    (p.nodes.findIdx fun n => n.variableName = some (starName id))

theorem findIdx_lt_iff {α : Type} {q : α → Bool} {l : List α} (hk : k ≤ l.length) :
    l.findIdx q < k ↔ ∃ a ∈ l.take k, q a = true := by
  have length : (l.take k).length = k := List.length_take_of_le hk
  rw [← List.findIdx_lt_length, length]
  conv_lhs => rw [← List.take_append_drop k l, List.findIdx_append, length]
  split
  · rfl
  · omega

theorem clashPlace_lt_iff (hk : k ≤ p.nodes.length) : p.clashPlace id < k ↔
    id ∈ Node.wildcards (p.nodes.take k) ∧ starName id ∈ Node.names (p.nodes.take k) := by
  rw [clashPlace, Nat.max_lt, findIdx_lt_iff hk, findIdx_lt_iff hk]
  simp only [decide_eq_true_eq, Node.wildcards, Node.names, List.mem_filterMap]

theorem exists_take_openings {ns : List Node} {front back : List Text}
    (h : Node.openings ns = front ++ x :: back) : ∃ k < ns.length,
      Node.openings (ns.take k) = front ∧ Node.openings (ns.take (k + 1)) = front ++ [x] := by
  obtain ⟨ms, rest, rfl, hfront, hrest⟩ := List.filterMap_eq_append_iff.1 h
  obtain ⟨later, n, ns, rfl, none, hn, -⟩ := List.filterMap_eq_cons_iff.1 hrest
  have quiet : Node.openings later = [] := List.filterMap_eq_nil_iff.2 none
  have before : Node.openings (ms ++ later) = front := by
    rw [Node.openings, List.filterMap_append, hfront, ← Node.openings, quiet, List.append_nil]
  have place : ms ++ (later ++ n :: ns) = (ms ++ later) ++ n :: ns := (List.append_assoc ..).symm
  refine ⟨(ms ++ later).length, by simp, ?_, ?_⟩
  · rw [place, List.take_left, before]
  · rw [place, List.take_append, List.take_of_length_le (Nat.le_succ _), Nat.add_sub_cancel_left,
      List.take_succ_cons, List.take_zero, Node.openings, List.filterMap_append, ← Node.openings, before,
      List.filterMap_cons_some hn, List.filterMap_nil]

/-- The first name that is opened again is the name of a wildcard and of a variable, and of all such
names its second group opens first. -/
theorem exists_firstClash (wf : p.WellFormed) {front back : List Text}
    (split : Node.openings p.nodes = front ++ x :: back) (nodup : front.Nodup) (again : x ∈ front) :
    ∃ id ∈ Node.wildcards p.nodes, starName id = x ∧ x ∈ Node.names p.nodes ∧
      ∀ i ∈ Node.wildcards p.nodes, starName i ∈ Node.names p.nodes → p.clashPlace id ≤ p.clashPlace i := by
  have flagged (k : Nat) : Node.flagAll [] (p.nodes.take k) = p.nodes.take k := by
    rw [Node.flagAll_take, wf.flagged]
  have distinct (k : Nat) : (Node.wildcards (p.nodes.take k)).Nodup :=
    wf.nodup_wildcards.sublist ((List.take_sublist k p.nodes).filterMap _)
  obtain ⟨k, lt, before, after⟩ := exists_take_openings split
  -- the two groups of the name are among the nodes up to the one that opens it again
  have clash : ¬Node.IsApart (p.nodes.take (k + 1)) := by
    rw [← Node.nodup_openings_iff (flagged _) (distinct _), after, List.nodup_append]
    rintro ⟨-, -, apart⟩
    exact apart x again x (List.mem_singleton_self x) rfl
  simp only [Node.IsApart, not_forall, Classical.not_not] at clash
  obtain ⟨y, named, id, wild, rfl⟩ := clash
  have same : starName id = x := by
    have twice := Node.two_le_count (flagged _) wild named
    have once := List.nodup_iff_count_le_one.1 nodup (starName id)
    rw [after, List.count_append] at twice
    exact (List.mem_singleton.1 (List.count_pos_iff.1 (by omega)))
  have place : p.clashPlace id < k + 1 := (clashPlace_lt_iff lt).2 ⟨wild, named⟩
  refine ⟨id, ?_, same, ?_, fun i hi hx => ?_⟩
  · exact ((List.take_sublist _ _).filterMap _).subset wild
  · exact same ▸ ((List.take_sublist _ _).filterMap _).subset named
  · by_contra earlier
    obtain ⟨wild', named'⟩ := (clashPlace_lt_iff (Nat.le_of_lt lt)).1 (by omega : p.clashPlace i < k)
    have apart := (Node.nodup_openings_iff (flagged k) (distinct k)).1 (before ▸ nodup)
    exact apart _ named' i wild' rfl

end Pattern

end LocalePaths
