import LocalePaths.Pattern.Parse

/-!
# The patterns that can be formed

Patterns come from text, from literals and from the empty pattern, by setting a root and by
concatenation (`Pattern.Formed`). All of them are well formed: the flags of variables are set by the
names before them, wildcards are numbered one after another, and the variable `android_locale` is
always the node made for it.
-/

namespace LocalePaths

namespace Node
variable {seen : List Text} {n : Node} {ns : List Node}

@[simp] theorem wildcardId_flag : (n.flag seen).wildcardId = n.wildcardId := by cases n <;> rfl

@[simp] theorem variableName_flag : (n.flag seen).variableName = n.variableName := by
  cases n <;> rfl

@[simp] theorem flag_flag : (n.flag seen).flag seen = n.flag seen := by cases n <;> rfl

theorem wildcardId_shift (k : Nat) : (n.shift k).wildcardId = n.wildcardId.map (· + k) := by
  cases n <;> rfl

def wildcards (ns : List Node) : List Nat := ns.filterMap wildcardId

theorem wildcards_cons (n : Node) (ns : List Node) :
    wildcards (n :: ns) = n.wildcardId.toList ++ wildcards ns := by
  rw [wildcards, List.filterMap_cons]
  cases n.wildcardId <;> rfl

theorem mem_wildcards_cons {id : Nat} :
    id ∈ wildcards (n :: ns) ↔ n.wildcardId = some id ∨ id ∈ wildcards ns := by
  rw [wildcards_cons, List.mem_append, Option.mem_toList]

theorem wildcards_append (ms ns : List Node) :
    wildcards (ms ++ ns) = wildcards ms ++ wildcards ns :=
  List.filterMap_append

theorem wildcards_flagAll : ∀ (seen : List Text) (ns : List Node),
    wildcards (flagAll seen ns) = wildcards ns
  | _, [] => rfl
  | seen, n :: ns => by
    have := wildcards_flagAll (n.variableName.toList ++ seen) ns
    simp only [wildcards] at this
    simp [wildcards, flagAll, List.filterMap_cons, this]

theorem wildcards_shift (k : Nat) (ns : List Node) :
    wildcards (ns.map (shift k)) = (wildcards ns).map (· + k) := by
  rw [wildcards, wildcards, List.filterMap_map, List.map_filterMap]
  congr 1
  funext n
  exact wildcardId_shift k

theorem flagAll_flagAll : ∀ (seen : List Text) (ns : List Node),
    flagAll seen (flagAll seen ns) = flagAll seen ns
  | _, [] => rfl
  | seen, n :: ns => by
    simp only [flagAll, flag_flag, variableName_flag, flagAll_flagAll]

/-- The node is not a variable by the name of the node `android`. -/
def IsNamed : Node → Prop
  | «variable» name _ => name ≠ androidLocale
  | _ => True

theorem isNamed_flag (h : n.IsNamed) : (n.flag seen).IsNamed := by
  cases n <;> exact h

theorem isNamed_shift {k : Nat} (h : n.IsNamed) : (n.shift k).IsNamed := by
  cases n <;> exact h

theorem isNamed_flagAll : ∀ {seen : List Text} {ns : List Node}, (∀ n ∈ ns, n.IsNamed) →
    ∀ n ∈ flagAll seen ns, n.IsNamed
  | _, [], _ => nofun
  | _, _ :: _, h =>
    have h := List.forall_mem_cons.1 h
    List.forall_mem_cons.2 ⟨isNamed_flag h.1, isNamed_flagAll h.2⟩

end Node

namespace Pattern
variable {p q r : Pattern}

/-- The patterns that can be made. -/
inductive Formed : Pattern → Prop
  | parse (s : Text) : Formed (parse s)
  | literal (text : Text) : Formed (literal text)
  | empty : Formed empty
  | withRoot {p : Pattern} (root : Option Text) : Formed p → Formed (p.withRoot root)
  | concat {p q r : Pattern} : Formed p → Formed q → p.concat? q = some r → Formed r

/-- What holds of the nodes of every pattern that can be made. -/
structure WellFormed (p : Pattern) : Prop where
  flagged : Node.flagAll [] p.nodes = p.nodes
  numbered : Node.wildcards p.nodes = List.range' 1 (Node.wildcards p.nodes).length
  named : ∀ n ∈ p.nodes, n.IsNamed

theorem WellFormed.nodup_wildcards (wf : p.WellFormed) : (Node.wildcards p.nodes).Nodup :=
  wf.numbered ▸ List.nodup_range'

theorem wildcards_literal? (run : Text) : Node.wildcards (literal? run) = [] := by
  unfold literal?
  split <;> rfl

theorem isNamed_literal? {run : Text} : ∀ n ∈ literal? run, n.IsNamed := by
  unfold literal?
  split
  · nofun
  · simp [Node.IsNamed]

theorem wildcards_ofTokens : ∀ (ts : List Token) (id : Nat) (run : Text),
    ∃ k, Node.wildcards (ofTokens id run ts) = List.range' id k
  | [], _, _ => ⟨0, rfl⟩
  | .char c :: ts, id, run => wildcards_ofTokens ts id (run ++ [c])
  | .star :: ts, id, run => by
    obtain ⟨k, hk⟩ := wildcards_ofTokens ts (id + 1) []
    refine ⟨k + 1, ?_⟩
    rw [ofTokens, Node.wildcards_append, wildcards_literal?, List.range'_succ, ← hk]
    rfl
  | .starstar ending :: ts, id, run => by
    obtain ⟨k, hk⟩ := wildcards_ofTokens ts (id + 1) []
    refine ⟨k + 1, ?_⟩
    rw [ofTokens, Node.wildcards_append, wildcards_literal?, List.range'_succ, ← hk]
    rfl
  | .name word :: ts, id, run => by
    obtain ⟨k, hk⟩ := wildcards_ofTokens ts id []
    refine ⟨k, ?_⟩
    rw [ofTokens, Node.wildcards_append, wildcards_literal?, ← hk]
    split <;> rfl

theorem isNamed_ofTokens : ∀ (ts : List Token) (id : Nat) (run : Text),
    ∀ n ∈ ofTokens id run ts, n.IsNamed
  | [], _, _ => by simp [ofTokens, Node.IsNamed]
  | .char c :: ts, id, run => isNamed_ofTokens ts id (run ++ [c])
  | .star :: ts, id, run | .starstar _ :: ts, id, run => by
    have later := isNamed_ofTokens ts (id + 1) []
    refine List.forall_mem_append.2 ⟨isNamed_literal?, List.forall_mem_cons.2 ⟨trivial, later⟩⟩
  | .name word :: ts, id, run => by
    have later := isNamed_ofTokens ts id []
    refine List.forall_mem_append.2 ⟨isNamed_literal?, List.forall_mem_cons.2 ⟨?_, later⟩⟩
    split
    · trivial
    · rename_i h
      exact h

theorem wellFormed_parse (s : Text) : (parse s).WellFormed where
  flagged := Node.flagAll_flagAll ..
  numbered := by
    obtain ⟨k, hk⟩ := wildcards_ofTokens (Token.ofText s) 1 []
    simp only [parse, Node.wildcards_flagAll, hk, List.length_range']
  named := Node.isNamed_flagAll (isNamed_ofTokens (Token.ofText s) 1 [])

theorem lastWildcard_eq (h : p.WellFormed) :
    p.lastWildcard = (Node.wildcards p.nodes).length := by
  have max_range : ∀ k m, (List.range' (m + 1) k).foldl max m = m + k := by
    intro k
    induction k with
    | zero => simp
    | succ k ih =>
      intro m
      rw [List.range'_succ, List.foldl_cons, Nat.max_eq_right (Nat.le_succ m), ih]
      omega
  show (Node.wildcards p.nodes).foldl max 0 = _
  rw [h.numbered, max_range, List.length_range', Nat.zero_add]

theorem wellFormed_concat (hp : p.WellFormed) (hq : q.WellFormed) (h : p.concat? q = some r) :
    r.WellFormed := by
  unfold concat? at h
  split at h
  · cases h
  · cases h
    refine ⟨Node.flagAll_flagAll .., ?_, Node.isNamed_flagAll ?_⟩
    · simp only [Node.wildcards_flagAll, Node.wildcards_append, Node.wildcards_shift,
        lastWildcard_eq hp, List.length_append, List.length_map]
      have moved : (Node.wildcards q.nodes).map (· + (Node.wildcards p.nodes).length) =
          List.range' (1 + (Node.wildcards p.nodes).length) (Node.wildcards q.nodes).length := by
        have := congrArg (List.map ((Node.wildcards p.nodes).length + ·)) hq.numbered
        rw [List.map_add_range'] at this
        simpa only [Nat.add_comm] using this
      have joined := @List.range'_append 1 (Node.wildcards p.nodes).length
        (Node.wildcards q.nodes).length 1
      rw [moved, ← joined, ← hp.numbered, Nat.one_mul]
    · refine List.forall_mem_append.2 ⟨hp.named, fun n hn => ?_⟩
      obtain ⟨m, hm, rfl⟩ := List.mem_map.1 hn
      exact Node.isNamed_shift (hq.named m hm)

/-- Every pattern that can be made is well formed. -/
theorem Formed.wellFormed (h : p.Formed) : p.WellFormed := by
  induction h with
  | parse s => exact wellFormed_parse s
  | literal t => exact ⟨rfl, rfl, by simp [Pattern.literal, Node.IsNamed]⟩
  | empty => exact ⟨rfl, rfl, nofun⟩
  | withRoot root _ ih => exact ⟨ih.flagged, ih.numbered, ih.named⟩
  | concat _ _ h ihp ihq => exact wellFormed_concat ihp ihq h

end Pattern

end LocalePaths
