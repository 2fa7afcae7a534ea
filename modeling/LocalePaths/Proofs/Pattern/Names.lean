import LocalePaths.Proofs.Pattern.Tokens

/-!
# The names in patterns

Variables are named by words, which consist of letters, digits and underscores. Every name in a pattern
that can be made is such a word (`Pattern.Formed.isWorded`), since concatenation and flags leave names
as they are.
-/

namespace LocalePaths

namespace Token
variable {atStart : Bool} {s rest x : Text}

/-- Whether the text can be the name of a variable. -/
def IsWord (x : Text) : Prop := x ≠ [] ∧ ∀ c ∈ x, isNameChar c = true

theorem isWord_of_name? (h : name? s = some (x, rest)) : IsWord x := by
  unfold name? at h
  dsimp only at h
  split at h
  · rename_i c word rest' hword _
    cases h
    refine ⟨List.cons_ne_nil c word, fun d hd => ?_⟩
    rw [← hword] at hd
    exact List.all_eq_true.1 List.all_takeWhile d hd
  · cases h

theorem isWord_of_next? (h : next? atStart s = some (.name x, rest)) : IsWord x := by
  obtain ⟨u, -, read⟩ := next?_eq_some.1 h
  exact isWord_of_name? read

theorem isWord_of_mem_scan : ∀ {fuel : Nat} {atStart : Bool} {s : Text},
    .name x ∈ scan fuel atStart s → IsWord x
  | 0, _, _, h => nomatch h
  | fuel + 1, atStart, s, h => by
    unfold scan at h
    split at h
    · cases h
    · rename_i t rest ht
      rcases List.mem_cons.1 h with e | h
      · rw [← e] at ht
        exact isWord_of_next? ht
      · exact isWord_of_mem_scan h

end Token

namespace Node
variable {n : Node} {ns : List Node}

/-- Whether the node is named by a word, if it is a variable. -/
def IsWorded (n : Node) : Prop := ∀ x, n.variableName = some x → Token.IsWord x

theorem isWorded_flagAll : ∀ {seen : List Text} {ns : List Node}, (∀ n ∈ ns, n.IsWorded) →
    ∀ n ∈ flagAll seen ns, n.IsWorded
  | _, [], _ => nofun
  | seen, n :: ns, h => by
    obtain ⟨hn, hns⟩ := List.forall_mem_cons.1 h
    refine List.forall_mem_cons.2 ⟨fun x hx => ?_, isWorded_flagAll hns⟩
    rw [variableName_flag] at hx
    exact hn x hx

theorem isWorded_shift {k : Nat} (h : n.IsWorded) : (n.shift k).IsWorded := by
  cases n <;> exact h

end Node

namespace Pattern
variable {p : Pattern}

theorem isWorded_literal? {run : Text} : ∀ n ∈ literal? run, n.IsWorded := by
  unfold literal?
  split
  · nofun
  · exact List.forall_mem_singleton.2 nofun

theorem isWorded_ofTokens : ∀ (ts : List Token) (id : Nat) (run : Text),
    (∀ x, .name x ∈ ts → Token.IsWord x) → ∀ n ∈ ofTokens id run ts, n.IsWorded
  | [], _, _, _ => List.forall_mem_singleton.2 nofun
  | .char c :: ts, id, run, h =>
    isWorded_ofTokens ts id (run ++ [c]) fun x hx => h x (List.mem_cons_of_mem _ hx)
  | .star :: ts, id, run, h | .starstar _ :: ts, id, run, h => by
    have later := isWorded_ofTokens ts (id + 1) [] fun x hx => h x (List.mem_cons_of_mem _ hx)
    exact List.forall_mem_append.2 ⟨isWorded_literal?, List.forall_mem_cons.2 ⟨nofun, later⟩⟩
  | .name word :: ts, id, run, h => by
    have later := isWorded_ofTokens ts id [] fun x hx => h x (List.mem_cons_of_mem _ hx)
    refine List.forall_mem_append.2 ⟨isWorded_literal?, List.forall_mem_cons.2 ⟨fun x hx => ?_, later⟩⟩
    have named : word = x := by
      split at hx
      · rename_i e
        exact e.trans (Option.some.inj hx)
      · exact Option.some.inj hx
    exact named ▸ h word List.mem_cons_self

/-- The variables of a pattern that can be made are named by words. -/
theorem Formed.isWorded (h : p.Formed) : ∀ n ∈ p.nodes, n.IsWorded := by
  induction h with
  | parse s =>
    have tokens : ∀ x, .name x ∈ Token.ofText s → Token.IsWord x := fun x => Token.isWord_of_mem_scan
    exact Node.isWorded_flagAll (isWorded_ofTokens _ 1 [] tokens)
  | literal text => exact List.forall_mem_singleton.2 nofun
  | empty => nofun
  | withRoot root _ ih => exact ih
  | @concat p q r _ _ h ihp ihq =>
    unfold concat? at h
    split at h
    · cases h
    · cases h
      refine Node.isWorded_flagAll (List.forall_mem_append.2 ⟨ihp, fun n hn => ?_⟩)
      obtain ⟨m, hm, rfl⟩ := List.mem_map.1 hn
      exact Node.isWorded_shift (ihq m hm)

end Pattern

end LocalePaths
