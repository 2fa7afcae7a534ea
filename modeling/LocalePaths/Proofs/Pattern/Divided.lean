import LocalePaths.Proofs.Pattern.Depth
import LocalePaths.Proofs.Pattern.Grammar
import LocalePaths.Proofs.Pattern.Rendering
import LocalePaths.Proofs.Pattern.Representation

/-!
# Literal text divided into characters

How literal text is divided into nodes has no influence on what nodes are rendered to. What two divisions
have in common are the nodes with one node for each character (`Node.split`); patterns are alike if they
have these in common (`Pattern.Alike`). A pattern that is joined from two texts is like the pattern of both
texts in a row, provided that the first ends in a separator (`Pattern.alike_concat`).
-/

namespace LocalePaths

namespace Node
variable {seen seen' : List Text} {n : Node} {ms ns : List Node} {t : Text} {k : Nat}

def letters (t : Text) : List Node := t.map fun c => literal [c]

def chars : Node → List Node
  | literal t => letters t
  | n => [n]

/-- The nodes with one node for each character of literal text. -/
def split (ns : List Node) : List Node := ns.flatMap chars

theorem split_append (ms ns : List Node) : split (ms ++ ns) = split ms ++ split ns := List.flatMap_append

theorem flag_flag_of : (n.flag seen').flag seen = n.flag seen := by cases n <;> rfl

theorem flagAll_letters (t : Text) : flagAll seen (letters t ++ ns) = letters t ++ flagAll seen ns := by
  induction t with
  | nil => rfl
  | cons c t ih => exact congrArg (literal [c] :: ·) ih

theorem split_flagAll (seen : List Text) (ns : List Node) :
    split (flagAll seen ns) = flagAll seen (split ns) := by
  induction ns generalizing seen with
  | nil => rfl
  | cons n ns ih =>
    cases n with
    | literal t => exact (congrArg (letters t ++ ·) (ih seen)).trans (flagAll_letters t).symm
    | star | starstar | «variable» | android => exact congrArg (_ :: ·) (ih _)

/-- Flags that have been set before have no influence. -/
theorem flagAll_reset (seen : List Text) (ns ms : List Node) (k : Nat) :
    flagAll seen (flagAll [] ns ++ (flagAll [] ms).map (shift k)) = flagAll seen (ns ++ ms.map (shift k)) := by
  have second : ∀ (seen seen' : List Text) (ms : List Node),
      flagAll seen ((flagAll seen' ms).map (shift k)) = flagAll seen (ms.map (shift k)) := by
    intro seen seen' ms
    induction ms generalizing seen seen' with
    | nil => rfl
    | cons m ms ih =>
      show (shift k (m.flag seen')).flag seen :: _ = (shift k m).flag seen :: _
      have same : ((m.flag seen').shift k).flag seen = (m.shift k).flag seen ∧
          ((m.flag seen').shift k).variableName = (m.shift k).variableName := by cases m <;> exact ⟨rfl, rfl⟩
      rw [same.1, same.2, ih]
  have first : ∀ (seen seen' : List Text) (ns ms ms' : List Node),
      (∀ seen, flagAll seen ms = flagAll seen ms') →
        flagAll seen (flagAll seen' ns ++ ms) = flagAll seen (ns ++ ms') := by
    intro seen seen' ns ms ms' h
    induction ns generalizing seen seen' with
    | nil => exact h seen
    | cons n ns ih =>
      rw [flagAll, List.cons_append, flagAll, List.cons_append, flagAll, flag_flag_of, variableName_flag, ih]
  exact first seen [] ns _ _ fun seen => second seen [] ms

end Node

namespace Pattern
variable {p q : Pattern} {id k : Nat} {run : Text} {ts us : List Token}

theorem split_literal? (run : Text) : Node.split (literal? run) = Node.letters run :=
  flatMap_literal? rfl run

theorem split_part {n : Node} (hn : n.chars = [n]) (ns : List Node) :
    Node.split (literal? run ++ n :: ns) = Node.letters run ++ n :: Node.split ns := by
  rw [Node.split_append, split_literal?, Node.split, List.flatMap_cons, hn]
  rfl

theorem length_wildcards_part (run : Text) (n : Node) (ns : List Node) :
    (Node.wildcards (literal? run ++ n :: ns)).length =
      n.wildcardId.toList.length + (Node.wildcards ns).length := by
  rw [Node.wildcards_append, wildcards_literal?, Node.wildcards_cons, List.nil_append, List.length_append]

/-- The node of a variable. -/
theorem variable_part (x : Text) : ∃ n : Node, n.chars = [n] ∧ n.wildcardId = none ∧
    (if x = androidLocale then Node.android false else .variable x false) = n := by
  split
  · exact ⟨_, rfl, rfl, rfl⟩
  · exact ⟨_, rfl, rfl, rfl⟩

theorem split_ofTokens_run : Node.split (ofTokens id run ts) =
    Node.letters run ++ Node.split (ofTokens id [] ts) := by
  induction ts generalizing run with
  | nil => rfl
  | cons k ts ih =>
    cases k with
    | char c =>
      rw [ofTokens, ofTokens, ih, @ih ([] ++ [c]), ← List.append_assoc, Node.letters, List.map_append]
      rfl
    | star | starstar => exact (split_part rfl _).trans rfl
    | name x =>
      obtain ⟨n, hn, -, e⟩ := variable_part x
      rw [ofTokens, ofTokens, e, split_part hn, split_part hn]
      rfl

theorem literal?_shift (run : Text) (k : Nat) : (literal? run).map (Node.shift k) = literal? run := by
  unfold literal?
  split <;> rfl

theorem ofTokens_shift (id k : Nat) (run : Text) (ts : List Token) :
    ofTokens (id + k) run ts = (ofTokens id run ts).map (Node.shift k) := by
  induction ts generalizing id run with
  | nil => rfl
  | cons token ts ih =>
    cases token with
    | char c => exact ih id (run ++ [c])
    | star | starstar =>
      rw [ofTokens, ofTokens, List.map_append, literal?_shift, List.map_cons, Nat.add_right_comm, ih]
      rfl
    | name x =>
      rw [ofTokens, ofTokens, List.map_append, literal?_shift, List.map_cons, ih]
      split <;> rfl

/-- The nodes of tokens that follow others are numbered on. -/
theorem split_ofTokens_append : Node.split (ofTokens id run (ts ++ us)) =
    Node.split (ofTokens id run ts) ++
      Node.split (ofTokens (id + (Node.wildcards (ofTokens id run ts)).length) [] us) := by
  induction ts generalizing id run with
  | nil =>
    have last : Node.split (ofTokens id run []) = Node.letters run := List.append_nil _
    rw [last]
    exact split_ofTokens_run
  | cons token ts ih =>
    cases token with
    | char c => exact ih
    | star | starstar =>
      rw [List.cons_append, ofTokens, ofTokens, length_wildcards_part, split_part rfl, split_part rfl, ih,
        Nat.add_assoc, List.append_assoc]
      rfl
    | name x =>
      obtain ⟨n, hn, unnumbered, e⟩ := variable_part x
      rw [List.cons_append, ofTokens, ofTokens, length_wildcards_part, e, split_part hn, split_part hn, ih,
        unnumbered, List.append_assoc]
      simp

end Pattern

/-! ### Rendering -/

theorem Scope.exists_depth (s : Scope) : ∃ d, s.depth = d + 1 :=
  ⟨s.depth - 1, by have := s.visible_lt_depth; omega⟩

section
variable {s : Scope} {mode : Mode} {d : Nat} {ns : List Node} {t : Text}

theorem renderNodes_letters (t : Text) (ns : List Node) :
    renderNodes (d + 1) mode s (Node.letters t ++ ns) =
      (renderNodes (d + 1) mode s ns).map (Rendered.prepend t) := by
  induction t with
  | nil => exact (congrFun Option.map_id _).symm
  | cons c t ih =>
    show renderNodes (d + 1) mode s (.literal [c] :: (Node.letters t ++ ns)) = _
    rw [renderNodes_cons, ih]
    cases renderNodes (d + 1) mode s ns <;> rfl

/-- How literal text is divided has no influence on what nodes are rendered to. -/
theorem renderNodes_split (ns : List Node) :
    renderNodes (d + 1) mode s (Node.split ns) = renderNodes (d + 1) mode s ns := by
  induction ns with
  | nil => rfl
  | cons n ns ih =>
    cases n with
    | literal t =>
      refine (renderNodes_letters t (Node.split ns)).trans ?_
      rw [ih, renderNodes_cons]
      rfl
    | star | starstar | «variable» | android =>
      refine (renderNodes_cons d mode s _ (Node.split ns)).trans ?_
      rw [ih, renderNodes_cons]

/-- The first of the nodes that are not divided starts with the same character. -/
theorem head?_renderNodes_split (h : ns.head? ≠ some (.literal [])) :
    (renderNodes (d + 1) mode s ((Node.split ns).take 1)).map (·.text.head?) =
      (renderNodes (d + 1) mode s (ns.take 1)).map (·.text.head?) := by
  cases ns with
  | nil => rfl
  | cons n ns =>
    cases n with
    | literal t =>
      cases t with
      | nil => exact absurd rfl h
      | cons c t => rfl
    | star | starstar | «variable» | android => rfl

end

namespace Pattern
variable {p q : Pattern} {s t : Text} {root : Option Text}

/-- The patterns differ only in how literal text is divided into nodes. A root sees the first node alone,
which is not empty then. -/
structure Alike (p q : Pattern) : Prop where
  nodes : Node.split p.nodes = Node.split q.nodes
  root : p.root = q.root
  first : p.root ≠ none → p.nodes.head? ≠ some (.literal []) ∧ q.nodes.head? ≠ some (.literal [])

theorem Alike.text (h : p.Alike q) : p.text = q.text := by
  have divided : ∀ ns : List Node, (Node.split ns).flatMap Node.text = ns.flatMap Node.text := by
    intro ns
    rw [Node.split, List.flatMap_assoc]
    refine List.flatMap_congr fun n _ => ?_
    cases n with
    | literal t => exact (List.flatMap_map ..).trans (List.flatMap_singleton' t)
    | star | starstar | «variable» | android => exact List.append_nil _
  show p.nodes.flatMap Node.text = q.nodes.flatMap Node.text
  rw [← divided, h.nodes, divided]

theorem Alike.rootText (h : p.Alike q) (scope : Scope) : p.rootText scope = q.rootText scope := by
  unfold Pattern.rootText
  rw [← h.root]
  cases hr : p.root with
  | none => rfl
  | some root =>
    obtain ⟨hp, hq⟩ := h.first (by simp [hr])
    obtain ⟨d, hd⟩ := scope.exists_depth
    have start : (renderNodes (d + 1) .halt scope (p.nodes.take 1)).map (·.text.head?) =
        (renderNodes (d + 1) .halt scope (q.nodes.take 1)).map (·.text.head?) := by
      rw [← head?_renderNodes_split hp, h.nodes, head?_renderNodes_split hq]
    have heads : ∀ r : Option Rendered, (r.map fun first => if first.text.head? = some '/' then [] else root) =
        (r.map (·.text.head?)).map fun c => if c = some '/' then [] else root := by
      intro r
      cases r <;> rfl
    simp only [hd, heads, start]

theorem Alike.render (h : p.Alike q) (mode : Mode) (scope : Scope) :
    p.render mode scope = q.render mode scope := by
  obtain ⟨d, hd⟩ := scope.exists_depth
  unfold Pattern.render
  rw [h.rootText, hd, ← renderNodes_split p.nodes, h.nodes, renderNodes_split]

theorem split_takeWhile (ns : List Node) : Node.split (ns.takeWhile fun n => !n.isWildcard) =
    (Node.split ns).takeWhile fun n => !n.isWildcard := by
  induction ns with
  | nil => rfl
  | cons n ns ih =>
    cases n with
    | literal t =>
      have plain : ∀ n ∈ Node.letters t, (!n.isWildcard) = true := by
        intro n hn
        obtain ⟨c, -, rfl⟩ := List.mem_map.1 hn
        rfl
      exact (congrArg (Node.letters t ++ ·) ih).trans (List.takeWhile_append_of_pos plain).symm
    | star | starstar => rfl
    | «variable» | android => exact congrArg (_ :: ·) ih

/-- The stems of patterns that can be made are alike. -/
theorem Alike.stem (h : p.Alike q) (hp : p.Formed) (hq : q.Formed) : p.stem.Alike q.stem := by
  have nodes : ∀ {p : Pattern}, p.Formed → p.stem.nodes = p.nodes.takeWhile fun n => !n.isWildcard := by
    intro p hp
    show p.nodes.take p.stemLength = _
    rw [hp.stemLength_eq, List.takeWhile_eq_take_findIdx_not]
    simp only [Bool.not_not]
  have first : ∀ {ns : List Node}, ns.head? ≠ some (.literal []) →
      (ns.takeWhile fun n => !n.isWildcard).head? ≠ some (.literal []) := by
    intro ns h e
    rw [List.head?_takeWhile, Option.filter_eq_some_iff] at e
    exact h e.1
  refine ⟨?_, h.root, fun rooted => ?_⟩
  · rw [nodes hp, nodes hq, split_takeWhile, split_takeWhile, h.nodes]
  · rw [nodes hp, nodes hq]
    exact ⟨first (h.first rooted).1, first (h.first rooted).2⟩

theorem head?_part {run : Text} {n : Node} {ns : List Node} (hn : ∀ seen, n.flag seen ≠ .literal []) :
    ∃ m ms, literal? run ++ n :: ns = m :: ms ∧ ∀ seen, m.flag seen ≠ .literal [] := by
  unfold literal?
  split
  · exact ⟨n, ns, rfl, hn⟩
  · rename_i nonempty
    exact ⟨_, _, rfl, fun _ e => nonempty (Node.literal.inj e)⟩

theorem head?_ofTokens : ∀ {ts : List Token} {id : Nat} {run : Text}, run ≠ [] ∨ ts ≠ [] →
    ∃ n ns, ofTokens id run ts = n :: ns ∧ ∀ seen, n.flag seen ≠ .literal []
  | [], id, run, h => ⟨_, _, rfl, fun _ e => absurd (Node.literal.inj e) (h.resolve_right fun h => h rfl)⟩
  | .char c :: ts, id, run, _ =>
    have nonempty : run ++ [c] ≠ [] := by simp
    show ∃ n ns, ofTokens id (run ++ [c]) ts = n :: ns ∧ _ from head?_ofTokens (.inl nonempty)
  | .star :: ts, id, run, _ | .starstar _ :: ts, id, run, _ => head?_part (by simp [Node.flag])
  | .name x :: ts, id, run, _ => head?_part (by split <;> simp [Node.flag])

theorem head?_flagAll_ofTokens {ts : List Token} (h : ts ≠ []) (id : Nat) (ms : List Node) :
    (Node.flagAll [] (ofTokens id [] ts ++ ms)).head? ≠ some (.literal []) := by
  obtain ⟨n, ns, e, other⟩ : ∃ n ns, ofTokens id [] ts = n :: ns ∧ ∀ seen, n.flag seen ≠ .literal [] :=
    head?_ofTokens (.inr h)
  rw [e]
  exact fun e => other [] (Option.some.inj e)

/-- Text that is empty or ends in a separator can be joined before or after it is read. -/
theorem alike_concat (h : Token.IsLead s) (t : Text) : ∃ p, (parse s).concat? (parse t) = some p ∧
    ∀ root, (root ≠ none → s ≠ []) → (p.withRoot root).Alike ((parse (s ++ t)).withRoot root) := by
  have joined : (parse s).concat? (parse t) = some _ := rfl
  refine ⟨_, joined, fun root rooted => ⟨?_, rfl, fun r => ?_⟩⟩
  · have last : (parse s).lastWildcard = (Node.wildcards (ofTokens 1 [] (Token.ofText s))).length := by
      rw [lastWildcard_eq (wellFormed_parse s)]
      exact congrArg List.length (Node.wildcards_flagAll ..)
    show Node.split (Node.flagAll [] ((parse s).nodes ++ _)) = Node.split (parse (s ++ t)).nodes
    rw [last]
    show Node.split (Node.flagAll [] (Node.flagAll [] _ ++ (Node.flagAll [] _).map _)) =
      Node.split (Node.flagAll [] _)
    rw [Node.flagAll_reset, Node.split_flagAll, Node.split_flagAll, Token.ofText_append h,
      split_ofTokens_append, ofTokens_shift, Node.split_append]
  · have nonempty : Token.ofText s ≠ [] := fun e => rooted r (Token.eq_nil_of_tokens e)
    refine ⟨?_, ?_⟩
    · show (Node.flagAll [] (Node.flagAll [] _ ++ (Node.flagAll [] _).map _)).head? ≠ _
      rw [Node.flagAll_reset]
      exact head?_flagAll_ofTokens nonempty 1 _
    · show (Node.flagAll [] _).head? ≠ _
      rw [Token.ofText_append h, ← List.append_nil (ofTokens _ _ _)]
      exact head?_flagAll_ofTokens (List.append_ne_nil_of_left_ne_nil nonempty _) 1 []

end Pattern

end LocalePaths
