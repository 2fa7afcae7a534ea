import LocalePaths.Proofs.Pattern.Grammar

/-!
# The nodes of a text

A text is put together from the written forms of its nodes (`Pattern.ReadFrom`): there is one node for each
token that occurs in it, and the nodes between them are literal text. Literal text is never divided, and it
is empty only at the end (`Pattern.LiteralsApart`). Joining characters to literal text moves no token
(`Pattern.exists_joins`).
-/

namespace LocalePaths

namespace Node
variable {n : Node} {seen : List Text}

/-- The token that the node is read from, unless it is literal text. -/
def token? : Node → Option Token
  | literal _ => none
  | star _ => some .star
  | starstar _ ending => some (.starstar ending)
  | «variable» name _ => some (.name name)
  | android _ => some (.name androidLocale)

/-- The text is a written form of the node. -/
def Spells (n : Node) (t : Text) : Prop :=
  match n.token? with
  | none => t = n.text
  | some k => k.Spells t

@[simp] theorem token?_flag : (n.flag seen).token? = n.token? := by cases n <;> rfl

end Node

namespace Pattern

theorem flagAll_literal? (seen : List Text) (run : Text) (n : Node) (ns : List Node) :
    Node.flagAll seen (literal? run ++ n :: ns) =
      literal? run ++ n.flag seen :: Node.flagAll (n.variableName.toList ++ seen) ns := by
  unfold literal?
  split <;> rfl

/-- The nodes in their spans are the tokens in theirs, behind a run of characters. -/
structure Joins (run : Text) (ts : List Token) (spans : List Text) (ns : List Node) (parts : List Text) :
    Prop where
  spelled : List.Forall₂ Node.Spells ns parts
  whole : parts.flatten = run ++ spans.flatten
  occurs : ∀ place k, (∃ n, StandsAt ns parts place n ∧ n.token? = some k) ↔
    ∃ p, place = run.length + p ∧ StandsAt ts spans p k ∧ ∀ c, k ≠ .char c

section Joins
variable {run t : Text} {ts : List Token} {spans parts : List Text} {n : Node} {ns : List Node} {k : Token}
  {c : Char}

theorem joins_nil (run : Text) : Joins run [] [] [.literal run] [run] where
  spelled := .cons rfl .nil
  whole := rfl
  occurs place k := by
    refine iff_of_false ?_ ?_
    · rintro ⟨n, stands, hn⟩
      rcases standsAt_cons.1 stands with ⟨-, rfl⟩ | ⟨p, -, later⟩
      · cases hn
      · exact standsAt_nil later
    · rintro ⟨p, -, stands, -⟩
      exact standsAt_nil stands

theorem Joins.char (h : Joins (run ++ [c]) ts spans ns parts) :
    Joins run (.char c :: ts) ([c] :: spans) ns parts where
  spelled := h.spelled
  whole := by rw [h.whole, List.append_assoc, List.flatten_cons]
  occurs place k := by
    rw [h.occurs, List.length_append]
    constructor
    · rintro ⟨p, rfl, stands, token⟩
      exact ⟨1 + p, Nat.add_assoc .., standsAt_cons.2 (.inr ⟨p, rfl, stands⟩), token⟩
    · rintro ⟨p, rfl, stands, token⟩
      rcases standsAt_cons.1 stands with ⟨-, rfl⟩ | ⟨q, rfl, later⟩
      · exact absurd rfl (token c)
      · exact ⟨q, (Nat.add_assoc ..).symm, later, token⟩

theorem Joins.cons (h : Joins [] ts spans ns parts) (hn : n.token? = some k) (token : ∀ c, k ≠ .char c)
    (ht : k.Spells t) : Joins [] (k :: ts) (t :: spans) (n :: ns) (t :: parts) where
  spelled := .cons (by rwa [Node.Spells, hn]) h.spelled
  whole := congrArg (t ++ ·) h.whole
  occurs place k' := by
    have later := fun p => h.occurs p k'
    simp only [List.length_nil, Nat.zero_add, exists_eq_left'] at later ⊢
    rw [standsAt_cons]
    constructor
    · rintro ⟨m, stands, hm⟩
      rcases standsAt_cons.1 stands with ⟨rfl, rfl⟩ | ⟨p, rfl, behind⟩
      · obtain rfl := Option.some.inj (hn.symm.trans hm)
        exact ⟨.inl ⟨rfl, rfl⟩, token⟩
      · obtain ⟨stands, token⟩ := (later p).1 ⟨m, behind, hm⟩
        exact ⟨.inr ⟨p, rfl, stands⟩, token⟩
    · rintro ⟨⟨rfl, rfl⟩ | ⟨p, rfl, behind⟩, token⟩
      · exact ⟨n, standsAt_cons.2 (.inl ⟨rfl, rfl⟩), hn⟩
      · obtain ⟨m, stands, hm⟩ := (later p).2 ⟨behind, token⟩
        exact ⟨m, standsAt_cons.2 (.inr ⟨p, rfl, stands⟩), hm⟩

theorem Joins.literal? (h : Joins [] ts spans ns parts) (run : Text) :
    ∃ parts', Joins run ts spans (literal? run ++ ns) parts' := by
  unfold Pattern.literal?
  split
  · rename_i empty
    subst empty
    exact ⟨parts, h⟩
  · refine ⟨run :: parts, .cons rfl h.spelled, congrArg (run ++ ·) h.whole, fun place k => ?_⟩
    have later := fun p => h.occurs p k
    simp only [List.length_nil, Nat.zero_add, exists_eq_left'] at later
    simp only [← later]
    constructor
    · rintro ⟨m, stands, hm⟩
      rcases standsAt_cons.1 stands with ⟨-, rfl⟩ | ⟨p, rfl, behind⟩
      · cases hm
      · exact ⟨p, rfl, m, behind, hm⟩
    · rintro ⟨p, rfl, m, behind, hm⟩
      exact ⟨m, standsAt_cons.2 (.inr ⟨p, rfl, behind⟩), hm⟩

/-- The tokens are joined to nodes without a gap, whatever names have been seen. -/
theorem exists_joins (spelled : List.Forall₂ Token.Spells ts spans) (seen : List Text) (id : Nat)
    (run : Text) : ∃ parts, Joins run ts spans (Node.flagAll seen (ofTokens id run ts)) parts := by
  induction spelled generalizing seen id run with
  | nil => exact ⟨_, joins_nil run⟩
  | @cons k t ts spans first _ ih =>
    cases k with
    | char c =>
      obtain rfl : t = [c] := first
      obtain ⟨parts, h⟩ := ih seen id (run ++ [c])
      exact ⟨parts, h.char⟩
    | star | starstar ending =>
      rw [ofTokens, flagAll_literal?]
      obtain ⟨parts, h⟩ := ih seen (id + 1) []
      exact (h.cons rfl (by simp) first).literal? run
    | name x =>
      rw [ofTokens, flagAll_literal?]
      obtain ⟨parts, h⟩ := ih _ id []
      refine (h.cons ?_ (by simp) first).literal? run
      rw [Node.token?_flag]
      split
      · rename_i e
        rw [e]
        rfl
      · rfl

end Joins

/-- Literal text is not divided: no two nodes of it follow each other. The last node is literal text, and
it alone may be empty. -/
structure LiteralsApart (ns : List Node) : Prop where
  apart : ns.IsChain fun n m => n.token? ≠ none ∨ m.token? ≠ none
  last : ∃ front t, ns = front ++ [.literal t] ∧ .literal [] ∉ front

theorem LiteralsApart.cons {n : Node} {ns : List Node} (h : LiteralsApart ns) (hn : n.token? ≠ none)
    (run : Text) : LiteralsApart (literal? run ++ n :: ns) := by
  have apart : (n :: ns).IsChain fun n m => n.token? ≠ none ∨ m.token? ≠ none := by
    cases ns with
    | nil => exact .singleton n
    | cons m ns => exact .cons_cons (.inl hn) h.apart
  have other : n ≠ .literal [] := by
    rintro rfl
    exact hn rfl
  obtain ⟨front, t, rfl, nonempty⟩ := h.last
  unfold literal?
  split
  · exact ⟨apart, n :: front, t, rfl, by simp [other.symm, nonempty]⟩
  · rename_i hrun
    have nonempty : .literal [] ∉ .literal run :: n :: front := by
      simp [other.symm, nonempty, Ne.symm hrun]
    exact ⟨.cons_cons (.inr hn) apart, .literal run :: n :: front, t, rfl, nonempty⟩

theorem literalsApart_ofTokens (seen : List Text) (id : Nat) (run : Text) (ts : List Token) :
    LiteralsApart (Node.flagAll seen (ofTokens id run ts)) := by
  induction ts generalizing seen id run with
  | nil => exact ⟨.singleton _, [], run, rfl, List.not_mem_nil⟩
  | cons k ts ih =>
    cases k with
    | char c => exact ih seen id (run ++ [c])
    | star | starstar ending =>
      rw [ofTokens, flagAll_literal?]
      exact (ih seen (id + 1) []).cons (by simp [Node.flag, Node.token?]) run
    | name x =>
      rw [ofTokens, flagAll_literal?]
      refine (ih _ id []).cons ?_ run
      rw [Node.token?_flag]
      split <;> simp [Node.token?]

/-- The nodes are read from the text: each of them from its span, and the spans are the whole text. Nodes
that are no tokens are literal text. -/
structure ReadFrom (s : Text) (ns : List Node) (spans : List Text) : Prop where
  spelled : List.Forall₂ Node.Spells ns spans
  whole : spans.flatten = s
  /-- Of every token that occurs in the text there is exactly one node, at the place of the token. -/
  complete : ∀ (place : Nat) (k : Token), k.OccursAt s place →
    ∃! i, (∃ n, ns[i]? = some n ∧ n.token? = some k) ∧ (spans.take i).flatten.length = place
  /-- Every node of a token stands where this token occurs. -/
  sound : ∀ (i : Nat) (n : Node) (k : Token), ns[i]? = some n → n.token? = some k →
    k.OccursAt s (spans.take i).flatten.length
  /-- Only the node that is made for it has the name `androidLocale`. -/
  named : ∀ n ∈ ns, n.IsNamed

theorem Joins.readFrom {s : Text} {ts : List Token} {spans parts : List Text} {ns : List Node}
    (h : Joins [] ts spans ns parts) (whole : spans.flatten = s)
    (occurs : ∀ place k, k.OccursAt s place ↔ StandsAt ts spans place k ∧ ∀ c, k ≠ .char c)
    (named : ∀ n ∈ ns, n.IsNamed) : ReadFrom s ns parts := by
  have stands : ∀ place k, k.OccursAt s place ↔ ∃ n, StandsAt ns parts place n ∧ n.token? = some k := by
    intro place k
    rw [occurs, h.occurs]
    simp only [List.length_nil, Nat.zero_add, exists_eq_left']
  have increasing : ∀ {i j n k}, ns[i]? = some n → n.token? = some k → i < j →
      (parts.take i).flatten.length < (parts.take j).flatten.length := by
    intro i j n k hi hn lt
    obtain ⟨hlt, e⟩ := List.getElem?_eq_some_iff.1 hi
    have hlt' : i < parts.length := h.spelled.length_eq ▸ hlt
    have spells : n.Spells parts[i] := e ▸ h.spelled.get hlt hlt'
    rw [Node.Spells, hn] at spells
    exact length_flatten_take_lt (List.getElem?_eq_getElem hlt') spells.ne_nil lt
  refine ⟨h.spelled, h.whole.trans whole, fun place k found => ?_, fun i n k hi hn => ?_, named⟩
  · obtain ⟨n, ⟨i, hi, start⟩, hn⟩ := (stands place k).1 found
    refine ⟨i, ⟨⟨n, hi, hn⟩, start⟩, ?_⟩
    rintro j ⟨⟨m, hj, hm⟩, start'⟩
    rcases Nat.lt_trichotomy i j with lt | rfl | lt
    · have := increasing hi hn lt
      omega
    · rfl
    · have := increasing hj hm lt
      omega
  · exact (stands _ k).2 ⟨n, ⟨i, hi, rfl⟩, hn⟩

/-- What a text is read as: one node for each `**` that is a segment, for each other `*` and for each
variable in braces, in their order, and literal text between them. -/
theorem nodes_parse (s : Text) :
    (∃ spans, ReadFrom s (parse s).nodes spans) ∧ LiteralsApart (parse s).nodes := by
  obtain ⟨spans, spelled, whole, occurs⟩ := Token.exists_spans_ofText s
  obtain ⟨parts, joins⟩ := exists_joins spelled [] 1 []
  exact ⟨⟨parts, joins.readFrom whole occurs (wellFormed_parse s).named⟩, literalsApart_ofTokens [] 1 [] _⟩

end Pattern

end LocalePaths
