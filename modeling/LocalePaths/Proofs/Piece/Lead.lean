import LocalePaths.Proofs.Pattern.Tokens
import LocalePaths.Proofs.Piece.Generation

/-!
# Fixed text in front of a pattern

Nodes of tokens generate what the tokens do, however the characters are joined to literals: text in
front of other tokens comes first in what is generated (`Pattern.generatesAll_ofTokens`). So a pattern
whose first tokens are characters and a variable with one text generates this text and what its other
tokens generate (`Pattern.fixedText_of_generates`, `Pattern.generates_fixedText`).
-/

namespace LocalePaths

open Piece

namespace Environment
variable {env env' : Environment} {r r' : Text → Text} {W W' : Node → Text → Prop} {n : Node}
  {ms ns : List Node} {t u x : Text}

theorem generatesAll_literal : env.GeneratesAll r W [.literal u] t ↔ t = u := by
  simp [generatesAll_cons, generatesAll_nil, generates_literal]

theorem generatesAll_literal? : env.GeneratesAll r W (Pattern.literal? u) t ↔ t = u := by
  unfold Pattern.literal?
  split
  · rename_i e
    rw [generatesAll_nil, e]
  · exact generatesAll_literal

theorem generates_flag (seen : List Text) :
    env.Generates r W (n.flag seen) t ↔ env.Generates r W n t := by
  cases n with
  | literal | star | starstar => exact Iff.rfl
  | «variable» | android => exact (generates_variable rfl).trans (generates_variable rfl).symm

theorem generatesAll_flagAll : ∀ {ns : List Node} {seen : List Text} {t : Text},
    env.GeneratesAll r W (Node.flagAll seen ns) t ↔ env.GeneratesAll r W ns t
  | [], _, _ => Iff.rfl
  | n :: ns, seen, t => by
    simp only [Node.flagAll, generatesAll_cons, generates_flag, generatesAll_flagAll]

/-- What is generated does not depend on variables that do not occur, nor on the environment where the
variables that occur are not bound. -/
theorem GeneratesAll.congr (h : env.GeneratesAll r W ns t)
    (free : ∀ x ∈ Node.names ns, env.Resolves x none ∧ env'.Resolves x none ∧ r' x = r x)
    (wild : ∀ n t, W n t → W' n t) : env'.GeneratesAll r' W' ns t := by
  induction ns generalizing t with
  | nil => exact generatesAll_nil.2 (generatesAll_nil.1 h)
  | cons n ns ih =>
    obtain ⟨a, b, rfl, hn, hns⟩ := generatesAll_cons.1 h
    have names : ∀ x, n.variableName = some x → x ∈ Node.names (n :: ns) := fun x hx =>
      Node.mem_names.2 ⟨n, List.mem_cons_self, hx⟩
    refine .cons ?_ (ih hns fun x hx => free x ?_)
    · cases hn with
      | literal => exact .literal
      | wildcard hi hw => exact .wildcard hi (wild _ _ hw)
      | free hx _ hr =>
        obtain ⟨-, hf, same⟩ := free _ (names _ hx)
        exact same ▸ .free hx hf (same ▸ hr)
      | bound hx hb => cases (free _ (names _ hx)).1.unique hb
    · obtain ⟨m, hm, hx⟩ := Node.mem_names.1 hx
      exact Node.mem_names.2 ⟨m, List.mem_cons_of_mem n hm, hx⟩

end Environment

namespace Pattern
variable {env : Environment} {r : Text → Text} {W : Node → Text → Prop} {t lead : Text} {id : Nat}

theorem generatesAll_run {run : Text} {ns : List Node} : env.GeneratesAll r W (literal? run ++ ns) t ↔
    ∃ u, t = run ++ u ∧ env.GeneratesAll r W (literal? [] ++ ns) u := by
  have split : ∀ {run t : Text}, env.GeneratesAll r W (literal? run ++ ns) t ↔
      ∃ u, t = run ++ u ∧ env.GeneratesAll r W ns u := by
    intro run t
    simp only [Environment.generatesAll_append, Environment.generatesAll_literal?]
    constructor
    · rintro ⟨_, u, rfl, rfl, h⟩
      exact ⟨u, rfl, h⟩
    · rintro ⟨u, rfl, h⟩
      exact ⟨_, u, rfl, rfl, h⟩
  rw [split]
  refine exists_congr fun u => and_congr_right fun _ => ?_
  rw [split]
  simp

/-- Characters in front of tokens come first in what is generated. -/
theorem generatesAll_ofTokens : ∀ (ts : List Token) (id : Nat) (run t : Text),
    env.GeneratesAll r W (ofTokens id run ts) t ↔
      ∃ u, t = run ++ u ∧ env.GeneratesAll r W (ofTokens id [] ts) u
  | [], _, run, t => by simp [ofTokens, Environment.generatesAll_literal]
  | .char c :: ts, id, run, t => by
    rw [ofTokens, ofTokens, generatesAll_ofTokens ts id (run ++ [c]) t]
    simp only [List.nil_append, generatesAll_ofTokens ts id [c]]
    constructor
    · rintro ⟨u, rfl, h⟩
      exact ⟨c :: u, List.append_assoc .., u, rfl, h⟩
    · rintro ⟨_, rfl, u, rfl, h⟩
      exact ⟨u, (List.append_assoc run [c] u).symm, h⟩
  | .star :: _, _, _, _ | .starstar _ :: _, _, _, _ | .name _ :: _, _, _, _ => generatesAll_run

theorem generatesAll_char {c : Char} {ts : List Token} :
    env.GeneratesAll r W (ofTokens id [] (.char c :: ts)) t ↔
      ∃ u, t = c :: u ∧ env.GeneratesAll r W (ofTokens id [] ts) u :=
  generatesAll_ofTokens ts id [c] t

theorem generatesAll_name {x : Text} {ts : List Token} (named : x ≠ androidLocale) :
    env.GeneratesAll r W (ofTokens id [] (.name x :: ts)) t ↔
      ∃ a u, t = a ++ u ∧ env.Generates r W (.variable x false) a ∧
        env.GeneratesAll r W (ofTokens id [] ts) u := by
  rw [ofTokens, if_neg named]
  exact Environment.generatesAll_cons

end Pattern

/-! ### Fixed text -/

namespace Token

/-- The token is a character or the variable `x`. -/
def IsFixed (x : Text) (k : Token) : Prop := (∃ c, k = .char c) ∨ k = .name x

instance (x : Text) : (k : Token) → Decidable (k.IsFixed x)
  | .char c => isTrue (.inl ⟨c, rfl⟩)
  | .name y => decidable_of_iff (y = x) (by simp [IsFixed])
  | .star | .starstar _ => isFalse (by simp [IsFixed])

/-- The text of characters and of a variable whose text is `value`. -/
def fixedText (value : Text) (ks : List Token) : Text := ks.flatMap fun
  | .char c => [c]
  | .name _ => value
  | _ => []

end Token

namespace Pattern
variable {env : Environment} {r : Text → Text} {W : Node → Text → Prop} {t u x value : Text} {id : Nat}
  {ks ts : List Token}

/-- What is generated starts with the text of the first tokens if these are fixed. -/
theorem fixedText_of_generates (named : x ≠ androidLocale)
    (var : .name x ∈ ks → ∀ t, env.Generates r W (.variable x false) t → t = value)
    (fixed : ∀ k ∈ ks, k.IsFixed x) (h : env.GeneratesAll r W (ofTokens id [] (ks ++ ts)) t) :
    ∃ u, t = Token.fixedText value ks ++ u ∧ env.GeneratesAll r W (ofTokens id [] ts) u := by
  induction ks generalizing t with
  | nil => exact ⟨t, rfl, h⟩
  | cons k ks ih =>
    obtain ⟨hk, hks⟩ := List.forall_mem_cons.1 fixed
    have later := fun {t} => ih (t := t) (fun hx => var (List.mem_cons_of_mem k hx)) hks
    rcases hk with ⟨c, rfl⟩ | rfl
    · obtain ⟨u, rfl, hu⟩ := generatesAll_char.1 h
      obtain ⟨v, rfl, hv⟩ := later hu
      exact ⟨v, rfl, hv⟩
    · obtain ⟨a, u, rfl, hx, hu⟩ := (generatesAll_name named).1 h
      obtain ⟨v, rfl, hv⟩ := later hu
      exact ⟨v, by rw [var List.mem_cons_self a hx, ← List.append_assoc]; rfl, hv⟩

theorem generates_fixedText (named : x ≠ androidLocale)
    (var : .name x ∈ ks → env.Generates r W (.variable x false) value) (fixed : ∀ k ∈ ks, k.IsFixed x)
    (h : env.GeneratesAll r W (ofTokens id [] ts) u) :
    env.GeneratesAll r W (ofTokens id [] (ks ++ ts)) (Token.fixedText value ks ++ u) := by
  induction ks with
  | nil => exact h
  | cons k ks ih =>
    obtain ⟨hk, hks⟩ := List.forall_mem_cons.1 fixed
    have later := ih (fun hx => var (List.mem_cons_of_mem k hx)) hks
    rcases hk with ⟨c, rfl⟩ | rfl
    · exact generatesAll_char.2 ⟨_, rfl, later⟩
    · exact (generatesAll_name named).2 ⟨value, _, List.append_assoc .., var List.mem_cons_self, later⟩

end Pattern

end LocalePaths
