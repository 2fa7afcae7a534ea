import LocalePaths.Proofs.Pattern.Names
import LocalePaths.Proofs.Piece.Translation
import LocalePaths.Proofs.Regex.Lexeme

/-!
# How pieces are spelled

The written form of pieces consists of the lexemes that `Piece.lexemes` lists; text contributes a lexeme
for each of its characters, each of which stands for itself. The groups are closed where their pieces
end (`level_lexemes`) and nest as deep as the pieces do (`nesting_lexemes`). Pieces that are a
translation of nodes open no group twice (`TranslatesAll.nodup`) and refer to open groups only
(`TranslatesAll.refers`).
-/

namespace LocalePaths

theorem Environment.Resolves.isWorded {env : Environment} {x : Text} {ns : List Node}
    (he : ∀ x v, env.get? x = some v → v.Formed) (h : env.Resolves x (some ns)) :
    ∀ n ∈ ns, n.IsWorded := by
  generalize e : some ns = value at h
  cases h with
  | binding hx =>
    obtain ⟨v, hv, rfl⟩ := Option.map_eq_some_iff.1 e.symm
    exact (he x v hv).isWorded
  | code =>
    obtain rfl := Option.some.inj e
    exact List.forall_mem_singleton.2 nofun
  | noCode => cases e

namespace Piece
open Lexeme

mutual

/-- The lexemes of the written form of a piece. -/
def lexemes : Piece → List Lexeme
  | text t => t.map .char
  | star group => [.opening group, .set "^/".toList, .symbol '*', .closing]
  | starstar group ending =>
    .opening group :: .symbol '.' :: .symbol '+' :: ending.map .char ++ [.closing, .symbol '?']
  | free group => [.opening (some group), .symbol '.', .symbol '+', .symbol '?', .closing]
  | bound group body => .opening (some group) :: lexemesOf body ++ [.closing]
  | again group => [.reference group]

def lexemesOf : List Piece → List Lexeme
  | [] => []
  | p :: ps => p.lexemes ++ lexemesOf ps

end

/-- The lexemes of `wholeSource`. -/
def wholeLexemes (ps : List Piece) : List Lexeme := .symbol '^' :: lexemesOf ps ++ [.symbol '$']

variable {env : Environment} {o o' : List Text} {n : Node} {p : Piece} {ns : List Node}
  {ps : List Piece} {ls : List Lexeme} {k : Nat}

theorem escape_eq (t : Text) : escape t = (t.map Lexeme.char).flatMap Lexeme.text := by
  rw [List.flatMap_map]
  unfold escape Regex.quote
  simp only [isSpecial_eq_isMeta, Lexeme.text]

mutual

theorem source_eq : ∀ p : Piece, p.source = p.lexemes.flatMap Lexeme.text
  | text t => escape_eq t
  | star group => by simp [source, lexemes, Lexeme.text]
  | starstar group ending => by
    simp [source, lexemes, escape_eq, Lexeme.text, List.flatMap_append]
  | free group => by simp [source, lexemes, Lexeme.text]
  | bound group body => by
    simp [source, lexemes, sources_eq body, Lexeme.text, List.flatMap_append]
  | again group => by simp [source, lexemes, Lexeme.text]

theorem sources_eq : ∀ ps : List Piece, sources ps = (lexemesOf ps).flatMap Lexeme.text
  | [] => rfl
  | p :: ps => by rw [sources, lexemesOf, List.flatMap_append, source_eq p, sources_eq ps]

end

theorem wholeSource_eq (ps : List Piece) : wholeSource ps = (wholeLexemes ps).flatMap Lexeme.text := by
  rw [wholeSource, sources_eq]
  simp [wholeLexemes, Lexeme.text, List.flatMap_append]

/-! ### Groups are closed where pieces end -/

@[simp] theorem level_map_char (t : Text) : level k (t.map .char ++ ls) = level k ls := by
  induction t with
  | nil => rfl
  | cons c t ih => exact ih

@[simp] theorem nesting_map_char (t : Text) : nesting k (t.map .char ++ ls) = nesting k ls := by
  induction t with
  | nil => rfl
  | cons c t ih => exact ih

@[simp] theorem openings_map_char (t : Text) : openings (t.map .char) = [] := by
  induction t with
  | nil => rfl
  | cons c t ih => exact ih

@[simp] theorem refers_map_char (t : Text) : Refers o (t.map .char ++ ls) ↔ Refers o ls := by
  induction t with
  | nil => exact Iff.rfl
  | cons c t ih => exact ih

mutual

theorem level_lexemes : ∀ {k : Nat} {ls : List Lexeme} (p : Piece),
    level k (p.lexemes ++ ls) = level k ls
  | _, _, text t => level_map_char t
  | _, _, star _ | _, _, free _ | _, _, again _ => rfl
  | _, _, starstar group ending => by simp [lexemes, level]
  | _, _, bound group body => by simp [lexemes, level, level_lexemesOf body]

theorem level_lexemesOf : ∀ {k : Nat} {ls : List Lexeme} (ps : List Piece),
    level k (lexemesOf ps ++ ls) = level k ls
  | _, _, [] => rfl
  | _, _, p :: ps => by rw [lexemesOf, List.append_assoc, level_lexemes p, level_lexemesOf ps]

end

mutual

theorem nesting_lexemes : ∀ {k : Nat} {ls : List Lexeme} (p : Piece),
    nesting k (p.lexemes ++ ls) = max (k + p.depth) (nesting k ls)
  | k, ls, text t => by
    have := le_nesting k ls
    rw [lexemes, nesting_map_char, depth]
    omega
  | k, ls, again _ => by
    have := le_nesting k ls
    show nesting k ls = _
    rw [depth]
    omega
  | k, ls, star _ => by simp [lexemes, nesting, depth]
  | k, ls, free _ => by simp [lexemes, nesting, depth]
  | k, ls, starstar group ending => by simp [lexemes, nesting, depth]
  | k, ls, bound group body => by
    simp only [lexemes, nesting, depth, List.cons_append, List.append_assoc]
    rw [nesting_lexemesOf body]
    simp only [List.nil_append, nesting, Nat.add_sub_cancel]
    omega

theorem nesting_lexemesOf : ∀ {k : Nat} {ls : List Lexeme} (ps : List Piece),
    nesting k (lexemesOf ps ++ ls) = max (k + depths ps) (nesting k ls)
  | k, ls, [] => by
    have := le_nesting k ls
    rw [depths]
    show nesting k ls = _
    omega
  | k, ls, p :: ps => by
    rw [lexemesOf, List.append_assoc, nesting_lexemes p, nesting_lexemesOf ps, depths]
    omega

end

mutual

theorem openings_lexemes : ∀ p : Piece, openings p.lexemes = p.groups
  | text t => openings_map_char t
  | star _ => by simp [lexemes, openings, groups]
  | free _ => by simp [lexemes, openings, groups]
  | again _ => rfl
  | starstar group ending => by simp [lexemes, openings, openings_append, groups]
  | bound group body => by simp [lexemes, openings, openings_append, groups, openings_lexemesOf body]

theorem openings_lexemesOf : ∀ ps : List Piece, openings (lexemesOf ps) = groupsOf ps
  | [] => rfl
  | p :: ps => by
    rw [lexemesOf, openings_append, openings_lexemes p, openings_lexemesOf ps, groupsOf]

end

/-! ### The pieces of nodes -/

theorem not_mem_starName (id : Nat) : '>' ∉ starName id := by
  intro h
  rcases List.mem_cons.1 h with e | h
  · exact absurd e (by decide)
  · exact absurd (Nat.isDigit_of_mem_toDigits (by decide) (by decide) h) (by decide)

theorem not_mem_groupName {x : Text} (h : Token.IsWord x) : '>' ∉ groupName x := by
  intro hx
  rcases List.mem_cons.1 hx with e | hx
  · exact absurd e (by decide)
  · rcases List.mem_cons.1 hx with e | hx
    · exact absurd e (by decide)
    · exact absurd (h.2 _ hx) (by decide)

theorem isLegible_openOnce (id : Nat) : (Lexeme.opening (openOnce o (starName id)).1).IsLegible := by
  intro g hg
  rw [openOnce_eq (Option.mem_toList.2 hg)]
  exact not_mem_starName id

theorem isLegible_map_char (t : Text) : ∀ l ∈ t.map Lexeme.char, l.IsLegible := by
  intro l hl
  obtain ⟨c, -, rfl⟩ := List.mem_map.1 hl
  trivial

theorem isLegible_name {x : Text} (h : Token.IsWord x) :
    (Lexeme.opening (some (groupName x))).IsLegible := by
  rintro g ⟨⟩
  exact not_mem_groupName h

mutual

/-- The lexemes of a piece can be read back, since names are words. -/
theorem Translates.isLegible (he : ∀ x v, env.get? x = some v → v.Formed) : ∀ {o n p o'},
    Translates env o n p o' → n.IsWorded → ∀ l ∈ p.lexemes, l.IsLegible
  | _, _, _, _, .literal, _ => isLegible_map_char _
  | _, _, _, _, .star, _ => by
    refine List.forall_mem_cons.2 ⟨isLegible_openOnce _, ?_⟩
    simp [IsLegible]
  | _, _, _, _, .starstar, _ => by
    simp only [lexemes, List.cons_append, List.forall_mem_cons, List.forall_mem_append]
    refine ⟨isLegible_openOnce _, ?_, ?_, isLegible_map_char _, ?_⟩
    all_goals simp [IsLegible]
  | _, _, _, _, .again hx _, word => List.forall_mem_singleton.2 (not_mem_groupName (word _ hx))
  | _, _, _, _, .free hx _ _, word => by
    refine List.forall_mem_cons.2 ⟨isLegible_name (word _ hx), ?_⟩
    simp [IsLegible]
  | _, _, _, _, .bound hx _ value h, word => by
    simp only [lexemes, List.cons_append, List.forall_mem_cons, List.forall_mem_append]
    exact ⟨isLegible_name (word _ hx), h.isLegible he (value.isWorded he), trivial, nofun⟩

theorem TranslatesAll.isLegible (he : ∀ x v, env.get? x = some v → v.Formed) : ∀ {o ns ps o'},
    TranslatesAll env o ns ps o' → (∀ n ∈ ns, n.IsWorded) → ∀ l ∈ lexemesOf ps, l.IsLegible
  | _, _, _, _, .nil, _ => nofun
  | _, _, _, _, .cons hn h, words => by
    obtain ⟨word, words⟩ := List.forall_mem_cons.1 words
    exact List.forall_mem_append.2 ⟨hn.isLegible he word, h.isLegible he words⟩

end

mutual

theorem Translates.nodup : ∀ {o n p o'}, Translates env o n p o' → p.groups.Nodup
  | _, _, _, _, .literal | _, _, _, _, .again .. => List.nodup_nil
  | _, _, _, _, .star | _, _, _, _, .starstar => by
    show (Option.toList _).Nodup
    cases (openOnce _ _).1 <;> simp
  | _, _, _, _, .free .. => List.nodup_cons.2 ⟨List.not_mem_nil, List.nodup_nil⟩
  | _, _, _, _, .bound _ _ _ h =>
    List.nodup_cons.2 ⟨fun hg => h.fresh hg List.mem_cons_self, h.nodup⟩

theorem TranslatesAll.nodup : ∀ {o ns ps o'}, TranslatesAll env o ns ps o' → (groupsOf ps).Nodup
  | _, _, _, _, .nil => List.nodup_nil
  | _, _, _, _, .cons hn h => by
    refine List.nodup_append.2 ⟨hn.nodup, h.nodup, fun g hp g' hg e => ?_⟩
    exact h.fresh hg (e ▸ hn.mem_iff.2 (.inl hp))

end

theorem refers_openOnce {g : Text} : Refers o (.opening (openOnce o g).1 :: ls) ↔
    Refers (openOnce o g).2 ls := by
  unfold openOnce
  split <;> exact Iff.rfl

mutual

theorem Translates.refers : ∀ {o n p o' ls}, Translates env o n p o' → Refers o' ls →
    Refers o (p.lexemes ++ ls)
  | _, _, _, _, _, .literal, h => (refers_map_char _).2 h
  | _, _, _, _, _, .star, h => refers_openOnce.2 h
  | _, _, _, _, _, .starstar, h => by
    refine refers_openOnce.2 ?_
    simpa [Refers] using h
  | _, _, _, _, _, .again _ ho, h => ⟨ho, h⟩
  | _, _, _, _, _, .free .., h => h
  | _, _, _, _, ls, .bound _ _ _ hb, h => by
    -- the group is open within its own value, so a value that leads back to itself refers to it
    have : Refers _ (lexemesOf _ ++ .closing :: ls) := hb.refers h
    simpa [lexemes, Refers] using this

theorem TranslatesAll.refers : ∀ {o ns ps o' ls}, TranslatesAll env o ns ps o' → Refers o' ls →
    Refers o (lexemesOf ps ++ ls)
  | _, _, _, _, _, .nil, h => h
  | _, _, _, _, _, .cons hn hs, h => by
    rw [lexemesOf, List.append_assoc]
    exact hn.refers (hs.refers h)

end

end Piece

end LocalePaths
