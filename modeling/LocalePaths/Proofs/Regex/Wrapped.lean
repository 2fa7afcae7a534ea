import LocalePaths.Proofs.Regex.Anchored
import LocalePaths.Proofs.Regex.Rows

/-!
# Expressions behind an anchor

An expression that can be read on its own is, in a group behind `^`, the same expression behind an anchor
at the start of the text (`Regex.parse?_wrapped`). The group ends where it seems to.
-/

namespace LocalePaths.Regex

namespace Read
variable {n d limit : Nat} {t w : Text} {s u v : Reading} {r q : Regex}

theorem piece_caret : piece (n + 2) d (start limit ('^' :: '(' :: '?' :: ':' :: t)) =
    some (.anchor .textStart, start limit ('(' :: '?' :: ':' :: t)) := by
  rw [piece, atom]
  rfl

theorem group_start (hd : d < nestLimit) : group (n + 2) d (start limit ('?' :: ':' :: t)) =
    (inner (n + 1) d (start limit t)).map fun p => (p.1, { p.2 with flags := .none }) :=
  group_unnamed (w := start limit t) rfl hd n t

theorem atom_group : atom (n + 1) d (start limit ('(' :: '?' :: ':' :: t)) =
    group n (d + 1) (start limit ('?' :: ':' :: t)) := by
  rw [atom]
  rfl

theorem exists_atom (h : piece (n + 1) d s = some (q, u)) : ∃ r v, atom n d s = some (r, v) := by
  rw [piece, run_bind] at h
  obtain ⟨p, hp, -⟩ := Option.bind_eq_some_iff.1 h
  exact ⟨p.1, p.2, hp⟩

theorem exists_piece (hs : s.rest ≠ []) (h : row (n + 1) d s = some (q, u)) :
    ∃ r v, piece n d s = some (r, v) := by
  rw [row_succ, if_neg hs] at h
  obtain ⟨p, hp, -⟩ := Option.bind_eq_some_iff.1 h
  exact ⟨p.1, p.2, hp⟩

/-! Where an atom is the last of a text, the piece, the row and the alternatives are that atom. -/

theorem piece_of_atom (h : atom n d s = some (r, u)) (hu : u.rest = []) :
    piece (n + 1) d s = some (r, u) := by
  have still : blanks u = some ((), u) := by
    rw [run_blanks, hu, skipBlanks_nil, ← hu]
    rfl
  obtain ⟨_, flags, opened, named, byNumber, references, limit⟩ := u
  subst hu
  rw [piece, run_bind, h]
  show (blanks >>= _) _ = _
  rw [run_bind, still]
  rfl

theorem joined_empty (r : Regex) : joined r .empty = r := by
  cases r <;> rfl

theorem row_of_piece (hs : s.rest ≠ []) (h : piece (n + 1) d s = some (r, u)) (hu : u.rest = []) :
    row (n + 2) d s = some (r, u) := by
  have moved : u.rest.length ≠ s.rest.length := by
    rw [hu]
    exact fun e => hs (List.length_eq_zero_iff.1 e.symm)
  rw [row_succ, if_neg hs, h, Option.bind_some, if_neg moved, row_succ, if_pos hu]
  exact congrArg (fun r => some (r, u)) (joined_empty r)

theorem alternatives_of_row (h : row n d s = some (r, u)) (hu : u.rest = [])
    (ha : alternatives (n + 1) d s = some (q, v)) : q = r ∧ v = u := by
  have still : blanks u = some ((), u) := by
    rw [run_blanks, hu, skipBlanks_nil, ← hu]
    rfl
  rw [alternatives, run_bind, h, Option.bind_some, run_bind, still, Option.bind_some, run_bind,
    run_accept, hu] at ha
  obtain ⟨_, flags, opened, named, byNumber, references, limit⟩ := u
  subst hu
  have last : (if byNumber && !named.isEmpty then failure else pure r : Read Regex)
      ⟨[], flags, opened, named, byNumber, references, limit⟩ = some (q, v) := ha
  split at last
  · cases last
  · cases last
    exact ⟨rfl, rfl⟩

theorem joined_anchor (r : Regex) : joined (.anchor .textStart) r = anchored r := by
  cases r <;> rfl

/-- An anchor in front of a group is the anchor of what the group is. -/
theorem row_caret : row (n + 3) d (start limit ('^' :: '(' :: '?' :: ':' :: t)) =
    (row (n + 2) d (start limit ('(' :: '?' :: ':' :: t))).map fun p => (anchored p.1, p.2) := by
  have more : (start limit ('^' :: '(' :: '?' :: ':' :: t)).rest ≠ [] := List.cons_ne_nil _ _
  have moved : (start limit ('(' :: '?' :: ':' :: t)).rest.length ≠
      (start limit ('^' :: '(' :: '?' :: ':' :: t)).rest.length := by
    simp [start]
  rw [row_succ, if_neg more, piece_caret, Option.bind_some, if_neg moved]
  simp only [joined_anchor]

/-- If reading behind an anchor and in a group is not at its end before the text is, what is read in the
group is all that is read. -/
theorem alternatives_wrapped (hd : d + 1 < nestLimit)
    (h : alternatives (n + 9) d (start limit ('^' :: '(' :: '?' :: ':' :: t)) = some (q, u))
    (closed : ∀ r v w, alternatives (n + 2) (d + 1) (start limit t) = some (r, v) →
      v.rest = ')' :: w → w = []) :
    ∃ r v, alternatives (n + 2) (d + 1) (start limit t) = some (r, v) ∧
      q = anchored r ∧ u.references = v.references := by
  have opened : (start limit ('(' :: '?' :: ':' :: t)).rest ≠ [] := List.cons_ne_nil _ _
  obtain ⟨r, v, hv, w, hw, content⟩ : ∃ r v, alternatives (n + 2) (d + 1) (start limit t) = some (r, v) ∧
      ∃ w, v.rest = ')' :: w ∧ group (n + 4) (d + 1) (start limit ('?' :: ':' :: t)) =
        some (r, { v with rest := w, flags := .none }) := by
    rw [alternatives, run_bind, row_caret] at h
    obtain ⟨p, hp, -⟩ := Option.bind_eq_some_iff.1 h
    obtain ⟨p, hp, -⟩ := Option.map_eq_some_iff.1 hp
    obtain ⟨r, v, hp⟩ := exists_piece opened hp
    obtain ⟨r, v, hp⟩ := exists_atom hp
    rw [atom_group, group_start hd] at hp
    obtain ⟨p, hp, -⟩ := Option.map_eq_some_iff.1 hp
    obtain ⟨v, hv, closing, e⟩ := inner_eq_some.1 hp
    refine ⟨p.1, v, hv, p.2.rest, closing, ?_⟩
    rw [group_start hd, hp, Option.map_some, e]
  obtain rfl := closed r v w hv hw
  have piece := piece_of_atom (atom_group.trans content) rfl
  have row := row_of_piece opened piece rfl
  have all : Read.row (n + 8) d (start limit ('^' :: '(' :: '?' :: ':' :: t)) =
      some (anchored r, { v with rest := [], flags := .none }) := by
    rw [row_caret, row]
    rfl
  obtain ⟨rfl, rfl⟩ := alternatives_of_row all rfl h
  exact ⟨r, v, hv, rfl, rfl⟩

end Read

theorem markReferenced_anchored (labels : List Text) (r : Regex) :
    markReferenced labels (anchored r) = anchored (markReferenced labels r) := by
  cases r <;> rfl

theorem byteLength_append (s t : Text) :
    Text.byteLength (s ++ t) = Text.byteLength s + Text.byteLength t := by
  induction s with
  | nil => exact (Nat.zero_add _).symm
  | cons c s ih =>
    show c.utf8Size + Text.byteLength (s ++ t) = c.utf8Size + Text.byteLength s + Text.byteLength t
    rw [ih, Nat.add_assoc]

/-- Behind an anchor and in a group, an expression of its own is anchored as a whole. -/
theorem parse?_wrapped {s : Text} {r q : Regex} (alone : parse? s = some r)
    (wrapped : parse? ("^(?:".toList ++ s ++ [')']) = some q) : q = anchored r := by
  obtain ⟨r, u, hr, done, rfl⟩ := parse?_eq_some.1 alone
  obtain ⟨q, v, hq, -, rfl⟩ := parse?_eq_some.1 wrapped
  have fuel : 2 * ("^(?:".toList ++ s ++ [')']).length + 512 = 2 * s.length + 513 + 9 := by
    simp
    omega
  have text : "^(?:".toList ++ s ++ [')'] = '^' :: '(' :: '?' :: ':' :: (s ++ [')']) := by simp
  rw [fuel] at hq
  have longer : Text.byteLength s / 2 ≤ Text.byteLength ("^(?:".toList ++ s ++ [')']) / 2 := by
    rw [byteLength_append, byteLength_append]
    omega
  generalize Text.byteLength ("^(?:".toList ++ s ++ [')']) / 2 = limit at hq longer
  rw [text] at hq
  have ahead : Ahead (Read.start (Text.byteLength s / 2) s) (Read.start limit (s ++ [')'])) :=
    ⟨.inl rfl, rfl, rfl, rfl, rfl, rfl, longer⟩
  have same {n : Nat} {q : Regex} {v : Reading}
      (hq : Read.alternatives n 1 (Read.start limit (s ++ [')'])) = some (q, v)) : r = q ∧ Ahead u v :=
    Read.agrees_alternatives _ n 0 1 _ _ ahead _ _ _ _ hr hq
  obtain ⟨p, w, hp, rfl, references⟩ :=
      Read.alternatives_wrapped (by decide) hq fun q v w hq closing => by
    rcases (same hq).2.trails with strict | ⟨-, none⟩
    · rw [strict, done] at closing
      exact (List.cons.inj closing).2.symm
    · exact nomatch closing.symm.trans none
  obtain ⟨rfl, ahead⟩ := same hp
  rw [markReferenced_anchored, references, ahead.references]

end LocalePaths.Regex
