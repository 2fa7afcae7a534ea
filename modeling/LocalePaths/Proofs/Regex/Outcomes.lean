import LocalePaths.Regex.Cursor

/-!
# Outcomes of plain expressions

An expression is plain if it is built from texts, sets, anchors, sequences, choices, optional parts,
groups and backreferences. `Regex.outcomes` lists where the matches of a plain expression from a cursor end,
the preferred match first. It is what both ways of matching are measured by: matching by positions
(`Regex.walk`) and matching by trial (`Regex.trial`).
-/

namespace LocalePaths

namespace Cursor
variable {c d e : Cursor}

/-- The cursor `d` stands in the same text as `c`, at its place or after it. -/
def MovesTo (c d : Cursor) : Prop := ∃ t, c.rest = t ++ d.rest ∧ d.before = t.reverse ++ c.before

theorem MovesTo.refl (c : Cursor) : c.MovesTo c := ⟨[], rfl, rfl⟩

theorem MovesTo.trans (h : c.MovesTo d) (h' : d.MovesTo e) : c.MovesTo e := by
  obtain ⟨t, ht, hb⟩ := h
  obtain ⟨u, hu, hb'⟩ := h'
  exact ⟨t ++ u, by rw [ht, hu, List.append_assoc], by simp [hb', hb]⟩

theorem MovesTo.length_le (h : c.MovesTo d) : d.rest.length ≤ c.rest.length := by
  obtain ⟨t, ht, -⟩ := h
  simp [ht]

theorem movesTo_skip (c : Cursor) {n : Nat} : c.MovesTo (c.skip n) :=
  ⟨c.rest.take n, (List.take_append_drop n c.rest).symm, rfl⟩

@[simp] theorem rest_skip (c : Cursor) (n : Nat) : (c.skip n).rest = c.rest.drop n := rfl

@[simp] theorem captures_skip (c : Cursor) (n : Nat) : (c.skip n).captures = c.captures := rfl

@[simp] theorem rest_openGroup (c : Cursor) (g : Text) : (c.openGroup g).rest = c.rest := rfl

@[simp] theorem before_openGroup (c : Cursor) (g : Text) : (c.openGroup g).before = c.before := rfl

@[simp] theorem rest_closeGroup (c d : Cursor) (g : Text) : (c.closeGroup d g).rest = d.rest := rfl

@[simp] theorem before_closeGroup (c d : Cursor) (g : Text) :
    (c.closeGroup d g).before = d.before := rfl

theorem upTo_eq {t : Text} (h : c.rest = t ++ d.rest) : c.upTo d = t := by
  simp [upTo, h]

theorem skip_eq {t r : Text} (h : c.rest = t ++ r) :
    c.skip t.length = ⟨t.reverse ++ c.before, r, c.captures⟩ := by
  simp [skip, h]

end Cursor

namespace Regex

/-- Whether the expression is built without look-around and atomic groups, and without repetition of
expressions save that a part may be optional. -/
def IsPlain : Regex → Prop
  | seq r s | alt r s => r.IsPlain ∧ s.IsPlain
  | group _ _ r => r.IsPlain
  | times r lo hi greedy => r.IsPlain ∧ lo = 0 ∧ hi = some 1 ∧ greedy = true
  | ahead .. | behind .. | atomic _ => False
  | _ => True

/-- Whether the expression is plain and its anchors do not ask what stands in front of them. -/
def LooksForward : Regex → Prop
  | seq r s | alt r s => r.LooksForward ∧ s.LooksForward
  | group _ _ r => r.LooksForward
  | anchor a => ∀ before before' next, a.holds before next = a.holds before' next
  | times .. | ahead .. | behind .. | atomic _ => False
  | _ => True

theorem LooksForward.isPlain : ∀ {r : Regex}, r.LooksForward → r.IsPlain
  | empty, _ | text _, _ | char _, _ | many _ _, _ | anchor _, _ | backref _, _ | captured _, _ => trivial
  | seq _ _, h | alt _ _, h => ⟨h.1.isPlain, h.2.isPlain⟩
  | group _ _ r, h => LooksForward.isPlain (r := r) h

def manyLengths (set : CharSet) (greedy : Bool) : Text → List Nat
  | [] => [0]
  | c :: rest =>
    if set.has c then
      if greedy then (manyLengths set greedy rest).map (· + 1) ++ [0]
      else 0 :: (manyLengths set greedy rest).map (· + 1)
    else [0]

/-- Where the matches of a plain expression from a cursor end, the preferred match first. -/
def outcomes : Regex → Cursor → List Cursor
  | empty, c => [c]
  | text t, c => if t.isPrefixOf c.rest then [c.skip t.length] else []
  | char set, c =>
    match c.rest with
    | [] => []
    | d :: _ => if set.has d then [c.skip 1] else []
  | many set greedy, c => (manyLengths set greedy c.rest).map c.skip
  | anchor a, c => if a.holds c.before.head? c.rest.head? then [c] else []
  | seq r s, c => (r.outcomes c).flatMap s.outcomes
  | alt r s, c => r.outcomes c ++ s.outcomes c
  | group label _ r, c => (r.outcomes (c.openGroup label)).map fun d => c.closeGroup d label
  | backref label, c =>
    match c.captures.get? label with
    | none => []
    | some t => if t.isPrefixOf c.rest then [c.skip t.length] else []
  | captured label, c => if (c.captures.get? label).isSome then [c] else []
  | times r _ _ _, c => r.outcomes c ++ [c]
  | ahead .., _ | behind .., _ | atomic _, _ => []

variable {set : CharSet} {greedy : Bool} {c d : Cursor}

theorem mem_manyLengths {n : Nat} : ∀ {s : Text}, n ∈ manyLengths set greedy s ↔
    n ≤ s.length ∧ ∀ x ∈ s.take n, set.has x = true
  | [] => by simp +contextual [manyLengths]
  | x :: s => by
    have succ : n ∈ (manyLengths set greedy s).map (· + 1) ↔
        ∃ k, n = k + 1 ∧ k ≤ s.length ∧ ∀ y ∈ s.take k, set.has y = true := by
      simp only [List.mem_map, mem_manyLengths]
      exact ⟨fun ⟨k, hk, e⟩ => ⟨k, e.symm, hk⟩, fun ⟨k, e, hk⟩ => ⟨k, hk, e.symm⟩⟩
    unfold manyLengths
    by_cases hx : set.has x = true
    · have both : n ∈ (if greedy = true then (manyLengths set greedy s).map (· + 1) ++ [0]
          else 0 :: (manyLengths set greedy s).map (· + 1)) ↔
          n ∈ (manyLengths set greedy s).map (· + 1) ∨ n = 0 := by
        cases greedy <;> simp [or_comm]
      rw [if_pos hx, both, succ]
      cases n with
      | zero => simp
      | succ k => simp [hx]
    · rw [if_neg hx, List.mem_singleton]
      cases n with
      | zero => simp
      | succ k => simp [hx]

theorem le_of_mem_manyLengths {s : Text} {n : Nat} (h : n ∈ manyLengths set greedy s) :
    n ≤ s.length :=
  (mem_manyLengths.1 h).1

theorem movesTo_of_mem_outcomes :
    ∀ {r : Regex} {c d : Cursor}, d ∈ r.outcomes c → c.MovesTo d
  | empty, c, d, h => by
    simp only [outcomes, List.mem_singleton] at h
    exact h ▸ .refl c
  | text t, c, d, h => by
    simp only [outcomes, List.mem_ite_nil_right, List.mem_singleton] at h
    exact h.2 ▸ c.movesTo_skip
  | char set, c, d, h => by
    unfold outcomes at h
    split at h
    · cases h
    · simp only [List.mem_ite_nil_right, List.mem_singleton] at h
      exact h.2 ▸ c.movesTo_skip
  | many set greedy, c, d, h => by
    obtain ⟨n, -, rfl⟩ := List.mem_map.1 h
    exact c.movesTo_skip
  | anchor a, c, d, h => by
    simp only [outcomes, List.mem_ite_nil_right, List.mem_singleton] at h
    exact h.2 ▸ .refl c
  | seq r s, c, d, h => by
    obtain ⟨e, he, hd⟩ := List.mem_flatMap.1 h
    exact (movesTo_of_mem_outcomes he).trans (movesTo_of_mem_outcomes hd)
  | alt r s, c, d, h => by
    rcases List.mem_append.1 h with h | h
    · exact movesTo_of_mem_outcomes h
    · exact movesTo_of_mem_outcomes h
  | group label _ r, c, d, h => by
    obtain ⟨e, he, rfl⟩ := List.mem_map.1 h
    exact (movesTo_of_mem_outcomes he : (c.openGroup label).MovesTo e)
  | backref label, c, d, h => by
    unfold outcomes at h
    split at h
    · cases h
    · simp only [List.mem_ite_nil_right, List.mem_singleton] at h
      exact h.2 ▸ c.movesTo_skip
  | captured label, c, d, h => by
    simp only [outcomes, List.mem_ite_nil_right, List.mem_singleton] at h
    exact h.2 ▸ .refl c
  | times r _ _ _, c, d, h => by
    rcases List.mem_append.1 h with h | h
    · exact movesTo_of_mem_outcomes h
    · exact List.mem_singleton.1 h ▸ .refl c
  | ahead .., _, _, h | behind .., _, _, h | atomic _, _, _, h => by cases h

end Regex

end LocalePaths
