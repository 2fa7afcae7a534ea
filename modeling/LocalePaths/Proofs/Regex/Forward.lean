import LocalePaths.Proofs.Regex.Anchored
import LocalePaths.Proofs.Regex.ByTrial

/-!
# Expressions that look forward

An expression looks forward if nothing in it asks what stands in front of a position. Text in front
of the cursor makes no difference to such an expression: the same outcomes come in the same order
(`Regex.outcomes_after`), and trying them takes as much of the budget (`Regex.trial_after`). So an
attempt to match behind a text finds what an attempt without the text finds
(`Regex.matchAt_text_append`).
-/

namespace LocalePaths

namespace Cursor
variable {t : Text} {c d : Cursor}

/-- The cursor at its place in a text that has `t` in front. -/
def after (t : Text) (c : Cursor) : Cursor := { c with before := c.before ++ t.reverse }

@[simp] theorem rest_after : (c.after t).rest = c.rest := rfl

@[simp] theorem captures_after : (c.after t).captures = c.captures := rfl

@[simp] theorem skip_after (n : Nat) : (c.after t).skip n = (c.skip n).after t := by
  simp [after, skip]

@[simp] theorem openGroup_after (label : Text) :
    (c.after t).openGroup label = (c.openGroup label).after t := rfl

@[simp] theorem closeGroup_after (label : Text) :
    (c.after t).closeGroup (d.after t) label = (c.closeGroup d label).after t := rfl

theorem skip_start (t u : Text) : (start (t ++ u)).skip t.length = (start u).after t := by
  simp [after, skip, start]

end Cursor

namespace Verdict

def map (f : Cursor → Cursor) : Verdict → Verdict
  | found c => found (f c)
  | failed => failed
  | gaveUp => gaveUp

theorem map_eq_found {f : Cursor → Cursor} {v : Verdict} {d : Cursor} :
    v.map f = found d ↔ ∃ c, v = found c ∧ f c = d := by
  cases v <;> simp [map]

theorem map_id (v : Verdict) : v.map id = v := by cases v <;> rfl

end Verdict

namespace Attempt
variable {f : Cursor → Cursor}

/-- The attempt whose cursors are moved by `f`; it takes the same budget. -/
def map (f : Cursor → Cursor) (a : Attempt) : Attempt := fun n => ((a n).1.map f, (a n).2)

theorem map_id (a : Attempt) : a.map id = a := funext fun _ => Prod.ext (Verdict.map_id _) rfl

theorem map_orElse (a b : Attempt) : (orElse a b).map f = orElse (a.map f) (b.map f) := by
  funext n
  rcases h : a n with ⟨⟨c⟩ | _ | _, _ | m⟩ <;> simp [map, orElse, h, Verdict.map]

theorem map_prefer (first : Bool) (a b : Attempt) :
    (prefer first a b).map f = prefer first (a.map f) (b.map f) := by
  cases first
  · exact map_orElse b a
  · exact map_orElse a b

end Attempt

namespace Regex
variable {r s : Regex} {k j : Cursor → Attempt} {c d : Cursor} {t u : Text}

/-- Text in front of the cursor changes nothing about the outcomes and their order. -/
theorem outcomes_after : ∀ {r : Regex} {c : Cursor}, r.LooksForward →
    r.outcomes (c.after t) = (r.outcomes c).map (Cursor.after t)
  | empty, c, _ => rfl
  | text u, c, _ => by
    simp only [outcomes, Cursor.rest_after, Cursor.skip_after]
    split <;> rfl
  | char set, c, _ => by
    simp only [outcomes, Cursor.rest_after, Cursor.skip_after]
    split
    · rfl
    · split <;> rfl
  | many set greedy, c, _ => by
    simp only [outcomes, Cursor.rest_after, List.map_map, Function.comp_def, Cursor.skip_after]
  | anchor a, c, h => by
    simp only [outcomes, Cursor.rest_after, h (c.after t).before.head? c.before.head?]
    split <;> rfl
  | seq r s, c, h => by
    have later : s.outcomes ∘ Cursor.after t = fun d => (s.outcomes d).map (Cursor.after t) :=
      funext fun d => outcomes_after h.2
    simp only [outcomes, outcomes_after h.1, List.flatMap_map, List.map_flatMap]
    exact congrArg (List.flatMap · (r.outcomes c)) later
  | alt r s, c, h => by
    simp only [outcomes, outcomes_after h.1, outcomes_after h.2, List.map_append]
  | group label _ r, c, h => by
    have inside := outcomes_after (r := r) (c := c.openGroup label) h
    simp only [outcomes, Cursor.openGroup_after, inside, List.map_map, Function.comp_def,
      Cursor.closeGroup_after]
  | backref label, c, _ => by
    simp only [outcomes, Cursor.captures_after, Cursor.rest_after, Cursor.skip_after]
    split
    · rfl
    · split <;> rfl
  | captured label, c, _ => by
    by_cases held : (c.captures.get? label).isSome = true
    · simp [outcomes, held]
    · simp [outcomes, held]

/-! ### Trying -/

theorem tryMany_map {f : Cursor → Cursor} {set : CharSet} {greedy : Bool} {k j : Nat → Attempt}
    (hk : ∀ n, k n = (j n).map f) : ∀ (rest : Text) (n : Nat),
      tryMany set greedy k rest n = (tryMany set greedy j rest n).map f
  | [], n => by
    rw [tryMany, tryMany, hk, Attempt.map_prefer]
    rfl
  | c :: rest, n => by
    rw [tryMany, tryMany, hk, Attempt.map_prefer, tryMany_map hk rest (n + 1)]
    split <;> rfl

theorem ite_fail_map {p : Prop} [Decidable p] {f : Cursor → Cursor} {a b : Attempt}
    (h : a = b.map f) : (if p then a else .fail) = (if p then b else .fail : Attempt).map f := by
  split
  · exact h
  · rfl

/-- Text in front of the cursor changes nothing about an attempt, provided that it changes nothing
about how the attempt goes on. -/
theorem trial_after : ∀ {r : Regex} {k j : Cursor → Attempt} {c : Cursor}, r.LooksForward →
    (∀ d, k (d.after t) = (j d).map (Cursor.after t)) →
      trial r false k (c.after t) = (trial r false j c).map (Cursor.after t)
  | empty, k, j, c, _, hk => hk c
  | text u, k, j, c, _, hk => ite_fail_map (by rw [Cursor.skip_after, hk])
  | char set, k, j, c, _, hk => by
    obtain ⟨before, rest, captures⟩ := c
    cases rest with
    | nil => rfl
    | cons x xs => exact ite_fail_map (by rw [Cursor.skip_after, hk])
  | many set greedy, k, j, c, _, hk =>
    tryMany_map (fun n => by rw [Cursor.skip_after, hk]) c.rest 0
  | anchor a, k, j, c, h, hk => by
    have same := h (c.after t).before.head? c.before.head? c.rest.head?
    simp only [trial, Bool.false_and, Bool.false_eq_true, if_false, Cursor.rest_after, same]
    exact ite_fail_map (hk c)
  | seq r s, k, j, c, h, hk => by
    have later := trial_after (c := c) h.1 fun d => trial_after (c := d) h.2 hk
    exact later
  | alt r s, k, j, c, h, hk => by
    show Attempt.orElse (trial r false k _) (trial s false k _) = _
    rw [trial_after h.1 hk, trial_after h.2 hk, ← Attempt.map_orElse]
    rfl
  | group label _ r, k, j, c, h, hk => by
    exact trial_after (r := r) (c := c.openGroup label)
      (j := fun d => j (c.closeGroup d label)) h fun d => hk (c.closeGroup d label)
  | backref label, k, j, c, _, hk => by
    simp only [trial, Bool.false_and, Bool.false_eq_true, if_false, Cursor.captures_after,
      Cursor.rest_after]
    cases c.captures.get? label with
    | none => rfl
    | some u => exact ite_fail_map (by rw [Cursor.skip_after, hk])
  | captured label, k, j, c, _, hk => ite_fail_map (hk c)

/-! ### Attempts at one place -/

/-- An easy expression is matched by its first outcome. -/
theorem first?_eq (hp : r.IsPlain) (he : r.isEasy = true) : r.first? c = (r.outcomes c).head? := by
  have fits := Marks.fits_all c.rest
  have here := here_reachFrom hp he fits
  rw [firstMarked_all] at here
  by_cases marked : (reachFrom c r (.all c.rest)).here = true
  · have walked := firstMarked_eq_walk hp he fits marked
    rw [firstMarked_all] at walked
    exact (if_pos marked).trans walked.symm
  · have none : r.outcomes c = [] := by simpa [here] using marked
    exact (if_neg marked).trans (none ▸ rfl)

theorem matchAt_eq (hp : r.IsPlain) (c : Cursor) : r.matchAt c =
    if r.isEasy then (r.outcomes c).head?.elim .failed .found
    else (trial r false .succeed c searchBudget).1 := by
  unfold matchAt
  split
  · rename_i easy
    rw [first?_eq hp easy]
    cases (r.outcomes c).head? <;> rfl
  · rfl

/-- Text in front of the cursor changes nothing about what an attempt finds. -/
theorem matchAt_after (h : r.LooksForward) (c : Cursor) :
    r.matchAt (c.after t) = (r.matchAt c).map (Cursor.after t) := by
  rw [matchAt_eq h.isPlain, matchAt_eq h.isPlain]
  split
  · rw [outcomes_after h, List.head?_map]
    cases (r.outcomes c).head? <;> rfl
  · have attempt : trial r false .succeed (c.after t) = _ := trial_after (j := .succeed) h fun _ => rfl
    rw [attempt]
    rfl

theorem matchAt_seq_assoc {q : Regex} (hq : q.IsPlain) (hr : r.IsPlain) (hs : s.IsPlain)
    (c : Cursor) : (seq (seq q r) s).matchAt c = (seq q (seq r s)).matchAt c := by
  have left : (seq (seq q r) s).IsPlain := ⟨⟨hq, hr⟩, hs⟩
  have right : (seq q (seq r s)).IsPlain := ⟨hq, hr, hs⟩
  have attempt : trial (seq (seq q r) s) false .succeed c =
      trial (seq q (seq r s)) false .succeed c := rfl
  have easy : (seq (seq q r) s).isEasy = (seq q (seq r s)).isEasy := Bool.and_assoc ..
  have same : (seq (seq q r) s).outcomes c = (seq q (seq r s)).outcomes c := by
    simp only [outcomes, List.flatMap_assoc]
  rw [matchAt_eq left, matchAt_eq right, attempt, easy, same]

theorem matchAt_seq_text (hr : r.IsPlain) (u : Text) (c : Cursor) : (seq (text u) r).matchAt c =
    if u.isPrefixOf c.rest then r.matchAt (c.skip u.length) else .failed := by
  have plain : (seq (text u) r).IsPlain := ⟨trivial, hr⟩
  rw [matchAt_eq plain, matchAt_eq hr]
  simp only [isEasy, outcomes, trial, Bool.true_and, Bool.false_and]
  by_cases h : u.isPrefixOf c.rest = true <;> simp [h, Attempt.fail]

/-- An attempt behind a text finds what an attempt without the text finds. -/
theorem matchAt_text_append (h : r.LooksForward) (t u : Text) :
    (seq (text t) r).matchAt (.start (t ++ u)) = (r.matchAt (.start u)).map (Cursor.after t) := by
  have front : t.isPrefixOf (Cursor.start (t ++ u)).rest = true :=
    List.isPrefixOf_iff_prefix.2 (List.prefix_append t u)
  rw [matchAt_seq_text h.isPlain, if_pos front, Cursor.skip_start, matchAt_after h]

/-! ### Searching from other cursors -/

section
variable {F : Cursor → Cursor}

theorem starts_map (moves : ∀ c : Cursor, (F c).skip 1 = F (c.skip 1)) : ∀ (rest : Text) (c : Cursor),
    starts rest (F c) = (starts rest c).map F
  | [], _ => rfl
  | _ :: rest, c => by rw [starts, starts, moves, starts_map moves rest, List.map_cons]

theorem tryFrom_map (moves : ∀ c : Cursor, (F c).skip 1 = F (c.skip 1))
    (tried : ∀ c, trial r false .succeed (F c) = (trial s false .succeed c).map F) :
    ∀ (rest : Text) (c : Cursor), tryFrom r rest (F c) = (tryFrom s rest c).map F
  | [], c => by
    rw [tryFrom, tryFrom, Attempt.map_orElse, tried]
    rfl
  | _ :: rest, c => by rw [tryFrom, tryFrom, Attempt.map_orElse, tried, moves, tryFrom_map moves tried rest]

/-- A search only depends on the outcomes and on how they are tried. If from other cursors an expression comes
to what another one comes to, it finds what the other one finds. -/
theorem search_map (moves : ∀ c : Cursor, (F c).skip 1 = F (c.skip 1)) {u : Text}
    (start : F (.start u) = .start u) (hr : r.IsPlain) (hs : s.IsPlain) (easy : r.isEasy = s.isEasy)
    (outcomes : ∀ c, r.outcomes (F c) = (s.outcomes c).map F)
    (tried : ∀ c, trial r false .succeed (F c) = (trial s false .succeed c).map F) :
    r.search u = (s.search u).map F := by
  by_cases he : s.isEasy = true
  · have each : (fun c => r.outcomes (F c)) = fun c => (s.outcomes c).map F := funext outcomes
    have found : (starts u (.start u)).flatMap r.outcomes =
        ((starts u (.start u)).flatMap s.outcomes).map F := by
      calc (starts u (.start u)).flatMap r.outcomes
          = ((starts u (.start u)).map F).flatMap r.outcomes := by rw [← starts_map moves, start]
        _ = (starts u (.start u)).flatMap fun c => r.outcomes (F c) := List.flatMap_map ..
        _ = _ := by rw [each, List.map_flatMap]
    rw [search_of_isEasy hr (easy.trans he), search_of_isEasy hs he, found, List.head?_map]
    cases ((starts u (.start u)).flatMap s.outcomes).head? <;> rfl
  · have tried := tryFrom_map moves tried u (.start u)
    rw [start] at tried
    unfold search
    rw [if_neg he, if_neg (easy ▸ he)]
    exact congrArg (fun a : Attempt => (a searchBudget).1) tried

end

end Regex

end LocalePaths
