import LocalePaths.Regex.Search

/-!
# Anchored expressions

An expression behind `^` matches nowhere but at the start of a text. So a search for it finds what an
attempt to match there finds (`Regex.search_anchored`).
-/

namespace LocalePaths.Regex

variable {r : Regex} {c d : Cursor} {k : Cursor → Attempt} {text : Text}

/-- The expression behind an anchor at the start of the text. -/
def anchored : Regex → Regex
  | empty => anchor .textStart
  | r => seq (anchor .textStart) r

/-- What an attempt to match at the cursor finds. -/
def matchAt (r : Regex) (c : Cursor) : Verdict :=
  if r.isEasy then
    match r.first? c with
    | some d => .found d
    | none => .failed
  else (trial r false .succeed c searchBudget).1

theorem search_ne_gaveUp (h : r.isEasy = true) (text : Text) : r.search text ≠ .gaveUp := by
  unfold search
  rw [if_pos h]
  split <;> nofun

theorem anchored_eq (r : Regex) :
    anchored r = anchor .textStart ∨ anchored r = seq (anchor .textStart) r := by
  cases r with
  | empty => exact .inl rfl
  | _ => exact .inr rfl

theorem trial_anchored (h : c.before ≠ []) : trial (anchored r) false k c = .fail := by
  have started : Anchor.textStart.holds c.before.head? c.rest.head? = false := by
    cases hb : c.before with
    | nil => exact absurd hb h
    | cons => rfl
  rcases anchored_eq r with e | e <;> rw [e] <;> simp [trial, started]

theorem tryFrom_anchored : ∀ (rest : Text) (c : Cursor) (n : Nat), c.rest = rest → c.before ≠ [] →
    (tryFrom (anchored r) rest c n).1 ≠ .found d
  | [], c, n, _, h => by
    rw [tryFrom, trial_anchored h]
    cases n <;> nofun
  | x :: rest, c, n, hr, h => by
    have moved : (c.skip 1).before ≠ [] := by simp [Cursor.skip, h]
    rw [tryFrom, trial_anchored h]
    cases n with
    | zero => nofun
    | succ n => exact tryFrom_anchored rest (c.skip 1) n (by simp [Cursor.skip, hr]) moved

theorem reach_anchored (before : Option Char) (rest : Text) (r : Regex) (ts : Marks) :
    ∃ us, reach before rest (anchored r) ts = Marks.atAnchor .textStart before rest us := by
  rcases anchored_eq r with e | e <;> rw [e]
  · exact ⟨ts, rfl⟩
  · exact ⟨reach before rest r ts, rfl⟩

theorem seek_atAnchor (x : Char) : ∀ (rest : Text) (us : Marks) (c : Cursor),
    seek rest (Marks.atAnchor .textStart (some x) rest us) c = none
  | [], _, _ => rfl
  | y :: rest, us, c => seek_atAnchor y rest us.tail (c.skip 1)

theorem seek_start (rest : Text) (us : Marks) (c : Cursor) :
    seek rest (Marks.atAnchor .textStart none rest us) c =
      if (Marks.atAnchor .textStart none rest us).here then some c else none := by
  cases rest with
  | nil => rfl
  | cons x rest => rw [seek, Marks.atAnchor, List.tail_cons, seek_atAnchor]

/-- A search for an anchored expression finds what an attempt at the start finds. -/
theorem search_anchored (r : Regex) (text : Text) :
    (anchored r).search text = .found d ↔ (anchored r).matchAt (.start text) = .found d := by
  unfold search matchAt
  by_cases easy : (anchored r).isEasy = true
  · obtain ⟨us, marks⟩ := reach_anchored none text r (Marks.all text)
    have marks : reachFrom (.start text) (anchored r) (Marks.all text) =
        Marks.atAnchor .textStart none text us := marks
    have first : (anchored r).first? (.start text) =
        (seek text (reachFrom (.start text) (anchored r) (Marks.all text)) (.start text)).map
          fun c => walk (anchored r) c (Marks.all c.rest) := by
      rw [marks, seek_start, ← marks, apply_ite (Option.map _)]
      rfl
    rw [if_pos easy, if_pos easy, first]
    cases seek text (reachFrom (.start text) (anchored r) (Marks.all text)) (.start text) <;> rfl
  · rw [if_neg easy, if_neg easy]
    have attempt : ∀ later : Attempt, (∀ n, (later n).1 ≠ .found d) →
        ((Attempt.orElse (trial (anchored r) false .succeed (.start text)) later searchBudget).1 =
          .found d ↔ (trial (anchored r) false .succeed (.start text) searchBudget).1 = .found d) := by
      intro later none
      unfold Attempt.orElse
      split
      · rename_i h
        simp [h]
      · rename_i n h
        simp [h, none]
      · rfl
    cases text with
    | nil => exact attempt .fail fun _ => nofun
    | cons x text =>
      refine attempt _ fun n => ?_
      exact tryFrom_anchored text (Cursor.skip 1 (.start (x :: text))) n rfl
        (by simp [Cursor.skip, Cursor.start])

theorem here_atAnchor_textStart (rest : Text) (us : Marks) :
    (Marks.atAnchor .textStart none rest us).here = us.here := by
  cases rest <;> rfl

theorem first?_anchor (text : Text) : (anchor .textStart).first? (.start text) = some (.start text) :=
  if_pos (here_atAnchor_textStart text (Marks.all text))

theorem first?_seq_anchor (r : Regex) (text : Text) :
    (seq (anchor .textStart) r).first? (.start text) = r.first? (.start text) := by
  have here (ts : Marks) : (reachFrom (.start text) (seq (anchor .textStart) r) ts).here =
      (reachFrom (.start text) r ts).here := here_atAnchor_textStart text _
  have moved (ts : Marks) :
      (seq (anchor .textStart) r).walk (.start text) ts = r.walk (.start text) ts := by
    have still : alignedAt (.start text) (.start text) ts = ts := by simp [alignedAt]
    exact congrArg (walk r (.start text)) still
  simp only [first?, here, moved]

/-- At the start of a text, the anchor changes nothing. -/
theorem matchAt_anchored (r : Regex) (text : Text) :
    (anchored r).matchAt (.start text) = r.matchAt (.start text) := by
  have seq : (seq (anchor .textStart) r).matchAt (.start text) = r.matchAt (.start text) := by
    have attempt : trial (.seq (anchor .textStart) r) false .succeed (.start text) =
        trial r false .succeed (.start text) := by
      simp [trial, Anchor.holds, Cursor.start]
    unfold matchAt
    rw [first?_seq_anchor, attempt]
    rfl
  cases r with
  | empty =>
    unfold matchAt
    rw [anchored, first?_anchor]
    rfl
  | _ => exact seq

end LocalePaths.Regex
