import LocalePaths.Proofs.Regex.ByPosition
import LocalePaths.Regex.Search

/-!
# Matching by trial finds the preferred outcome

An attempt settles a question if every answer that it gives within its budget is right
(`Attempt.Settles`). `settles_trial` says that trying a plain expression settles which of its
outcomes is the first one to lead to a success. Together with matching by positions this gives
`search_of_isPlain`: a search finds the preferred outcome from the leftmost position that has one.
-/

namespace LocalePaths

namespace Attempt
variable {a b : Attempt} {v w : Option Cursor}

/-- Whatever the budget, what the attempt finds is `v`, and it fails only if `v` is nothing. -/
def Settles (a : Attempt) (v : Option Cursor) : Prop :=
  ∀ n, (∀ c, (a n).1 = .found c → v = some c) ∧ ((a n).1 = .failed → v = none)

theorem settles_fail : fail.Settles none := fun _ => ⟨nofun, fun _ => rfl⟩

theorem settles_succeed (c : Cursor) : (succeed c).Settles (some c) := fun _ =>
  ⟨fun _ h => congrArg some (Verdict.found.inj h), nofun⟩

theorem Settles.orElse (ha : a.Settles v) (hb : b.Settles w) : (orElse a b).Settles (v.or w) := by
  intro n
  obtain ⟨found, failed⟩ := ha n
  unfold Attempt.orElse
  split
  · exact ⟨fun _ h => (by cases h), fun h => by cases h⟩
  · rename_i m h
    rw [failed (by rw [h]), Option.none_or]
    exact hb m
  · rename_i x y
    refine ⟨fun c h => ?_, fun h => ?_⟩
    · rw [found c h, Option.some_or]
    · exact absurd (Prod.ext h rfl : a n = (.failed, (a n).2)) (by
        cases h₂ : (a n).2 with
        | zero => exact x
        | succ m => exact fun e => y m e)

theorem Settles.prefer (first : Bool) (ha : a.Settles v) (hb : b.Settles w) :
    (prefer first a b).Settles (if first then v.or w else w.or v) := by
  cases first with
  | true => exact ha.orElse hb
  | false => exact hb.orElse ha

end Attempt

namespace Regex
variable {set : CharSet} {k : Cursor → Attempt} {f : Cursor → Option Cursor}

theorem findSome?_cons_or {α β : Type} (f : α → Option β) (a : α) (l : List α) :
    (a :: l).findSome? f = (f a).or (l.findSome? f) := by
  rw [List.findSome?_cons]
  cases f a <;> rfl

theorem findSome?_some {α : Type} : ∀ l : List α, l.findSome? some = l.head?
  | [] => rfl
  | _ :: _ => rfl

theorem findSome?_flatMap {α β γ : Type} (g : α → List β) (f : β → Option γ) :
    ∀ l : List α, (l.flatMap g).findSome? f = l.findSome? fun a => (g a).findSome? f
  | [] => rfl
  | a :: l => by
    rw [List.flatMap_cons, List.findSome?_append, findSome?_flatMap g f l, findSome?_cons_or]

theorem settles_tryMany (greedy : Bool) {k : Nat → Attempt} {f : Nat → Option Cursor}
    (hk : ∀ n, (k n).Settles (f n)) : ∀ (rest : Text) (n : Nat),
      (tryMany set greedy k rest n).Settles
        ((manyLengths set greedy rest).findSome? fun m => f (n + m))
  | [], n => by
    have last := Attempt.settles_fail.prefer greedy (hk n)
    simp only [Option.none_or, Option.or_none, ite_self] at last
    exact List.findSome?_singleton ▸ last
  | c :: rest, n => by
    have more : (if set.has c then tryMany set greedy k rest (n + 1) else .fail).Settles
        (if set.has c then ((manyLengths set greedy rest).map (· + 1)).findSome? fun m => f (n + m)
          else none) := by
      have later := settles_tryMany greedy hk rest (n + 1)
      split
      · rw [List.findSome?_map]
        simpa only [Function.comp_def, Nat.add_assoc, Nat.add_comm 1] using later
      · exact Attempt.settles_fail
    have := more.prefer greedy (hk n)
    show (Attempt.prefer greedy _ (k n)).Settles _
    rw [manyLengths]
    cases hc : set.has c <;> cases greedy <;>
      simpa [hc, List.findSome?_append, findSome?_cons_or] using this

theorem settles_ite {p : Prop} [Decidable p] (c : Cursor) (hk : (k c).Settles (f c)) :
    (if p then k c else .fail).Settles (List.findSome? f (if p then [c] else [])) := by
  by_cases h : p
  · simpa [h] using hk
  · simpa [h] using Attempt.settles_fail

/-- Trying a plain expression settles which of its outcomes is the first to lead to a success. -/
theorem settles_trial : ∀ {r : Regex} {k : Cursor → Attempt} {f : Cursor → Option Cursor}
    {c : Cursor}, r.IsPlain → (∀ d, (k d).Settles (f d)) →
      (trial r false k c).Settles ((r.outcomes c).findSome? f)
  | empty, k, f, c, _, hk => by
    show (k c).Settles _
    exact List.findSome?_singleton ▸ hk c
  | text t, k, f, c, _, hk => settles_ite (c.skip t.length) (hk _)
  | char set, k, f, c, _, hk => by
    obtain ⟨before, rest, captures⟩ := c
    cases rest with
    | nil => exact Attempt.settles_fail
    | cons x xs => exact settles_ite _ (hk _)
  | many set greedy, k, f, c, _, hk => by
    have : (tryMany set greedy (fun n => k (c.skip n)) c.rest 0).Settles _ :=
      settles_tryMany greedy (fun n => hk (c.skip n)) c.rest 0
    show (tryMany set greedy (fun n => k (c.skip n)) c.rest 0).Settles _
    simpa only [outcomes, List.findSome?_map, Function.comp_def, Nat.zero_add] using this
  | anchor a, k, f, c, _, hk => settles_ite c (hk c)
  | seq r s, k, f, c, hp, hk => by
    have := settles_trial (c := c) hp.1 fun d => settles_trial (c := d) hp.2 hk
    rw [outcomes, findSome?_flatMap]
    exact this
  | alt r s, k, f, c, hp, hk => by
    have := (settles_trial (c := c) hp.1 hk).orElse (settles_trial (c := c) hp.2 hk)
    rw [outcomes, List.findSome?_append]
    exact this
  | times r _ _ _, k, f, c, ⟨hp, rfl, rfl, rfl⟩, hk => by
    have := (settles_trial (c := c) hp hk).orElse (hk c)
    rw [outcomes, List.findSome?_append, List.findSome?_singleton]
    exact this
  | group label _ r, k, f, c, hp, hk => by
    have := settles_trial (r := r) (c := c.openGroup label) hp fun d => hk (c.closeGroup d label)
    rw [outcomes, List.findSome?_map]
    exact this
  | backref label, k, f, c, _, hk => by
    simp only [trial, outcomes]
    cases c.captures.get? label with
    | none => exact Attempt.settles_fail
    | some t => exact settles_ite _ (hk _)
  | captured label, k, f, c, _, hk => settles_ite _ (hk c)

/-- Text is matched character by character. -/
theorem outcomes_text_cons (c : Char) (t : Text) (d : Cursor) :
    ((text [c]).outcomes d).flatMap (text t).outcomes = (text (c :: t)).outcomes d := by
  obtain ⟨before, rest, captures⟩ := d
  cases rest with
  | nil => rfl
  | cons e rest =>
    by_cases h : c = e
    · subst h
      simp [outcomes, Cursor.skip]
    · simp [outcomes, h]

theorem trial_text_cons (c : Char) (t : Text) (k : Cursor → Attempt) :
    trial (text [c]) false (trial (text t) false k) = trial (text (c :: t)) false k := by
  funext d
  obtain ⟨before, rest, captures⟩ := d
  cases rest with
  | nil => rfl
  | cons e rest =>
    by_cases h : c = e
    · subst h
      simp [trial, Cursor.skip]
    · simp [trial, h]

/-! ### Searching -/

/-- The cursors at which a search starts to match, from the cursor on. -/
def starts : (rest : Text) → Cursor → List Cursor
  | [], c => [c]
  | _ :: rest, c => c :: starts rest (c.skip 1)

theorem settles_tryFrom {r : Regex} (hp : r.IsPlain) : ∀ (rest : Text) (c : Cursor),
    (tryFrom r rest c).Settles ((starts rest c).flatMap r.outcomes).head?
  | [], c => by
    have := (settles_trial (c := c) hp Attempt.settles_succeed).orElse Attempt.settles_fail
    simpa [tryFrom, starts, findSome?_some] using this
  | _ :: rest, c => by
    have := (settles_trial (c := c) hp Attempt.settles_succeed).orElse
      (settles_tryFrom hp rest (c.skip 1))
    simpa [tryFrom, starts, findSome?_some] using this

theorem firstMarked_all (r : Regex) (c : Cursor) :
    firstMarked r c (.all c.rest) = (r.outcomes c).head? := by
  have all : firstMarked r c (.all c.rest) = (r.outcomes c).find? fun _ => true :=
    List.find?_congr fun d _ => here_alignedAt_all c d
  rw [all]
  cases r.outcomes c <;> rfl

/-- Seeking the first mark and walking from there gives the first outcome. -/
theorem seek_eq {r : Regex} (hp : r.IsPlain) (he : r.isEasy = true) :
    ∀ {rest : Text} {c : Cursor}, c.rest = rest →
      (seek rest (reachFrom c r (.all rest)) c).map (fun d => walk r d (.all d.rest)) =
        ((starts rest c).flatMap r.outcomes).head?
  | rest, c, h => by
    have fits : Marks.Fits c.rest (.all c.rest) := Marks.fits_all c.rest
    have here := here_reachFrom hp he fits
    rw [firstMarked_all] at here
    cases hm : (reachFrom c r (.all c.rest)).here with
    | true =>
      have walked := firstMarked_eq_walk hp he fits hm
      rw [firstMarked_all] at walked
      subst h
      cases hr : c.rest <;> simp [seek, starts, ← hr, hm, walked]
    | false =>
      have none : r.outcomes c = [] := by
        rw [hm] at here
        simpa using here.symm
      cases rest with
      | nil => simp [seek, starts, ← h, hm, none]
      | cons x xs =>
        have skip : (c.skip 1).rest = xs := by simp [h]
        -- the marks for the later positions are those of a computation from the next one
        have later : (reachFrom c r (.all (x :: xs))).tail = reachFrom (c.skip 1) r (.all xs) := by
          have aligned : _ = reachFrom (c.skip 1) r (alignedAt c (c.skip 1) (.all (x :: xs))) :=
            alignedAt_reachFrom hp (c.movesTo_skip (n := 1))
          have one : 1 ≤ c.rest.length := by simp [h]
          rwa [alignedAt_skip one, alignedAt_skip one, List.drop_one, List.drop_one] at aligned
        have later' := seek_eq hp he skip
        rw [h] at hm
        simpa [seek, starts, hm, none, later] using later'

/-- An easy search answers from the outcomes, without trying them. -/
theorem search_of_isEasy {r : Regex} (hp : r.IsPlain) (he : r.isEasy = true) (text : Text) :
    r.search text =
      (((starts text (.start text)).flatMap r.outcomes).head?.elim .failed .found : Verdict) := by
  have found := @seek_eq r hp he text (.start text) rfl
  unfold search
  simp only [he, if_true]
  rw [← found]
  cases seek text (reachFrom (.start text) r (.all text)) (.start text) <;> rfl

/-- A search for a plain expression finds the preferred outcome from the leftmost position that has
one, unless it gives up. -/
theorem search_of_isPlain {r : Regex} (hp : r.IsPlain) (text : Text) :
    match r.search text with
    | .found c => ((starts text (.start text)).flatMap r.outcomes).head? = some c
    | .failed => ((starts text (.start text)).flatMap r.outcomes).head? = none
    | .gaveUp => True := by
  by_cases he : r.isEasy = true
  · rw [search_of_isEasy hp he]
    cases ((starts text (.start text)).flatMap r.outcomes).head? <;> rfl
  · have settled := settles_tryFrom hp text (.start text) searchBudget
    unfold search
    simp only [he, Bool.false_eq_true, if_false]
    cases h : (tryFrom r text (.start text) searchBudget).1 with
    | found c => exact settled.1 c h
    | failed => exact settled.2 h
    | gaveUp => trivial

end Regex

end LocalePaths
