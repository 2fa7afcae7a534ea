import LocalePaths.Proofs.Regex.Forward
import LocalePaths.Proofs.Regex.Wrapped

/-!
# Quoted text

Quoted text between `^` and `$` is read as its characters one after another between the two anchors
(`Regex.parse?_quote`), provided that everything that means something in an expression is quoted and nothing
that gets a meaning by a backslash (`Regex.Quotes`). So a search finds it in no text but this one
(`Regex.search?_anchored_spelled`).
-/

namespace LocalePaths.Regex

/-- The characters of a text one after another, and then its end. -/
def spelled (t : Text) : Regex := t.foldr (fun c r => seq (text [c]) r) (anchor .textEnd)

variable {special : Char → Bool} {r : Regex}

/-! ### Reading -/

theorem spell_textEnd : ∀ t : Text, spell t (anchor .textEnd) = spelled t
  | [] => rfl
  | c :: t => by
    show Read.joined (text [c]) (spell t (anchor .textEnd)) = seq (text [c]) (spelled t)
    rw [spell_textEnd t]
    cases t <;> rfl

theorem markReferenced_spelled (labels : List Text) : ∀ t : Text,
    markReferenced labels (spelled t) = spelled t
  | [] => rfl
  | _ :: t => congrArg (seq _) (markReferenced_spelled labels t)

/-- Quoted text between anchors is read as its characters between anchors. -/
theorem parse?_quote (h : Quotes special) (t : Text) :
    parse? ('^' :: quote special t ++ ['$']) = some (anchored (spelled t)) := by
  have quiet : Quiet ['$'] := quiet_cons (by decide)
  have read (limit : Nat) := Read.leads_quote (w := Read.start limit []) (d := 0) h rfl quiet t
  rw [parse?_of_leads rfl rfl (quiet_quote h quiet t) (read _), spell_textEnd, Read.joined_anchor,
    markReferenced_anchored, markReferenced_spelled]

/-! ### Matching -/

theorem isEasy_spelled : ∀ t : Text, (spelled t).isEasy = true
  | [] => rfl
  | _ :: t => isEasy_spelled t

theorem isPlain_spelled : ∀ t : Text, (spelled t).IsPlain
  | [] => trivial
  | _ :: t => ⟨trivial, isPlain_spelled t⟩

/-- A match of the text goes on to the end, so the text is all that follows the cursor. -/
theorem exists_matchAt_spelled : ∀ (t : Text) (c : Cursor),
    (∃ d, (spelled t).matchAt c = .found d) ↔ c.rest = t
  | [], c => by
    have last : (spelled []).outcomes c = if c.rest = [] then [c] else [] := by
      cases h : c.rest <;> simp [spelled, outcomes, Anchor.holds, h]
    rw [matchAt_eq (isPlain_spelled []), if_pos (isEasy_spelled []), last]
    split <;> simp [*]
  | e :: t, c => by
    have first : (spelled (e :: t)).matchAt c =
        if [e].isPrefixOf c.rest then (spelled t).matchAt (c.skip 1) else .failed :=
      matchAt_seq_text (isPlain_spelled t) [e] c
    rw [first]
    cases h : c.rest with
    | nil => simp
    | cons x s =>
      by_cases he : e = x
      · have front : [e].isPrefixOf (x :: s) = true := by simp [he]
        have onward : (c.skip 1).rest = s := by simp [Cursor.skip, h]
        rw [if_pos front, exists_matchAt_spelled t, onward, he, List.cons.injEq, eq_self, true_and]
      · simp [he, Ne.symm he]

/-- A search for a text between the anchors finds it in this text and no other. -/
theorem search?_anchored_spelled (t u : Text) :
    (anchored (spelled t)).search? u = some (decide (u = t)) := by
  have easy : (anchored (spelled t)).isEasy = true := by
    rw [← isEasy_spelled t]
    cases t <;> rfl
  have found : (∃ d, (anchored (spelled t)).search u = .found d) ↔ u = t := by
    simp only [search_anchored, matchAt_anchored]
    exact exists_matchAt_spelled t (.start u)
  unfold search?
  cases h : (anchored (spelled t)).search u with
  | found d => simp [found.1 ⟨d, h⟩]
  | failed =>
    have other : u ≠ t := fun e => by simpa [h] using found.2 e
    simp [other]
  | gaveUp => exact absurd h (search_ne_gaveUp easy u)

end LocalePaths.Regex
