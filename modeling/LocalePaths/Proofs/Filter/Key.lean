import LocalePaths.Filter.Key
import LocalePaths.Proofs.Regex.Quoted

/-!
# Entity keys

The key of one entity selects this entity and no other, whatever characters it has
(`KeyPattern.exists_isMatch_iff_eq`).

A key that is a regular expression selects the entities that the expression matches from the start of their
keys, provided that the expression can be read on its own (`KeyPattern.isMatch_iff_matchAt_start`). It is
put in a group behind an anchor as it is written. So an expression whose parentheses pair only with those
around it is anchored in parts (`KeyPattern.not_forall_matchAt_start`).
-/

namespace LocalePaths

namespace KeyPattern
variable {expression entity : Text} {r : Regex} {k : KeyPattern}

theorem regexOf?_mark (expression : Text) : regexOf? (mark ++ expression) =
    Regex.parse? ("^(?:".toList ++ expression ++ [')']) := by
  unfold regexOf?
  rw [Text.after?_append]

theorem of_eq_ok {source : Text} :
    of source = .ok k ↔ k.source = source ∧ regexOf? source = some k.regex := by
  unfold of
  obtain ⟨_, regex⟩ := k
  cases regexOf? source with
  | none => simp
  | some => simp [eq_comm]

theorem isMatch_eq_ok_true : k.isMatch entity = .ok true ↔ ∃ d, k.regex.search entity = .found d := by
  unfold isMatch Regex.search?
  cases k.regex.search entity <;> simp

/-! ### Keys of one entity -/

theorem quotes_isOperator : Regex.Quotes isOperator where
  operators := List.all_eq_true.1 (by decide)
  others c h := by
    have noLetter : ("\\.+*?()|[]\x7b\x7d^$#".toList.all fun c => !c.isAlphanum) = true := by decide
    simpa using List.all_eq_true.1 noLetter c (List.contains_iff_mem.1 h)

theorem regexOf?_plain {source : Text} (plain : ¬mark <+: source) :
    regexOf? source = some (Regex.spelled source).anchored := by
  have unmarked : Text.after? mark source = none :=
    Option.eq_none_iff_forall_ne_some.2 fun r h => plain ⟨r, (Text.after?_eq_some.1 h).symm⟩
  unfold regexOf?
  rw [unmarked]
  exact Regex.parse?_quote quotes_isOperator source

/-- A key without the mark of an expression can always be read, and it selects the entity that has this key. -/
theorem exists_isMatch_iff_eq {source : Text} (plain : ¬mark <+: source) :
    ∃ k, of source = .ok k ∧ ∀ entity, k.isMatch entity = .ok (decide (entity = source)) := by
  let k : KeyPattern := ⟨source, (Regex.spelled source).anchored⟩
  refine ⟨k, of_eq_ok.2 ⟨rfl, regexOf?_plain plain⟩, fun entity => ?_⟩
  unfold isMatch
  rw [Regex.search?_anchored_spelled]

/-- A key with a blank in front of `re:`, and with most of what means something in an expression. -/
def spacedKey : Text := " re:^(a.b)|[c]*\\d+\x7b2\x7d?\n\té#$".toList

theorem spacedKey_isMatch :
    ¬mark <+: spacedKey ∧
      ∃ k, of spacedKey = .ok k ∧ ∀ entity, k.isMatch entity = .ok (decide (entity = spacedKey)) := by
  have plain : ¬mark <+: spacedKey := by decide
  exact ⟨plain, exists_isMatch_iff_eq plain⟩

/-! ### Keys that are expressions -/

/-- An expression that can be read on its own selects what it matches from the start. -/
theorem isMatch_iff_matchAt_start (alone : Regex.parse? expression = some r)
    (compiled : of (mark ++ expression) = .ok k) :
    (k.isMatch entity = .ok true ↔ ∃ d, k.regex.matchAt (.start entity) = .found d) ∧
      k.regex.matchAt (.start entity) = r.matchAt (.start entity) := by
  obtain ⟨-, wrapped⟩ := of_eq_ok.1 compiled
  rw [regexOf?_mark] at wrapped
  have anchored : k.regex = r.anchored := Regex.parse?_wrapped alone wrapped
  rw [isMatch_eq_ok_true, anchored]
  exact ⟨exists_congr fun _ => Regex.search_anchored r entity, Regex.matchAt_anchored r entity⟩

/-- The alternatives `a|b`, and the key of them. -/
def either : Regex := .alt (.text ['a']) (.text ['b'])

def eitherKey : KeyPattern := ⟨"re:a|b".toList, .seq (.anchor .textStart) either⟩

theorem either_isMatch :
    (Regex.parse? "a|b".toList = some either ∧ of (mark ++ "a|b".toList) = .ok eitherKey) ∧
      (eitherKey.isMatch "b-key".toList = .ok true ↔
        ∃ d, eitherKey.regex.matchAt (.start "b-key".toList) = .found d) ∧
      eitherKey.regex.matchAt (.start "b-key".toList) = either.matchAt (.start "b-key".toList) := by
  have alone : Regex.parse? "a|b".toList = some either := by decide +kernel
  have compiled : of (mark ++ "a|b".toList) = .ok eitherKey := by decide +kernel
  exact ⟨⟨alone, compiled⟩, isMatch_iff_matchAt_start alone compiled⟩

/-- Not every expression that can be read in the group is anchored: in `^(?:a)|(b)` the second alternative
is not. -/
theorem not_forall_matchAt_start : ¬∀ (expression entity : Text) (k : KeyPattern),
    of (mark ++ expression) = .ok k → k.isMatch entity = .ok true →
      ∃ d, k.regex.matchAt (.start entity) = .found d := by
  intro h
  let k : KeyPattern := ⟨"re:a)|(b".toList, .alt (.seq (.anchor .textStart) (.text ['a']))
    (.group ['1'] false (.text ['b']))⟩
  have compiled : of (mark ++ "a)|(b".toList) = .ok k := by decide +kernel
  have selected : k.isMatch "xb".toList = .ok true := by decide +kernel
  have failed : k.regex.matchAt (.start "xb".toList) = .failed := by decide +kernel
  obtain ⟨d, found⟩ := h "a)|(b".toList "xb".toList k compiled selected
  rw [failed] at found
  cases found

end KeyPattern

end LocalePaths
