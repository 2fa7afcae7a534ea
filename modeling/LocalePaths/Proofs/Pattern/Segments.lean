import LocalePaths.Path
import LocalePaths.Proofs.Pattern.Tokens
import Mathlib.Algebra.GroupWithZero.Nat

/-!
# The segments of a path

A segment of a path stands between two separators, or between one of them and an end of the path. Every
segment is found in this way (`Path.exists_of_segment`), and what stands so is a segment
(`Path.exists_segment`).
-/

namespace LocalePaths.Path

open Token (IsLead)

variable {s segment front back : Text} {k : Nat}

/-- The place in the text where the segment with the number `k` starts. -/
def startOf (s : Text) (k : Nat) : Nat := (((segments s).take k).map fun t => t.length + 1).sum

theorem segments_slash (h : '/' ∉ front) (back : Text) :
    segments (front ++ '/' :: back) = front :: segments back := by
  induction front with
  | nil => simp [segments]
  | cons c front ih =>
    obtain ⟨hc, hfront⟩ := not_or.1 (mt List.mem_cons.2 h)
    rw [List.cons_append, segments, if_neg (Ne.symm hc), ih hfront]

theorem segments_single (h : '/' ∉ s) : segments s = [s] := by
  induction s with
  | nil => rfl
  | cons c s ih =>
    obtain ⟨hc, hs⟩ := not_or.1 (mt List.mem_cons.2 h)
    rw [segments, if_neg (Ne.symm hc), ih hs]

/-- A path is a single segment, or a segment in front of another path. -/
theorem segments_induction {motive : Text → Prop} (single : ∀ s, '/' ∉ s → motive s)
    (slash : ∀ front back, '/' ∉ front → motive back → motive (front ++ '/' :: back)) (s : Text) :
    motive s := by
  cases h : Text.cut? '/' s with
  | none => exact single s (Text.cut?_eq_none.1 h)
  | some parts =>
    obtain ⟨front, back⟩ := parts
    obtain ⟨rfl, hfront⟩ := Text.cut?_eq_some h
    exact slash front back hfront (segments_induction single slash back)
termination_by s.length
decreasing_by
  simp only [*, List.length_append, List.length_cons]
  omega

theorem segments_ne_nil (s : Text) : segments s ≠ [] := by
  induction s using segments_induction with
  | single s h => simp [segments_single h]
  | slash front back h => simp [segments_slash h]

theorem startOf_slash (h : '/' ∉ front) (back : Text) (k : Nat) :
    startOf (front ++ '/' :: back) (k + 1) = front.length + 1 + startOf back k := by
  rw [startOf, segments_slash h, List.take_succ_cons, List.map_cons, List.sum_cons]
  rfl

theorem isLead_slash : IsLead (front ++ '/' :: back) ↔ IsLead back := by
  cases back with
  | nil => simp [IsLead]
  | cons c back => simp [IsLead, List.getLast?_append]

theorem exists_of_segment (h : (segments s)[k]? = some segment) : ∃ front back,
    s = front ++ (segment ++ back) ∧ front.length = startOf s k ∧ IsLead front ∧
      (k + 1 = (segments s).length ↔ back = []) ∧ (back = [] ∨ ∃ rest, back = '/' :: rest) := by
  induction s using segments_induction generalizing k with
  | single s hs =>
    rw [segments_single hs] at h ⊢
    cases k with
    | zero =>
      obtain rfl := Option.some.inj h
      exact ⟨[], [], by simp, rfl, .inl rfl, by simp, .inl rfl⟩
    | succ k => cases h
  | slash first rest hfirst ih =>
    rw [segments_slash hfirst] at h ⊢
    cases k with
    | zero =>
      obtain rfl := Option.some.inj h
      have more := segments_ne_nil rest
      exact ⟨[], '/' :: rest, rfl, rfl, .inl rfl, by simpa using more, .inr ⟨rest, rfl⟩⟩
    | succ k =>
      obtain ⟨front, back, rfl, start, lead, last, ends⟩ := ih h
      refine ⟨first ++ '/' :: front, back, by simp, ?_, isLead_slash.2 lead, ?_, ends⟩
      · rw [startOf_slash hfirst, ← start, List.length_append, List.length_cons]
        omega
      · rw [List.length_cons, Nat.add_right_cancel_iff, last]

theorem exists_segment (lead : IsLead front) (plain : '/' ∉ segment)
    (ends : back = [] ∨ ∃ rest, back = '/' :: rest) :
    ∃ k, (segments (front ++ (segment ++ back)))[k]? = some segment ∧
      startOf (front ++ (segment ++ back)) k = front.length ∧
      (k + 1 = (segments (front ++ (segment ++ back))).length ↔ back = []) := by
  induction front using segments_induction with
  | single front hfront =>
    obtain rfl : front = [] := lead.resolve_right fun last =>
      hfront (List.mem_of_getLast? last)
    rcases ends with rfl | ⟨rest, rfl⟩
    · refine ⟨0, ?_⟩
      rw [List.append_nil, List.nil_append, segments_single plain]
      exact ⟨rfl, rfl, by simp⟩
    · have more := segments_ne_nil rest
      refine ⟨0, ?_⟩
      rw [List.nil_append, segments_slash plain]
      exact ⟨rfl, rfl, by simpa using more⟩
  | slash first front hfirst ih =>
    obtain ⟨k, found, start, last⟩ := ih (isLead_slash.1 lead)
    refine ⟨k + 1, ?_⟩
    rw [List.append_assoc, List.cons_append, startOf_slash hfirst, segments_slash hfirst, start,
      List.length_append, List.length_cons, List.length_cons, Nat.add_right_cancel_iff]
    exact ⟨found, by omega, last⟩

end LocalePaths.Path
