import LocalePaths.Proofs.Regex.Forward
import LocalePaths.Proofs.Regex.Rows

/-!
# Expressions with other labels

Groups may go by other labels: an expression renames another one if it matches in the same places, in the same
order of preference and with the same effort, and captures the same texts under the other labels
(`Regex.Renames`). Then a search for the one finds what a search for the other finds
(`Regex.Renames.search`). Which groups are marked as referenced makes no difference
(`Regex.Renames.marked`).
-/

namespace LocalePaths

namespace Cursor
variable {f : Text → Text} {c d : Cursor} {g : Text}

/-- The cursor with other labels for what groups have captured. -/
def relabel (f : Text → Text) (c : Cursor) : Cursor :=
  { c with captures := c.captures.map fun e => (f e.1, e.2) }

@[simp] theorem rest_relabel : (c.relabel f).rest = c.rest := rfl

@[simp] theorem skip_relabel (n : Nat) : (c.relabel f).skip n = (c.skip n).relabel f := rfl

theorem get?_relabel (hf : Function.Injective f) (c : Cursor) (g : Text) :
    (c.relabel f).captures.get? (f g) = c.captures.get? g := by
  simp only [Captures.get?, relabel, List.find?_map, Option.map_map, Function.comp_def, hf.eq_iff]

theorem openGroup_relabel (hf : Function.Injective f) (c : Cursor) (g : Text) :
    (c.relabel f).openGroup (f g) = (c.openGroup g).relabel f := by
  simp only [openGroup, relabel, Captures.forget, List.filter_map, Function.comp_def, hf.ne_iff]

@[simp] theorem closeGroup_relabel :
    (c.relabel f).closeGroup (d.relabel f) (f g) = (c.closeGroup d g).relabel f := rfl

end Cursor

namespace Regex
variable {f : Text → Text} {q r s t : Regex} {set : CharSet} {labels : List Text} {g : Text}
  {k j : Cursor → Attempt} {c : Cursor}

theorem ite_nil_relabel {p : Prop} [Decidable p] (c : Cursor) :
    (if p then [c.relabel f] else []) = (if p then [c] else []).map (Cursor.relabel f) := by
  split <;> rfl

/-- The expression `r` matches as `s` does, but its groups go by other labels. -/
structure Renames (f : Text → Text) (r s : Regex) : Prop where
  isPlain : r.IsPlain ∧ s.IsPlain
  isEasy : r.isEasy = s.isEasy
  outcomes : ∀ c : Cursor, r.outcomes (c.relabel f) = (s.outcomes c).map (Cursor.relabel f)
  trial : ∀ (k j : Cursor → Attempt) (c : Cursor),
    (∀ d, k (d.relabel f) = (j d).map (Cursor.relabel f)) →
      trial r false k (c.relabel f) = (trial s false j c).map (Cursor.relabel f)

namespace Renames

theorem empty : Renames f empty empty := ⟨⟨trivial, trivial⟩, rfl, fun _ => rfl, fun _ _ c hk => hk c⟩

theorem text (u : Text) : Renames f (text u) (text u) where
  isPlain := ⟨trivial, trivial⟩
  isEasy := rfl
  outcomes c := ite_nil_relabel (c.skip u.length)
  trial _ _ c hk := ite_fail_map (hk (c.skip u.length))

theorem char (set : CharSet) : Renames f (char set) (char set) where
  isPlain := ⟨trivial, trivial⟩
  isEasy := rfl
  outcomes c := by
    obtain ⟨before, rest, captures⟩ := c
    cases rest with
    | nil => rfl
    | cons x xs => exact ite_nil_relabel (Cursor.skip 1 ⟨before, x :: xs, captures⟩)
  trial k j c hk := by
    obtain ⟨before, rest, captures⟩ := c
    cases rest with
    | nil => rfl
    | cons x xs => exact ite_fail_map (hk (Cursor.skip 1 ⟨before, x :: xs, captures⟩))

theorem many (set : CharSet) (greedy : Bool) : Renames f (many set greedy) (many set greedy) where
  isPlain := ⟨trivial, trivial⟩
  isEasy := rfl
  outcomes c := by
    simp only [Regex.outcomes, Cursor.rest_relabel, List.map_map, Function.comp_def, Cursor.skip_relabel]
  trial k j c hk := tryMany_map (fun n => hk (c.skip n)) c.rest 0

theorem anchor (a : Anchor) : Renames f (anchor a) (anchor a) where
  isPlain := ⟨trivial, trivial⟩
  isEasy := rfl
  outcomes c := ite_nil_relabel c
  trial _ _ c hk := ite_fail_map (hk c)

theorem seq (hr : Renames f r s) (hq : Renames f q t) : Renames f (seq r q) (seq s t) where
  isPlain := ⟨⟨hr.isPlain.1, hq.isPlain.1⟩, hr.isPlain.2, hq.isPlain.2⟩
  isEasy := congrArg₂ and hr.isEasy hq.isEasy
  outcomes c := by
    have later : q.outcomes ∘ Cursor.relabel f = fun d => (t.outcomes d).map (Cursor.relabel f) :=
      funext hq.outcomes
    simp only [Regex.outcomes, hr.outcomes, List.flatMap_map, List.map_flatMap]
    exact congrArg (List.flatMap · (s.outcomes c)) later
  trial k j c hk := hr.trial _ _ c fun d => hq.trial k j d hk

theorem alt (hr : Renames f r s) (hq : Renames f q t) : Renames f (alt r q) (alt s t) where
  isPlain := ⟨⟨hr.isPlain.1, hq.isPlain.1⟩, hr.isPlain.2, hq.isPlain.2⟩
  isEasy := congrArg₂ and hr.isEasy hq.isEasy
  outcomes c := by simp only [Regex.outcomes, hr.outcomes, hq.outcomes, List.map_append]
  trial k j c hk := by
    show Attempt.orElse (Regex.trial r false k _) (Regex.trial q false k _) = _
    rw [hr.trial k j c hk, hq.trial k j c hk, ← Attempt.map_orElse]
    rfl

theorem optional (h : Renames f r s) : Renames f (times r 0 (some 1) true) (.alt s .empty) where
  isPlain := ⟨⟨h.isPlain.1, rfl, rfl, rfl⟩, h.isPlain.2, trivial⟩
  isEasy := h.isEasy.trans (Bool.and_true _).symm
  outcomes c := by
    simp only [Regex.outcomes, h.outcomes, List.map_append]
    rfl
  trial k j c hk := by
    show Attempt.orElse (Regex.trial r false k _) (k _) = _
    rw [h.trial k j c hk, hk, ← Attempt.map_orElse]
    rfl

theorem group (hf : Function.Injective f) (h : Renames f r s) (g : Text) :
    Renames f (group (f g) false r) (group g false s) where
  isPlain := h.isPlain
  isEasy := h.isEasy
  outcomes c := by
    simp only [Regex.outcomes, Cursor.openGroup_relabel hf, h.outcomes, List.map_map, Function.comp_def,
      Cursor.closeGroup_relabel]
  trial k j c hk := by
    have inside := h.trial (fun d => k ((c.relabel f).closeGroup d (f g))) (fun d => j (c.closeGroup d g))
      (c.openGroup g) fun d => hk (c.closeGroup d g)
    rw [← Cursor.openGroup_relabel hf] at inside
    exact inside

theorem backref (hf : Function.Injective f) (g : Text) : Renames f (backref (f g)) (backref g) where
  isPlain := ⟨trivial, trivial⟩
  isEasy := rfl
  outcomes c := by
    simp only [Regex.outcomes, Cursor.get?_relabel hf]
    cases c.captures.get? g with
    | none => rfl
    | some u => exact ite_nil_relabel (c.skip u.length)
  trial k j c hk := by
    simp only [Regex.trial, Bool.false_and, Bool.false_eq_true, if_false, Cursor.get?_relabel hf,
      Cursor.rest_relabel]
    cases c.captures.get? g with
    | none => rfl
    | some u => exact ite_fail_map (hk (c.skip u.length))

/-- What renames an expression renames all that are matched in the same way. -/
theorem right (h : Renames f r s) (plain : t.IsPlain) (easy : t.isEasy = s.isEasy)
    (outcomes : ∀ c, t.outcomes c = s.outcomes c)
    (trial : ∀ k c, Regex.trial t false k c = Regex.trial s false k c) : Renames f r t where
  isPlain := ⟨h.isPlain.1, plain⟩
  isEasy := h.isEasy.trans easy.symm
  outcomes c := (h.outcomes c).trans (congrArg _ (outcomes c).symm)
  trial k j c hk := (h.trial k j c hk).trans (congrArg _ (trial j c).symm)

theorem left (h : Renames f r s) (plain : t.IsPlain) (easy : t.isEasy = r.isEasy)
    (outcomes : ∀ c, t.outcomes c = r.outcomes c)
    (trial : ∀ k c, Regex.trial t false k c = Regex.trial r false k c) : Renames f t s where
  isPlain := ⟨plain, h.isPlain.2⟩
  isEasy := easy.trans h.isEasy
  outcomes c := (outcomes _).trans (h.outcomes c)
  trial k j c hk := (trial k _).trans (h.trial k j c hk)

theorem seq_assoc : Renames f r (.seq (.seq q s) t) ↔ Renames f r (.seq q (.seq s t)) := by
  have outcomes (c : Cursor) :
      (Regex.seq (.seq q s) t).outcomes c = (Regex.seq q (.seq s t)).outcomes c := by
    simp only [Regex.outcomes, List.flatMap_assoc]
  constructor
  · intro h
    obtain ⟨⟨hq, hs⟩, ht⟩ := h.isPlain.2
    exact h.right ⟨hq, hs, ht⟩ (Bool.and_assoc ..).symm (fun c => (outcomes c).symm) fun _ _ => rfl
  · intro h
    obtain ⟨hq, hs, ht⟩ := h.isPlain.2
    exact h.right ⟨⟨hq, hs⟩, ht⟩ (Bool.and_assoc ..) outcomes fun _ _ => rfl

theorem empty_seq (h : Renames f r s) : Renames f r (.seq .empty s) :=
  h.right ⟨trivial, h.isPlain.2⟩ (Bool.true_and _)
    (fun c => by simp only [Regex.outcomes, List.flatMap_singleton]) fun _ _ => rfl

theorem seq_empty (h : Renames f r (.seq s .empty)) : Renames f r s :=
  h.right h.isPlain.2.1 (Bool.and_true _).symm
    (fun c => by simp only [Regex.outcomes, List.flatMap_singleton']) fun _ _ => rfl

theorem isPlain_joined (hr : r.IsPlain) (hq : q.IsPlain) : (Read.joined r q).IsPlain := by
  unfold Read.joined
  split
  · exact hq
  · exact hr
  · exact ⟨hr, hq⟩

/-- Parts of a row of which one that matches nothing more may be left out. -/
theorem joined (hr : Renames f r s) (hq : Renames f q t) : Renames f (Read.joined r q) (.seq s t) := by
  refine (hr.seq hq).left (isPlain_joined hr.isPlain.1 hq.isPlain.1) ?_ (fun c => ?_) fun k c => ?_
  · unfold Read.joined
    split
    · exact (Bool.true_and _).symm
    · exact (Bool.and_true _).symm
    · rfl
  · unfold Read.joined
    split
    · simp only [Regex.outcomes, List.flatMap_singleton]
    · simp only [Regex.outcomes, List.flatMap_singleton']
    · rfl
  · unfold Read.joined
    split <;> rfl

theorem spell (h : Renames f r s) : ∀ u : Text, Renames f (Regex.spell u r) (.seq (.text u) s)
  | [] => by
    have still (c : Cursor) : c.skip 0 = c := by simp [Cursor.skip]
    refine h.right ⟨trivial, h.isPlain.2⟩ (Bool.true_and _) (fun c => ?_) fun k c => ?_
    · simp [Regex.outcomes, still]
    · simp [Regex.trial, still]
  | x :: u => by
    have first := seq_assoc.2 ((text (f := f) [x]).joined (h.spell u))
    exact first.right ⟨trivial, h.isPlain.2⟩ rfl (fun c => congrArg _ (outcomes_text_cons x u c).symm)
      fun k c => (congrFun (trial_text_cons x u (Regex.trial s false k)) c).symm

end Renames

/-! ### Marked groups -/

theorem markReferenced_nil : ∀ r : Regex, markReferenced [] r = r
  | empty | text _ | char _ | many _ _ | anchor _ | backref _ | captured _ => rfl
  | seq r s => congrArg₂ seq (markReferenced_nil r) (markReferenced_nil s)
  | alt r s => congrArg₂ alt (markReferenced_nil r) (markReferenced_nil s)
  | times r lo hi greedy => congrArg (times · lo hi greedy) (markReferenced_nil r)
  | group g referenced r =>
    congrArg₂ (group g) (Bool.or_false referenced) (markReferenced_nil r)
  | ahead positive r => congrArg (ahead positive) (markReferenced_nil r)
  | behind n positive r => congrArg (behind n positive) (markReferenced_nil r)
  | atomic r => congrArg atomic (markReferenced_nil r)

theorem isEasy_of_markReferenced : ∀ {r : Regex}, (markReferenced labels r).isEasy = true → r.isEasy = true
  | empty, _ | text _, _ | char _, _ | many _ _, _ | anchor _, _ => rfl
  | seq _ _, h | alt _ _, h => by
    obtain ⟨hr, hs⟩ := Bool.and_eq_true_iff.1 h
    exact Bool.and_eq_true_iff.2 ⟨isEasy_of_markReferenced hr, isEasy_of_markReferenced hs⟩
  | times r _ _ _, h => isEasy_of_markReferenced (r := r) h
  | group g referenced r, h => by
    obtain ⟨unmarked, hr⟩ := Bool.and_eq_true_iff.1 h
    refine Bool.and_eq_true_iff.2 ⟨?_, isEasy_of_markReferenced hr⟩
    cases referenced
    · rfl
    · cases unmarked

theorem isPlain_markReferenced : ∀ {r : Regex}, r.IsPlain → (markReferenced labels r).IsPlain
  | empty, h | text _, h | char _, h | many _ _, h | anchor _, h | backref _, h | captured _, h => h
  | seq _ _, h | alt _ _, h => ⟨isPlain_markReferenced h.1, isPlain_markReferenced h.2⟩
  | times _ _ _ _, h => ⟨isPlain_markReferenced h.1, h.2⟩
  | group _ _ r, h => isPlain_markReferenced (r := r) h

theorem outcomes_markReferenced : ∀ {r : Regex} {c : Cursor}, r.IsPlain →
    (markReferenced labels r).outcomes c = r.outcomes c
  | empty, _, _ | text _, _, _ | char _, _, _ | many _ _, _, _ | anchor _, _, _ | backref _, _, _
  | captured _, _, _ => rfl
  | seq r s, c, h => by
    have hs : (markReferenced labels s).outcomes = s.outcomes := funext fun d => outcomes_markReferenced h.2
    show List.flatMap _ ((markReferenced labels r).outcomes c) = _
    rw [outcomes_markReferenced h.1, hs]
    rfl
  | alt r s, c, h => by
    show (markReferenced labels r).outcomes c ++ (markReferenced labels s).outcomes c = _
    rw [outcomes_markReferenced h.1, outcomes_markReferenced h.2]
    rfl
  | times r _ _ _, c, h => congrArg (· ++ [c]) (outcomes_markReferenced h.1)
  | group g _ r, c, h => congrArg (List.map _) (outcomes_markReferenced (r := r) h)

theorem trial_markReferenced : ∀ {r : Regex} {k : Cursor → Attempt} {c : Cursor}, r.IsPlain →
    trial (markReferenced labels r) false k c = trial r false k c
  | empty, _, _, _ | text _, _, _, _ | char _, _, _, _ | many _ _, _, _, _ | anchor _, _, _, _
  | backref _, _, _, _ | captured _, _, _, _ => rfl
  | seq r s, k, c, h => by
    have hs : trial (markReferenced labels s) false k = trial s false k :=
      funext fun d => trial_markReferenced h.2
    show trial (markReferenced labels r) false (trial (markReferenced labels s) false k) c = _
    rw [trial_markReferenced h.1, hs]
    rfl
  | alt r s, k, c, h => congrArg₂ Attempt.orElse (trial_markReferenced h.1) (trial_markReferenced h.2)
  | times r _ _ _, k, c, ⟨h, rfl, rfl, rfl⟩ => congrArg (Attempt.orElse · (k c)) (trial_markReferenced h)
  | group g _ r, k, c, h => trial_markReferenced (r := r) h

/-- Marks make no difference if they are set only where there are references. -/
theorem Renames.marked (h : Renames f r s) (unmarked : s.isEasy = true → labels = []) :
    Renames f (markReferenced labels r) s := by
  have plain := h.isPlain.1
  refine h.left (isPlain_markReferenced plain) ?_ (fun _ => outcomes_markReferenced plain)
    fun _ _ => trial_markReferenced plain
  cases easy : r.isEasy with
  | true => rw [unmarked (h.isEasy.symm.trans easy), markReferenced_nil, easy]
  | false => exact Bool.eq_false_iff.2 fun marked => by simp [isEasy_of_markReferenced marked] at easy

/-- A search finds what a search for the renamed expression finds, under the other labels. -/
theorem Renames.search (h : Renames f r s) (text : Text) :
    r.search text = (s.search text).map (Cursor.relabel f) :=
  search_map (F := Cursor.relabel f) (fun _ => rfl) rfl h.isPlain.1 h.isPlain.2 h.isEasy h.outcomes
    fun c => h.trial _ .succeed c fun _ => rfl

end Regex

end LocalePaths
