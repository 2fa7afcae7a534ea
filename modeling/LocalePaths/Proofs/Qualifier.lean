import LocalePaths.Qualifier
import LocalePaths.Proofs.Piece.Reading

/-!
# Qualifiers of captured text

What is captured as an Android qualifier is any text on one line. It stands for a locale that is again
text on one line, and so is the qualifier of that locale (`Qualifier.inLine_ofTag_toTag`); only the bare
prefix `b+` stands for no locale at all.
-/

namespace LocalePaths.Qualifier

open Piece

variable {a b x : Char} {language qualifier s tag : Text}

theorem oldCode_eq (language : Text) :
    oldCode language = language ∨ ∃ e ∈ withdrawn, oldCode language = e.2 := by
  unfold oldCode
  split
  · exact .inr ⟨_, List.mem_of_find?_eq_some ‹_›, rfl⟩
  · exact .inl rfl

theorem newCode_eq (code : Text) : newCode code = code ∨ ∃ e ∈ withdrawn, newCode code = e.1 := by
  unfold newCode
  split
  · exact .inr ⟨_, List.mem_of_find?_eq_some ‹_›, rfl⟩
  · exact .inl rfl

theorem inLine_withdrawn : ∀ e ∈ withdrawn, InLine e.1 ∧ InLine e.2 := by
  unfold InLine withdrawn
  decide

theorem inLine_oldCode (h : InLine language) : InLine (oldCode language) := by
  rcases oldCode_eq language with e | ⟨e, he, eq⟩
  · exact e.symm ▸ h
  · exact eq.symm ▸ (inLine_withdrawn e he).2

theorem inLine_newCode (h : InLine language) : InLine (newCode language) := by
  rcases newCode_eq language with e | ⟨e, he, eq⟩
  · exact e.symm ▸ h
  · exact eq.symm ▸ (inLine_withdrawn e he).1

theorem isLower_withdrawn : ∀ e ∈ withdrawn, (e.1 ++ e.2).all Char.isLower = true := by decide

theorem not_mem_oldCode (hx : x.isLower = false) (h : x ∉ language) : x ∉ oldCode language := by
  rcases oldCode_eq language with e | ⟨e, he, eq⟩
  · exact e.symm ▸ h
  · rw [eq]
    intro hm
    have lower := List.all_eq_true.1 (isLower_withdrawn e he) x (List.mem_append_right _ hm)
    exact absurd (hx.symm.trans lower) (by decide)

theorem not_mem_newCode (hx : x.isLower = false) (h : x ∉ language) : x ∉ newCode language := by
  rcases newCode_eq language with e | ⟨e, he, eq⟩
  · exact e.symm ▸ h
  · rw [eq]
    intro hm
    have lower := List.all_eq_true.1 (isLower_withdrawn e he) x (List.mem_append_left _ hm)
    exact absurd (hx.symm.trans lower) (by decide)

theorem not_mem_swap (hb : x ≠ b) (h : x ∉ s) : x ∉ swap a b s := by
  intro hx
  obtain ⟨c, hc, e⟩ := List.mem_map.1 hx
  split at e
  · exact hb e.symm
  · exact h (e ▸ hc)

theorem inLine_ofTag (h : InLine tag) : InLine (ofTag tag) := by
  unfold ofTag
  cases hc : Text.cut? '-' tag with
  | none => exact inLine_oldCode h
  | some p =>
    obtain ⟨language, rest⟩ := p
    obtain ⟨rfl, -⟩ := Text.cut?_eq_some hc
    obtain ⟨hl, hr⟩ := not_or.1 (mt List.mem_append.2 h.2)
    have hr := not_or.1 (mt List.mem_cons.2 hr)
    have hl := not_mem_oldCode (by decide) hl
    dsimp only
    split
    · refine ⟨List.append_ne_nil_of_right_ne_nil _ (List.cons_ne_nil _ _), ?_⟩
      simp [hl, hr.2]
    · have swapped := not_mem_swap (a := '-') (b := '+') (x := '\n') (by decide) hr.2
      refine ⟨List.cons_ne_nil _ _, ?_⟩
      simp [hl, swapped]

theorem cutRegion?_eq_some : ∀ {s language region : Text}, cutRegion? s = some (language, region) →
    s = language ++ '-' :: 'r' :: region
  | c :: s, _, region, h => by
    unfold cutRegion? at h
    cases ha : Text.after? ['-', 'r'] (c :: s) with
    | some rest =>
      rw [ha] at h
      cases h
      have front : c :: s = ['-', 'r'] ++ region := Text.after?_eq_some.1 ha
      exact front
    | none =>
      rw [ha] at h
      obtain ⟨⟨language, region⟩, hs, e⟩ := Option.map_eq_some_iff.1 h
      cases e
      rw [cutRegion?_eq_some hs, List.cons_append]

theorem inLine_spelledTag (h : InLine qualifier) (bare : qualifier ≠ "b+".toList) :
    InLine (spelledTag qualifier) := by
  unfold spelledTag
  split
  · rename_i subtags hs
    obtain rfl := Text.after?_eq_some.1 hs
    have some_tag : subtags ≠ [] := fun e => bare (by rw [e]; rfl)
    refine ⟨fun e => some_tag (List.map_eq_nil_iff.1 e), ?_⟩
    exact not_mem_swap (by decide) fun hx => h.2 (List.mem_append_right _ hx)
  · split
    · rename_i language region hs
      split
      · have parts := h.2
        rw [cutRegion?_eq_some hs] at parts
        refine ⟨List.append_ne_nil_of_right_ne_nil _ (List.cons_ne_nil _ _), ?_⟩
        simp only [List.mem_append, List.mem_cons] at parts ⊢
        grind
      · exact h
    · exact h

theorem inLine_toTag (h : InLine qualifier) (bare : qualifier ≠ "b+".toList) :
    InLine (toTag qualifier) := by
  have spelled := inLine_spelledTag h bare
  unfold toTag
  cases hc : Text.cut? '-' (spelledTag qualifier) with
  | none => exact inLine_newCode spelled
  | some p =>
    obtain ⟨language, rest⟩ := p
    rw [(Text.cut?_eq_some hc).1] at spelled
    obtain ⟨hl, hr⟩ := not_or.1 (mt List.mem_append.2 spelled.2)
    refine ⟨List.append_ne_nil_of_right_ne_nil _ (List.cons_ne_nil _ _), fun hx => ?_⟩
    exact (List.mem_append.1 hx).elim (not_mem_newCode (by decide) hl) hr

theorem inLine_ofTag_toTag (h : InLine qualifier) (bare : qualifier ≠ "b+".toList) :
    InLine (ofTag (toTag qualifier)) :=
  inLine_ofTag (inLine_toTag h bare)

end LocalePaths.Qualifier
