import Mathlib.Data.List.TakeWhile
import Mathlib.Data.Set.Function
import LocalePaths.Proofs.Qualifier

/-!
# Tags that come back from their qualifiers

The qualifier of a tag stands for the same tag unless the language of the tag is a withdrawn code already,
or a `+` in the tag is taken for a separator (`Qualifier.toTag_ofTag_eq_self_iff`). So different tags that
come back have different qualifiers.
-/

namespace LocalePaths.Qualifier

variable {a b : Char} {code qualifier rest s tag : Text}

/-- The codes that are not in use any more. -/
def withdrawnCodes : List Text := ["iw".toList, "in".toList, "ji".toList]

/-- The part of a tag before its first hyphen. -/
def language (tag : Text) : Text := tag.takeWhile (· ≠ '-')

/-- The tags that come back from their qualifiers. -/
structure IsReversible (tag : Text) : Prop where
  current : language tag ∉ withdrawnCodes
  spelled : '-' ∈ tag ∧ '+' ∉ tag ∨ '-' ∉ tag ∧ ¬"b+".toList <+: tag

instance : DecidablePred IsReversible := fun tag =>
  decidable_of_iff (language tag ∉ withdrawnCodes ∧
      ('-' ∈ tag ∧ '+' ∉ tag ∨ '-' ∉ tag ∧ ¬"b+".toList <+: tag))
    ⟨fun h => ⟨h.1, h.2⟩, fun h => ⟨h.current, h.spelled⟩⟩

/-! ### Languages -/

theorem hyphen_notMem_language (tag : Text) : '-' ∉ language tag := fun h => by
  simpa using List.mem_takeWhile_imp h

theorem language_of_notMem (h : '-' ∉ tag) : language tag = tag :=
  List.takeWhile_eq_self_iff.2 fun _ hc => decide_eq_true fun e => h (e ▸ hc)

theorem language_append (h : '-' ∉ code) (rest : Text) : language (code ++ '-' :: rest) = code := by
  have kept : ∀ c ∈ code, decide (c ≠ '-') = true := fun c hc => decide_eq_true fun e => h (e ▸ hc)
  unfold language
  rw [List.takeWhile_append_of_pos kept, List.takeWhile_cons_of_neg (by decide), List.append_nil]

theorem exists_rest (h : '-' ∈ tag) : ∃ rest, tag = language tag ++ '-' :: rest := by
  obtain ⟨⟨code, rest⟩, cut⟩ := Option.ne_none_iff_exists'.1 (mt Text.cut?_eq_none.1 (not_not.2 h))
  obtain ⟨rfl, first⟩ := Text.cut?_eq_some cut
  exact ⟨rest, by rw [language_append first]⟩

theorem newCode_notMem (code : Text) : newCode code ∉ withdrawnCodes := by
  unfold newCode
  split
  · rename_i e found
    have names : ∀ e ∈ withdrawn, e.1 ∉ withdrawnCodes := by decide
    exact names e (List.mem_of_find?_eq_some found)
  · rename_i missing
    intro known
    obtain ⟨e, he, eq⟩ : ∃ e ∈ withdrawn, e.2 = code := List.mem_map.1 known
    exact absurd (decide_eq_true eq) (List.find?_eq_none.1 missing e he)

theorem newCode_of_notMem (h : code ∉ withdrawnCodes) : newCode code = code := by
  have missing : withdrawn.find? (·.2 = code) = none := List.find?_eq_none.2 fun e he eq =>
    h (List.mem_map.2 ⟨e, he, of_decide_eq_true eq⟩)
  rw [newCode, missing]

theorem newCode_oldCode (h : code ∉ withdrawnCodes) : newCode (oldCode code) = code := by
  unfold oldCode
  split
  · rename_i e found
    have back : ∀ e ∈ withdrawn, newCode e.2 = e.1 := by decide
    rw [back e (List.mem_of_find?_eq_some found)]
    simpa using List.find?_some found
  · exact newCode_of_notMem h

/-! ### Separators -/

theorem swap_of_notMem (h : a ∉ s) : swap a b s = s := by
  have kept : ∀ c ∈ s, (if c = a then b else c) = id c := fun c hc =>
    if_neg fun e : c = a => h (e ▸ hc)
  exact (List.map_congr_left kept).trans (List.map_id s)

theorem notMem_swap_self (hab : a ≠ b) : a ∉ swap a b s := by
  intro h
  obtain ⟨c, -, e⟩ := List.mem_map.1 h
  split at e
  · exact hab e.symm
  · contradiction

theorem swap_swap (a b : Char) (s : Text) : swap b a (swap a b s) = swap b a s := by
  unfold swap
  rw [List.map_map]
  refine List.map_congr_left fun c _ => ?_
  dsimp only [Function.comp]
  split <;> simp_all

theorem swap_append (s t : Text) : swap a b (s ++ t) = swap a b s ++ swap a b t := List.map_append

theorem swap_hyphen : swap '+' '-' ('-' :: rest) = '-' :: swap '+' '-' rest := rfl

/-! ### Spelled tags -/

theorem plus_notMem_of_all {p : Char → Bool} (h : s.all p = true) (hp : p '+' = false) : '+' ∉ s :=
  fun hm => absurd (List.all_eq_true.1 h _ hm) (by rw [hp]; decide)

theorem cutRegion?_append (h : '-' ∉ code) (region : Text) :
    cutRegion? (code ++ '-' :: 'r' :: region) = some (code, region) := by
  induction code with
  | nil => rfl
  | cons c code ih =>
    obtain ⟨hc, later⟩ := not_or.1 (mt List.mem_cons.2 h)
    have other : Text.after? ['-', 'r'] (c :: (code ++ '-' :: 'r' :: region)) = none := if_neg hc
    rw [List.cons_append, cutRegion?, other, ih later]
    rfl

theorem cutRegion?_eq_none (h : '-' ∉ s) : cutRegion? s = none := by
  cases cut : cutRegion? s with
  | none => rfl
  | some p =>
    rw [cutRegion?_eq_some cut] at h
    exact absurd (List.mem_append_right _ (List.mem_cons_self ..)) h

theorem spelledTag_plain (plain : '-' ∉ qualifier) (front : ¬"b+".toList <+: qualifier) :
    spelledTag qualifier = qualifier := by
  have unmarked : Text.after? ['b', '+'] qualifier = none :=
    Option.eq_none_iff_forall_ne_some.2 fun r h => front ⟨r, (Text.after?_eq_some.1 h).symm⟩
  rw [spelledTag, unmarked, cutRegion?_eq_none plain]

/-- The `+` of the mark is not in what comes before a hyphen. -/
theorem after?_mark (plain : '+' ∉ code) : Text.after? ['b', '+'] (code ++ '-' :: s) = none := by
  match code with
  | [] => rfl
  | [c] =>
    by_cases hc : 'b' = c
    · exact (if_pos hc).trans rfl
    · exact if_neg hc
  | c :: d :: code =>
    have second : '+' ≠ d := fun e =>
      plain (e ▸ List.mem_cons_of_mem _ (List.mem_cons_self ..))
    by_cases hc : 'b' = c
    · exact (if_pos hc).trans (if_neg second)
    · exact if_neg hc

/-- The qualifier of a tag of several parts spells the tag with hyphens only. -/
theorem spelledTag_ofTag (h : '-' ∉ code) (rest : Text) :
    spelledTag (ofTag (code ++ '-' :: rest)) = swap '+' '-' (oldCode code ++ '-' :: rest) := by
  have first := not_mem_oldCode (x := '-') (by decide) h
  rw [ofTag, Text.cut?_append h]
  dsimp only
  split
  · rename_i region
    obtain ⟨letters, capitals⟩ := Bool.and_eq_true_iff.1 region
    have plain := plus_notMem_of_all (Bool.and_eq_true_iff.1 letters).2 (by decide)
    have plain' := plus_notMem_of_all (Bool.and_eq_true_iff.1 capitals).2 (by decide)
    rw [spelledTag, after?_mark plain, cutRegion?_append first, swap_append, swap_of_notMem plain, swap_hyphen,
      swap_of_notMem plain']
    exact if_pos capitals
  · rw [spelledTag, swap_append, swap_hyphen]
    show swap '+' '-' (oldCode code ++ '+' :: swap '-' '+' rest) = _
    rw [swap_append]
    exact congrArg (fun t => swap '+' '-' (oldCode code) ++ '-' :: t) (swap_swap '-' '+' rest)

theorem ofTag_plain (h : '-' ∉ tag) : ofTag tag = oldCode tag := by
  rw [ofTag, Text.cut?_eq_none.2 h]

/-! ### Tags of qualifiers -/

theorem toTag_plain (h : spelledTag qualifier = s) (plain : '-' ∉ s) : toTag qualifier = newCode s := by
  rw [toTag, h, Text.cut?_eq_none.2 plain]

theorem toTag_append (h : spelledTag qualifier = code ++ '-' :: rest) (first : '-' ∉ code) :
    toTag qualifier = newCode code ++ '-' :: rest := by
  rw [toTag, h, Text.cut?_append first]

/-- No tag of a qualifier has a withdrawn code. -/
theorem language_toTag (qualifier : Text) : language (toTag qualifier) ∉ withdrawnCodes := by
  by_cases h : '-' ∈ spelledTag qualifier
  · obtain ⟨rest, parts⟩ := exists_rest h
    have first := hyphen_notMem_language (spelledTag qualifier)
    rw [toTag_append parts first, language_append (not_mem_newCode (by decide) first)]
    exact newCode_notMem _
  · rw [toTag_plain rfl h, language_of_notMem (not_mem_newCode (by decide) h)]
    exact newCode_notMem _

theorem plus_notMem_toTag (h : '+' ∉ spelledTag qualifier) : '+' ∉ toTag qualifier := by
  by_cases hyphen : '-' ∈ spelledTag qualifier
  · obtain ⟨rest, parts⟩ := exists_rest hyphen
    rw [parts, List.mem_append, not_or] at h
    rw [toTag_append parts (hyphen_notMem_language _), List.mem_append, not_or]
    exact ⟨not_mem_newCode (by decide) h.1, h.2⟩
  · rw [toTag_plain rfl hyphen]
    exact not_mem_newCode (by decide) h

theorem toTag_ofTag_of_isReversible (h : IsReversible tag) : toTag (ofTag tag) = tag := by
  rcases h.spelled with ⟨hyphen, plain⟩ | ⟨plain, front⟩
  · obtain ⟨rest, parts⟩ := exists_rest hyphen
    have first := hyphen_notMem_language tag
    have known := h.current
    generalize language tag = code at parts first known
    subst parts
    have separators : '+' ∉ oldCode code ++ '-' :: rest := by
      rw [List.mem_append, not_or] at plain ⊢
      exact ⟨not_mem_oldCode (by decide) plain.1, plain.2⟩
    have spelled := spelledTag_ofTag first rest
    rw [swap_of_notMem separators] at spelled
    rw [toTag_append spelled (not_mem_oldCode (by decide) first), newCode_oldCode known]
  · have known := h.current
    rw [language_of_notMem plain] at known
    have still := not_mem_oldCode (x := '-') (by decide) plain
    have front' : ¬"b+".toList <+: oldCode tag := by
      rcases oldCode_eq tag with e | ⟨e, he, eq⟩
      · rwa [e]
      · have unmarked : ∀ e ∈ withdrawn, ¬"b+".toList <+: e.2 := by decide
        exact eq.symm ▸ unmarked e he
    rw [ofTag_plain plain, toTag_plain (spelledTag_plain still front') still, newCode_oldCode known]

theorem isReversible_of_toTag_ofTag (h : toTag (ofTag tag) = tag) : IsReversible tag where
  current := h ▸ language_toTag (ofTag tag)
  spelled := by
    by_cases hyphen : '-' ∈ tag
    · refine .inl ⟨hyphen, ?_⟩
      obtain ⟨rest, parts⟩ := exists_rest hyphen
      rw [← h]
      apply plus_notMem_toTag
      rw [parts, spelledTag_ofTag (hyphen_notMem_language tag)]
      exact notMem_swap_self (by decide)
    · refine .inr ⟨hyphen, ?_⟩
      rintro ⟨subtags, rfl⟩
      have marked : '+' ∈ "b+".toList ++ subtags := List.mem_cons_of_mem _ (List.mem_cons_self ..)
      have unknown : oldCode ("b+".toList ++ subtags) = "b+".toList ++ subtags := rfl
      rw [ofTag_plain hyphen, unknown] at h
      rw [← h] at marked
      exact plus_notMem_toTag (notMem_swap_self (by decide)) marked

/-- A tag comes back from its qualifier exactly if its language is not a withdrawn code, it has no `+`
beside a hyphen, and it does not start with `b+` without one. Such tags have different qualifiers. -/
theorem toTag_ofTag_eq_self_iff :
    (∀ tag, toTag (ofTag tag) = tag ↔ IsReversible tag) ∧ Set.InjOn ofTag {tag | IsReversible tag} := by
  refine ⟨fun tag => ⟨isReversible_of_toTag_ofTag, toTag_ofTag_of_isReversible⟩, ?_⟩
  have inverse : Set.LeftInvOn toTag ofTag {tag | IsReversible tag} := fun _ h =>
    toTag_ofTag_of_isReversible h
  exact inverse.injOn

/-- Two tags have the qualifier `iw-rIL`; the one that is not in use any more does not come back. -/
theorem hebrew_toTag_ofTag : IsReversible "he-IL".toList ∧ ¬IsReversible "iw-IL".toList ∧
    ofTag "he-IL".toList = ofTag "iw-IL".toList ∧ toTag (ofTag "he-IL".toList) = "he-IL".toList := by
  have reversible : IsReversible "he-IL".toList := by decide
  exact ⟨reversible, by decide, by decide, (toTag_ofTag_eq_self_iff.1 _).2 reversible⟩

end LocalePaths.Qualifier
