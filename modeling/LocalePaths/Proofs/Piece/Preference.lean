import LocalePaths.Proofs.Piece.Decomposition
import Mathlib.Data.List.Basic

/-!
# Outcomes in order of preference

The outcomes of the expression of nodes stand for the decompositions of what is read, the preferred one first
(`Piece.exists_ranks`). `Ranks` is a list of the decompositions with their outcomes, and there is one lemma
for each way in which expressions are built.
-/

namespace LocalePaths

open Relation Portion

namespace Regex
variable {r : Regex} {set : CharSet} {prefers : Preference}

/-- The outcomes come in the order of the preferred length of what is matched. The less is left the more has
been matched. -/
def Tries (r : Regex) (prefers : Preference) : Prop :=
  ∀ c, (r.outcomes c).Pairwise fun d e => prefers.Prefers e.rest.length d.rest.length

theorem pairwise_greedy (set : CharSet) : ∀ s : Text, (manyLengths set true s).Pairwise (· > ·)
  | [] => List.pairwise_singleton ..
  | x :: s => by
    unfold manyLengths
    split
    · refine List.pairwise_append.2 ⟨?_, List.pairwise_singleton .., ?_⟩
      · exact List.pairwise_map.2 ((pairwise_greedy set s).imp (Nat.add_lt_add_right · 1))
      · simp
    · exact List.pairwise_singleton ..

theorem pairwise_lazy (set : CharSet) : ∀ s : Text, (manyLengths set false s).Pairwise (· < ·)
  | [] => List.pairwise_singleton ..
  | x :: s => by
    unfold manyLengths
    split
    · refine List.pairwise_cons.2 ⟨by simp, ?_⟩
      exact List.pairwise_map.2 ((pairwise_lazy set s).imp (Nat.add_lt_add_right · 1))
    · exact List.pairwise_singleton ..

theorem tries_greedy (set : CharSet) : (many set true).Tries .longer := fun c => by
  refine List.pairwise_map.2 ((pairwise_greedy set c.rest).imp_of_mem fun {m n} hm hn (h : n < m) => ?_)
  have := le_of_mem_manyLengths hm
  show (c.rest.drop m).length < (c.rest.drop n).length
  simp only [List.length_drop]
  omega

theorem tries_lazy (set : CharSet) : (many set false).Tries .shorter := fun c => by
  refine List.pairwise_map.2 ((pairwise_lazy set c.rest).imp_of_mem fun {m n} hm hn (h : m < n) => ?_)
  have := le_of_mem_manyLengths hn
  show (c.rest.drop n).length < (c.rest.drop m).length
  simp only [List.length_drop]
  omega

theorem Tries.after_char (h : r.Tries prefers) (set : CharSet) :
    (seq (char set) r).Tries prefers := fun c => by
  obtain ⟨before, rest, captures⟩ := c
  cases rest with
  | nil => exact .nil
  | cons x rest =>
    simp only [outcomes]
    split
    · rw [List.flatMap_singleton]
      exact h _
    · exact .nil

/-- A text behind what is matched keeps the order. -/
theorem Tries.before_text (h : r.Tries .longer) (t : Text) : (seq r (text t)).Tries .longer := fun c => by
  refine List.pairwise_flatMap.2 ⟨fun d _ => ?_, (h c).imp fun {d e} less x hx y hy => ?_⟩
  · unfold outcomes
    split
    · exact List.pairwise_singleton ..
    · exact .nil
  · obtain ⟨_, rest, hd, rfl, rfl⟩ := (takes_text t d x).1 hx
    obtain ⟨_, rest', he, rfl, rfl⟩ := (takes_text _ e y).1 hy
    have less : d.rest.length < e.rest.length := less
    show rest.length < rest'.length
    simpa [hd, he] using less

end Regex

namespace Piece

theorem tries_grouped {r : Regex} {prefers : Preference} (h : r.Tries prefers) (group : Option Text) :
    (grouped group r).Tries prefers := fun c => by
  cases group with
  | none => exact h c
  | some g => exact List.pairwise_map.2 (h _)

/-- The outcomes `out` from a cursor with the decompositions that they stand for, the preferred ones first:
those of the texts behind the cursor with `D`. Captures and portions are related by `I`. -/
structure Ranks (D : Text → List Portion → Prop) (I : Captures → List Portion → Prop) (c : Cursor)
    (out : List Cursor) (ranks : List (List Portion × Cursor)) : Prop where
  outcomes : ranks.map Prod.snd = out
  sound : ∀ e ∈ ranks, ∃ u, c.rest = u ++ e.2.rest ∧ D u e.1 ∧ I e.2.captures e.1
  complete : ∀ u rest ds, c.rest = u ++ rest → D u ds → ∃ e ∈ ranks, e.1 = ds ∧ e.2.rest = rest
  sorted : ranks.Pairwise fun d e => Earlier d.1 e.1

section
variable {D D' : Text → List Portion → Prop} {I J : Captures → List Portion → Prop} {c : Cursor}
  {out : List Cursor} {ranks : List (List Portion × Cursor)} {ds : List Portion} {r s : Regex}

theorem Ranks.congr (h : Ranks D I c out ranks) (same : ∀ u ds, D u ds ↔ D' u ds) :
    Ranks D' I c out ranks := by
  have : D = D' := funext fun u => funext fun ds => propext (same u ds)
  exact this ▸ h

theorem ranks_fixed (t : Text) (kept : I c.captures ds) : ∃ ranks, Ranks (fun u es => u = t ∧ es = ds) I c
    (if t.isPrefixOf c.rest then [c.skip t.length] else []) ranks := by
  refine ⟨(if t.isPrefixOf c.rest then [c.skip t.length] else []).map (ds, ·), ?_, ?_, ?_, ?_⟩
  · rw [List.map_map]
    exact List.map_id _
  · intro e he
    obtain ⟨d, hd, rfl⟩ := List.mem_map.1 he
    obtain ⟨rest, h, rfl⟩ := Regex.mem_skip_of_prefix.1 hd
    exact ⟨t, h, ⟨rfl, rfl⟩, kept⟩
  · rintro u rest _ h ⟨rfl, rfl⟩
    exact ⟨_, List.mem_map.2 ⟨_, Regex.mem_skip_of_prefix.2 ⟨rest, h, rfl⟩, rfl⟩, rfl, rfl⟩
  · split
    · exact List.pairwise_singleton ..
    · exact .nil

theorem ranks_portion (ds : List Portion) (slot : Slot) {P : Text → Prop} {f : Text → Captures}
    {prefers : Preference}
    (mem : ∀ d, d ∈ out ↔ ∃ u rest, c.rest = u ++ rest ∧ P u ∧ d = ⟨u.reverse ++ c.before, rest, f u⟩)
    (tries : out.Pairwise fun d e => prefers.Prefers e.rest.length d.rest.length)
    (kept : ∀ u, P u → I (f u) (ds ++ [⟨slot, prefers, u⟩])) :
    ∃ ranks, Ranks (fun u es => P u ∧ es = ds ++ [⟨slot, prefers, u⟩]) I c out ranks := by
  refine ⟨out.map fun d => (ds ++ [⟨slot, prefers, c.upTo d⟩], d), ?_, ?_, ?_, ?_⟩
  · simp [Function.comp_def]
  · intro e he
    obtain ⟨d, hd, rfl⟩ := List.mem_map.1 he
    obtain ⟨u, rest, h, hu, rfl⟩ := (mem d).1 hd
    rw [c.upTo_eq h]
    exact ⟨u, h, ⟨hu, rfl⟩, kept u hu⟩
  · rintro u rest _ h ⟨hu, rfl⟩
    refine ⟨_, List.mem_map.2 ⟨_, (mem _).2 ⟨u, rest, h, hu, rfl⟩, rfl⟩, ?_, rfl⟩
    rw [c.upTo_eq h]
  · refine List.pairwise_map.2 (tries.imp_of_mem fun {d e} hd he less => ?_)
    obtain ⟨u, rest, h, -, rfl⟩ := (mem d).1 hd
    obtain ⟨u', rest', h', -, rfl⟩ := (mem e).1 he
    rw [c.upTo_eq h, c.upTo_eq h']
    refine ⟨ds, _, _, [], [], rfl, rfl, rfl, rfl, ?_⟩
    have all : (u ++ rest).length = (u' ++ rest').length := by rw [← h, h']
    simp only [List.length_append] at all
    cases prefers with
    | longer =>
      have less : rest.length < rest'.length := less
      show u'.length < u.length
      omega
    | shorter =>
      have less : rest'.length < rest.length := less
      show u.length < u'.length
      omega
    | fixed => exact less

theorem Ranks.seq {D' : List Portion → Text → List Portion → Prop} (h : Ranks D I c (r.outcomes c) ranks)
    (later : ∀ (mid : List Portion) (d : Cursor), I d.captures mid →
      ∃ ranks, Ranks (D' mid) J d (s.outcomes d) ranks)
    (adds : ∀ {mid u es}, D' mid u es → ∃ fs, es = mid ++ fs) :
    ∃ ranks, Ranks (fun u es => ∃ a b mid, u = a ++ b ∧ D a mid ∧ D' mid b es) J c
      ((Regex.seq r s).outcomes c) ranks := by
  have each : ∀ e ∈ ranks, ∃ l, Ranks (D' e.1) J e.2 (s.outcomes e.2) l := fun e he => by
    obtain ⟨_, _, _, hI⟩ := h.sound e he
    exact later e.1 e.2 hI
  choose! f hf using each
  refine ⟨ranks.flatMap f, ?_, ?_, ?_, ?_⟩
  · rw [Regex.outcomes, ← h.outcomes, List.map_flatMap, List.flatMap_map]
    exact List.flatMap_congr fun e he => (hf e he).outcomes
  · intro x hx
    obtain ⟨e, he, hx⟩ := List.mem_flatMap.1 hx
    obtain ⟨a, ha, hD, -⟩ := h.sound e he
    obtain ⟨b, hb, hD', hJ⟩ := (hf e he).sound x hx
    exact ⟨a ++ b, by rw [ha, hb, List.append_assoc], ⟨a, b, e.1, rfl, hD, hD'⟩, hJ⟩
  · rintro _ rest es hrest ⟨a, b, mid, rfl, hD, hD'⟩
    obtain ⟨e, he, rfl, hb⟩ := h.complete a (b ++ rest) mid (by rw [hrest, List.append_assoc]) hD
    obtain ⟨x, hx, same, left⟩ := (hf e he).complete b rest es hb hD'
    exact ⟨x, List.mem_flatMap.2 ⟨e, he, hx⟩, same, left⟩
  · refine List.pairwise_flatMap.2 ⟨fun e he => (hf e he).sorted, ?_⟩
    refine h.sorted.imp_of_mem fun {d e} hd he earlier x hx y hy => ?_
    obtain ⟨_, -, hx, -⟩ := (hf d hd).sound x hx
    obtain ⟨_, -, hy, -⟩ := (hf e he).sound y hy
    obtain ⟨fs, hx⟩ := adds hx
    obtain ⟨fs', hy⟩ := adds hy
    rw [hx, hy]
    exact earlier.append fs fs'

theorem Ranks.group {g : Text} (slot : Slot)
    (h : Ranks D I (c.openGroup g) (r.outcomes (c.openGroup g)) ranks)
    (kept : ∀ {u cs es}, D u es → I cs es → J ((g, u) :: cs) (es ++ [⟨slot, .fixed, u⟩])) :
    ∃ ranks, Ranks (fun u es => ∃ mid, D u mid ∧ es = mid ++ [⟨slot, .fixed, u⟩]) J c
      ((Regex.group g false r).outcomes c) ranks := by
  refine ⟨ranks.map fun e => (e.1 ++ [⟨slot, .fixed, c.upTo e.2⟩], c.closeGroup e.2 g), ?_, ?_, ?_, ?_⟩
  · rw [Regex.outcomes, ← h.outcomes, List.map_map, List.map_map]
    rfl
  · intro x hx
    obtain ⟨e, he, rfl⟩ := List.mem_map.1 hx
    obtain ⟨u, hu, hD, hI⟩ := h.sound e he
    have read : c.upTo e.2 = u := c.upTo_eq hu
    refine ⟨u, hu, ⟨e.1, hD, by rw [read]⟩, ?_⟩
    rw [Cursor.closeGroup, read]
    exact kept hD hI
  · rintro u rest _ hrest ⟨mid, hD, rfl⟩
    obtain ⟨e, he, rfl, left⟩ := h.complete u rest mid hrest hD
    have read : c.upTo e.2 = u := c.upTo_eq (by rw [left]; exact hrest)
    exact ⟨_, List.mem_map.2 ⟨e, he, rfl⟩, by rw [read], left⟩
  · exact List.pairwise_map.2 (h.sorted.imp fun earlier => earlier.append _ _)

end

/-! ### Captures and portions -/

/-- The captures are the texts of the portions. The groups `o` have been opened; those of the variables
`opening` are not closed yet. -/
structure Tracks (env : Environment) (o opening : List Text) (cs : Captures) (ds : List Portion) :
    Prop where
  named : ∀ x, cs.get? (groupName x) = textAt ds (.named x)
  wildcards : ∀ id, (cs.get? (starName id)).getD [] = (textAt ds (.wildcard id)).getD []
  opened : ∀ g, g ∈ o ↔ ∃ s : Slot, s.group = g ∧ ((textAt ds s).isSome ∨ ∃ x ∈ opening, s = .named x)
  unclosed : ∀ x ∈ opening, textAt ds (.named x) = none
  settled : env.Settled ds

section
variable {env : Environment} {o o' opening : List Text} {cs : Captures} {ds es : List Portion}
  {id : Nat} {x u : Text} {slot : Slot} {prefers : Preference}

theorem tracks_nil : Tracks env [] [] [] [] :=
  ⟨fun _ => rfl, fun _ => rfl, by simp, nofun, Environment.settled_nil⟩

theorem Tracks.fresh (h : Tracks env o opening cs ds) (slot : Slot) (hs : slot.group ∉ o) :
    textAt ds slot = none := by
  rw [← Option.not_isSome_iff_eq_none]
  exact fun taken => hs ((h.opened _).2 ⟨slot, rfl, .inl taken⟩)

theorem Tracks.taken_or (h : Tracks env o opening cs ds) (hx : groupName x ∈ o) :
    (textAt ds (.named x)).isSome ∨ x ∈ opening := by
  obtain ⟨s, hs, taken⟩ := (h.opened _).1 hx
  obtain rfl : s = .named x := Slot.group_injective hs
  refine taken.imp id ?_
  rintro ⟨y, hy, e⟩
  exact Slot.named.inj e ▸ hy

theorem opened_concat (opened : ∀ g, g ∈ o ↔
      ∃ s : Slot, s.group = g ∧ ((textAt ds s).isSome ∨ ∃ x ∈ opening, s = .named x))
    (ho : ∀ g, g ∈ o' ↔ g = slot.group ∨ g ∈ o) (g : Text) : g ∈ o' ↔ ∃ s : Slot, s.group = g ∧
      ((textAt (ds ++ [⟨slot, prefers, u⟩]) s).isSome ∨ ∃ x ∈ opening, s = .named x) := by
  simp only [ho, opened, textAt_append, textAt_singleton, Option.isSome_or]
  constructor
  · rintro (rfl | ⟨s, rfl, taken | hop⟩)
    · exact ⟨slot, rfl, .inl (by simp)⟩
    · exact ⟨s, rfl, .inl (by simp [taken])⟩
    · exact ⟨s, rfl, .inr hop⟩
  · rintro ⟨s, rfl, taken | hop⟩
    · by_cases e : slot = s
      · exact .inl (e ▸ rfl)
      · exact .inr ⟨s, rfl, .inl (by simpa [e] using taken)⟩
    · exact .inr ⟨s, rfl, .inr hop⟩

/-- A wildcard adds its portion. Its group captures the text if it is the first one of its number, and if
the wildcard is not skipped. -/
theorem Tracks.wildcard {cs' : Captures} (h : Tracks env o opening cs ds)
    (others : ∀ g, g ≠ starName id → cs'.get? g = cs.get? g)
    (own : (cs'.get? (starName id)).getD [] = (textAt ds (.wildcard id)).getD u) :
    Tracks env (openOnce o (starName id)).2 opening cs' (ds ++ [⟨.wildcard id, .longer, u⟩]) where
  named x := by
    rw [others _ (groupName_ne_starName x id), h.named, textAt_concat_of_ne (Slot.wildcard_ne_named _ _)]
  wildcards id' := by
    by_cases e : id = id'
    · subst e
      rw [own, textAt_concat_self, Option.getD_some]
    · have e' : Slot.wildcard id ≠ .wildcard id' := fun h => e (Slot.wildcard.inj h)
      rw [others _ fun h => e (starName_injective h).symm, h.wildcards, textAt_concat_of_ne e']
  opened := opened_concat h.opened fun g => by
    rw [mem_openOnce]
    unfold openOnce
    split
    · rename_i ho
      simp only [Option.toList_none, List.not_mem_nil, false_or]
      exact (or_iff_right_of_imp fun e => e ▸ List.contains_iff_mem.1 ho).symm
    · simp [Slot.group]
  unclosed x hx := by rw [textAt_concat_of_ne (Slot.wildcard_ne_named _ _), h.unclosed x hx]
  settled := h.settled.concat fun y e => absurd e (Slot.wildcard_ne_named id y)

theorem record_openOnce_of_ne {g : Text} (hg : g ≠ starName id) :
    (cs.record (openOnce o (starName id)).1 u).get? g = cs.get? g :=
  Captures.get?_record_of_ne fun e => hg (openOnce_eq (Option.mem_toList.2 e.symm))

theorem Tracks.read (h : Tracks env o opening cs ds) (id : Nat) (u : Text) :
    Tracks env (openOnce o (starName id)).2 opening (cs.record (openOnce o (starName id)).1 u)
      (ds ++ [⟨.wildcard id, .longer, u⟩]) := by
  refine h.wildcard (fun _ => record_openOnce_of_ne) ?_
  unfold openOnce
  split
  · rename_i ho
    obtain ⟨s, hs, taken⟩ := (h.opened _).1 (List.contains_iff_mem.1 ho)
    obtain rfl : s = .wildcard id := Slot.group_injective hs
    obtain ⟨t, ht⟩ := Option.isSome_iff_exists.1 (taken.resolve_right fun ⟨_, _, e⟩ => nomatch e)
    show (cs.get? (starName id)).getD [] = _
    rw [h.wildcards, ht]
    rfl
  · rename_i ho
    rw [Captures.get?_record_self, h.fresh (.wildcard id) (mt List.contains_iff_mem.2 ho)]
    rfl

theorem Tracks.skip (h : Tracks env o opening cs ds) (id : Nat) :
    Tracks env (openOnce o (starName id)).2 opening cs (ds ++ [⟨.wildcard id, .longer, []⟩]) :=
  h.wildcard (fun _ _ => rfl) (h.wildcards id)

theorem Tracks.free (h : Tracks env o opening cs ds) (hx : groupName x ∉ o) (u : Text)
    (acc : Acc env.OccursIn x) : Tracks env (groupName x :: o) opening
      (cs.record (some (groupName x)) u) (ds ++ [⟨.named x, .shorter, u⟩]) where
  named y := by
    by_cases e : x = y
    · subst e
      rw [Captures.get?_record_self, textAt_concat_self, h.fresh (.named x) hx]
      rfl
    · have e' : Slot.named x ≠ .named y := fun h => e (Slot.named.inj h)
      have other : some (groupName y) ≠ some (groupName x) :=
        fun h => e (groupName_injective (Option.some.inj h)).symm
      rw [Captures.get?_record_of_ne other, h.named, textAt_concat_of_ne e']
  wildcards id := by
    have other : some (starName id) ≠ some (groupName x) :=
      fun h => groupName_ne_starName x id (Option.some.inj h).symm
    rw [Captures.get?_record_of_ne other, h.wildcards,
      textAt_concat_of_ne (Slot.wildcard_ne_named _ _).symm]
  opened := opened_concat h.opened fun g => List.mem_cons
  unclosed y hy := by
    have e : Slot.named x ≠ .named y := fun e => by
      cases e
      exact hx ((h.opened _).2 ⟨_, rfl, .inr ⟨x, hy, rfl⟩⟩)
    rw [textAt_concat_of_ne e, h.unclosed y hy]
  settled := h.settled.concat fun y e => Slot.named.inj e ▸ acc

/-- The group of a bound variable is open while what it stands for is read. -/
theorem Tracks.enter (h : Tracks env o opening cs ds) (hx : groupName x ∉ o) :
    Tracks env (groupName x :: o) (x :: opening) (cs.forget (groupName x)) ds where
  named y := by
    by_cases e : groupName y = groupName x
    · rw [e, Captures.get?_forget_self, groupName_injective e, h.fresh (.named x) hx]
    · rw [Captures.get?_forget_of_ne e, h.named]
  wildcards id := by
    rw [Captures.get?_forget_of_ne (groupName_ne_starName x id).symm, h.wildcards]
  opened g := by
    rw [List.mem_cons, h.opened]
    constructor
    · rintro (rfl | ⟨s, rfl, taken | ⟨y, hy, rfl⟩⟩)
      · exact ⟨.named x, rfl, .inr ⟨x, List.mem_cons_self, rfl⟩⟩
      · exact ⟨s, rfl, .inl taken⟩
      · exact ⟨_, rfl, .inr ⟨y, List.mem_cons_of_mem _ hy, rfl⟩⟩
    · rintro ⟨s, rfl, taken | ⟨y, hy, rfl⟩⟩
      · exact .inr ⟨s, rfl, .inl taken⟩
      · rcases List.mem_cons.1 hy with rfl | hy
        · exact .inl rfl
        · exact .inr ⟨_, rfl, .inr ⟨y, hy, rfl⟩⟩
  unclosed := List.forall_mem_cons.2 ⟨h.fresh (.named x) hx, h.unclosed⟩
  settled := h.settled

/-- The group is closed when what the variable stands for has been read. -/
theorem Tracks.leave (h : Tracks env o (x :: opening) cs ds) (hx : x ∉ opening) (u : Text)
    (acc : Acc env.OccursIn x) : Tracks env o opening ((groupName x, u) :: cs)
      (ds ++ [⟨.named x, .fixed, u⟩]) where
  named y := by
    rw [Captures.get?_cons]
    by_cases e : x = y
    · subst e
      rw [if_pos rfl, textAt_concat_self, h.unclosed x List.mem_cons_self]
      rfl
    · have e' : Slot.named x ≠ .named y := fun h => e (Slot.named.inj h)
      rw [if_neg fun h => e (groupName_injective h), h.named, textAt_concat_of_ne e']
  wildcards id := by
    rw [Captures.get?_cons, if_neg (groupName_ne_starName x id), h.wildcards,
      textAt_concat_of_ne (Slot.wildcard_ne_named _ _).symm]
  opened g := by
    rw [h.opened]
    simp only [textAt_append, textAt_singleton, Option.isSome_or]
    constructor
    · rintro ⟨s, rfl, taken | ⟨y, hy, rfl⟩⟩
      · exact ⟨s, rfl, .inl (by simp [taken])⟩
      · rcases List.mem_cons.1 hy with rfl | hy
        · exact ⟨_, rfl, .inl (by simp)⟩
        · exact ⟨_, rfl, .inr ⟨y, hy, rfl⟩⟩
    · rintro ⟨s, rfl, taken | ⟨y, hy, rfl⟩⟩
      · by_cases e : Slot.named x = s
        · exact ⟨s, rfl, .inr ⟨x, List.mem_cons_self, e.symm⟩⟩
        · exact ⟨s, rfl, .inl (by simpa [e] using taken)⟩
      · exact ⟨_, rfl, .inr ⟨y, List.mem_cons_of_mem _ hy, rfl⟩⟩
  unclosed y hy := by
    have e : Slot.named x ≠ .named y := fun e => hx (Slot.named.inj e ▸ hy)
    rw [textAt_concat_of_ne e, h.unclosed y (List.mem_cons_of_mem _ hy)]
  settled := h.settled.concat fun y e => Slot.named.inj e ▸ acc

theorem mem_outcomes_starstar {c d : Cursor} (group : Option Text) (ending : Text) :
    d ∈ (starstar group ending).regex.outcomes c ↔ ∃ u rest, c.rest = u ++ rest ∧
      (u = [] ∨ ∃ v, InLine v ∧ u = v ++ ending) ∧ d = ⟨u.reverse ++ c.before, rest,
        if u = [] then c.captures else c.captures.record group u⟩ := by
  rw [mem_outcomes_regex]
  simp only [Reads]
  constructor
  · rintro ⟨u, rest, cs, h, ⟨rfl, rfl⟩ | ⟨⟨v, hv, rfl⟩, rfl⟩, rfl⟩
    · exact ⟨[], rest, h, .inl rfl, rfl⟩
    · have nonempty : v ++ ending ≠ [] := fun e => hv.1 (List.append_eq_nil_iff.1 e).1
      exact ⟨v ++ ending, rest, h, .inr ⟨v, hv, rfl⟩, by rw [if_neg nonempty]⟩
  · rintro ⟨u, rest, h, rfl | ⟨v, hv, rfl⟩, rfl⟩
    · exact ⟨[], rest, _, h, .inl ⟨rfl, rfl⟩, rfl⟩
    · have nonempty : v ++ ending ≠ [] := fun e => hv.1 (List.append_eq_nil_iff.1 e).1
      exact ⟨v ++ ending, rest, _, h, .inr ⟨⟨v, hv, rfl⟩, rfl⟩, by rw [if_neg nonempty]⟩

theorem tries_starstar (group : Option Text) (ending : Text) :
    (starstar group ending).regex.Tries .longer := fun c => by
  have first : (grouped group (.seq (.char .dot) (.seq (.many .dot true) (.text ending)))).Tries .longer :=
    tries_grouped (((Regex.tries_greedy .dot).before_text ending).after_char .dot) group
  rw [regex, Regex.outcomes]
  refine List.pairwise_append.2 ⟨first c, List.pairwise_singleton .., fun d hd e he => ?_⟩
  obtain ⟨_, rest, h, ⟨v, ⟨hv, -⟩, rfl⟩, rfl⟩ := (mem_outcomes_grouped (takes_ending ending) group).1 hd
  obtain rfl := List.mem_singleton.1 he
  show rest.length < e.rest.length
  have := List.length_pos_iff.2 hv
  simp only [h, List.length_append]
  omega

mutual

/-- The outcomes of the expression of a node are in the order of the decompositions. -/
theorem exists_ranks : ∀ {o o' opening : List Text} {n : Node} {p : Piece} {ds : List Portion} {c : Cursor},
    Translates env o n p o' →
      (∀ y ∈ opening, ∀ x, n.variableName = some x → TransGen env.OccursIn x y) →
        Tracks env o opening c.captures ds →
          ∃ ranks, Ranks (env.Decomposes ds n) (Tracks env o' opening) c (p.regex.outcomes c) ranks
  | _, _, _, _, _, ds, c, .literal (t := t), _, h => by
    obtain ⟨ranks, hr⟩ := ranks_fixed t h
    exact ⟨ranks, hr.congr fun _ _ => Environment.decomposes_literal.symm⟩
  | _, _, _, _, _, ds, c, @Translates.star _ o id, _, h => by
    obtain ⟨ranks, hr⟩ := ranks_portion ds (.wildcard id)
      (fun d => mem_outcomes_grouped (Regex.takes_many .notSlash true) (openOnce o (starName id)).1)
      (tries_grouped (Regex.tries_greedy .notSlash) _ c) (fun u _ => h.read id u)
    exact ⟨ranks, hr.congr fun u _ => (and_congr_left fun _ => all_notSlash).trans
      (Environment.decomposes_wildcard (n := .star id) rfl).symm⟩
  | _, _, _, _, _, ds, c, @Translates.starstar _ o id ending, _, h => by
    -- a text that is read is not empty, so the captures depend on the text alone
    obtain ⟨ranks, hr⟩ := ranks_portion ds (.wildcard id) (I := Tracks _ _ _)
      (P := (Node.starstar id ending).Spans)
      (f := fun u => if u = [] then c.captures else c.captures.record (openOnce o (starName id)).1 u)
      (fun d => mem_outcomes_starstar (c := c) (openOnce o (starName id)).1 ending)
      (tries_starstar (openOnce o (starName id)).1 ending c) fun u _ => by
        split
        · rename_i e
          exact e ▸ h.skip id
        · exact h.read id u
    exact ⟨ranks, hr.congr fun u _ => (Environment.decomposes_wildcard (n := .starstar id ending) rfl).symm⟩
  | _, _, _, _, _, ds, c, .again (x := x) hn ho, hop, h => by
    have captured := h.named x
    rw [regex, Regex.outcomes, captured]
    cases taken : textAt ds (.named x) with
    | some t =>
      obtain ⟨ranks, hr⟩ := ranks_fixed t h
      exact ⟨ranks, hr.congr fun u es => (Environment.decomposes_again hn taken).symm⟩
    | none =>
      -- the variable stands for something that leads back to it, so nothing can be taken for it
      have back := hop x ((h.taken_or ho).resolve_left (by simp [taken])) x hn
      refine ⟨[], rfl, nofun, fun u _ es _ hD => ?_, .nil⟩
      exact absurd back (Environment.not_transGen_of_acc ((hD.settled h.settled).2 x hn))
  | _, _, _, _, _, ds, c, .free (x := x) hn ho hf, _, h => by
    have fresh := h.fresh (.named x) ho
    obtain ⟨ranks, hr⟩ := ranks_portion ds (.named x) (I := Tracks _ _ _)
      (fun d => mem_outcomes_grouped (takes_inLine false) (some (groupName x)))
      (tries_grouped ((Regex.tries_lazy .dot).after_char .dot) (some (groupName x)) c)
      (fun u _ => h.free ho u (Environment.acc_of_free hf))
    exact ⟨ranks, hr.congr fun u es => (Environment.decomposes_free hn fresh hf).symm⟩
  | _, _, opening, _, _, ds, c, @Translates.bound _ o _ n x ns _ hn ho hb body, hop, h => by
    have fresh := h.fresh (.named x) ho
    have hx : x ∉ opening := fun hx => ho ((h.opened _).2 ⟨_, rfl, .inr ⟨x, hx, rfl⟩⟩)
    have hop' : ∀ y ∈ x :: opening, ∀ m ∈ ns, ∀ z, m.variableName = some z →
        TransGen env.OccursIn z y := fun y hy m hm z hz =>
      .head' ⟨ns, m, hb, hm, hz⟩ (reach_opening hop hn y hy)
    obtain ⟨inner, hi⟩ := exists_ranksAll (c := c.openGroup (groupName x)) body hop' (h.enter ho)
    obtain ⟨ranks, hr⟩ := hi.group (.named x) fun {u cs es} hD hI =>
      hI.leave hx u (((Environment.Decomposes.bound hn fresh hb hD).settled h.settled).2 x hn)
    exact ⟨ranks, hr.congr fun u es => (Environment.decomposes_bound hn fresh hb).symm⟩

theorem exists_ranksAll : ∀ {o o' opening : List Text} {ns : List Node} {ps : List Piece}
    {ds : List Portion} {c : Cursor}, TranslatesAll env o ns ps o' →
      (∀ y ∈ opening, ∀ n ∈ ns, ∀ x, n.variableName = some x → TransGen env.OccursIn x y) →
        Tracks env o opening c.captures ds →
          ∃ ranks, Ranks (env.DecomposesAll ds ns) (Tracks env o' opening) c ((regexes ps).outcomes c) ranks
  | _, _, _, _, _, ds, c, .nil, _, h => by
    refine ⟨[(ds, c)], rfl, ?_, ?_, List.pairwise_singleton ..⟩
    · exact List.forall_mem_singleton.2 ⟨[], rfl, .nil, h⟩
    · intro u rest es hrest hD
      obtain ⟨rfl, rfl⟩ := Environment.decomposesAll_nil.1 hD
      exact ⟨_, List.mem_singleton_self _, rfl, hrest⟩
  | _, _, _, _, _, ds, c, .cons first later, hop, h => by
    obtain ⟨firsts, hf⟩ := exists_ranks first (fun y hy => (List.forall_mem_cons.1 (hop y hy)).1) h
    have hop := fun y hy => (List.forall_mem_cons.1 (hop y hy)).2
    obtain ⟨ranks, hr⟩ := hf.seq (fun _ _ kept => exists_ranksAll later hop kept) fun hD => hD.exists_append
    exact ⟨ranks, hr.congr fun u es => Environment.decomposesAll_cons.symm⟩

end

end

end Piece

end LocalePaths
