import LocalePaths.Proofs.Regex.Outcomes
import LocalePaths.Regex.Reach
import Mathlib.Data.List.Find

/-!
# Matching by positions finds the preferred outcome

For an easy plain expression the marks that `Regex.reach` computes say which positions have an
outcome at a marked position (`here_reachFrom`), and `Regex.walk` moves to the first such outcome
(`firstMarked_eq_walk`). The marks of a later position are those of an earlier one without its first
entries (`alignedAt_reachFrom`), so that one computation from the start serves all positions.
-/

namespace LocalePaths

namespace Marks
variable {before : Option Char} {rest : Text} {ts us : Marks} {set : CharSet}

/-- There is one mark for each suffix of the text. -/
def Fits (rest : Text) (ts : Marks) : Prop := ts.length = rest.length + 1

theorem fits_all (rest : Text) : Fits rest (all rest) := by simp [Fits, all]

theorem Fits.drop {t : Text} (h : Fits (t ++ rest) ts) : Fits rest (ts.drop t.length) := by
  unfold Fits at *
  rw [List.length_drop, h, List.length_append]
  omega

theorem fits_overText (t : Text) : ∀ (rest : Text) (ds : Marks), Fits rest (overText t rest ds)
  | [], _ => rfl
  | _ :: rest, ds => congrArg Nat.succ (fits_overText t rest ds.tail)

theorem fits_overChar (set : CharSet) :
    ∀ (rest : Text) (ts : Marks), Fits rest (overChar set rest ts)
  | [], _ => rfl
  | _ :: rest, ts => congrArg Nat.succ (fits_overChar set rest ts.tail)

theorem fits_overMany (set : CharSet) :
    ∀ (rest : Text) (ts : Marks), Fits rest (overMany set rest ts)
  | [], _ => rfl
  | _ :: rest, ts => congrArg Nat.succ (fits_overMany set rest ts.tail)

theorem fits_atAnchor (a : Anchor) : ∀ (before : Option Char) (rest : Text) (ts : Marks),
    Fits rest (atAnchor a before rest ts)
  | _, [], _ => rfl
  | _, c :: rest, ts => congrArg Nat.succ (fits_atAnchor a (some c) rest ts.tail)

theorem Fits.union (h : Fits rest ts) (h' : Fits rest us) : Fits rest (ts.union us) := by
  unfold Fits at *
  rw [Marks.union, List.length_zipWith, h, h', Nat.min_self]

theorem here_union (h : Fits rest ts) (h' : Fits rest us) :
    (ts.union us).here = (ts.here || us.here) := by
  cases ts with
  | nil => simp [Fits] at h
  | cons t ts =>
    cases us with
    | nil => simp [Fits] at h'
    | cons u us => rfl

theorem here_drop_all {n : Nat} (h : n ≤ rest.length) : here ((all rest).drop n) = true := by
  have : all rest = List.replicate (rest.length + 1) true := by
    rw [all, List.map_const', List.replicate_succ]
  rw [this, List.drop_replicate, Nat.succ_sub h]
  rfl

theorem here_overText (t : Text) (ds : Marks) :
    (overText t rest ds).here = (t.isPrefixOf rest && ds.here) := by
  cases rest with
  | nil => cases t <;> rfl
  | cons c rest => rfl

end Marks

namespace Regex
variable {c d e : Cursor} {ts : Marks} {set : CharSet} {r : Regex}

/-! ### Marks seen from later positions -/

theorem alignedAt_skip {n : Nat} (h : n ≤ c.rest.length) :
    alignedAt c (c.skip n) ts = ts.drop n := by
  simp [alignedAt, Nat.sub_sub_self h]

theorem alignedAt_trans (h : c.MovesTo d) (h' : d.MovesTo e) :
    alignedAt d e (alignedAt c d ts) = alignedAt c e ts := by
  have := h.length_le
  have := h'.length_le
  unfold alignedAt
  rw [List.drop_drop]
  congr 1
  omega

theorem here_alignedAt_all (c d : Cursor) : (alignedAt c d (.all c.rest)).here = true :=
  Marks.here_drop_all (Nat.sub_le ..)

theorem fits_alignedAt (h : c.MovesTo d) (hf : Marks.Fits c.rest ts) :
    Marks.Fits d.rest (alignedAt c d ts) := by
  obtain ⟨t, ht, -⟩ := h
  rw [ht] at hf
  have := hf.drop
  simpa [alignedAt, ht] using this

/-- Next to the marks themselves, an optional part leads to them from where the part does. -/
theorem reach_optional {before : Option Char} {rest : Text} (r : Regex) (ts : Marks) :
    reach before rest (times r 0 (some 1) true) ts = ts.union (reach before rest r ts) := by
  show (if ts.union (reach before rest r ts) = ts then ts else ts.union (reach before rest r ts)) = _
  split
  · rename_i still
    exact still.symm
  · rfl

theorem walk_optional (r : Regex) (c : Cursor) (ts : Marks) :
    walk (times r 0 (some 1) true) c ts = if (reachFrom c r ts).here then walk r c ts else c := by
  have self : alignedAt c c ts = ts := by simp [alignedAt]
  show walkUpTo (walk r) (fun c ts => reachFrom c r ts) true 1 c (alignedAt c c ts) = _
  rw [self]
  rfl

theorem fits_reach {before : Option Char} {rest : Text} : ∀ {r : Regex} {ts : Marks}, r.IsPlain →
    Marks.Fits rest ts → Marks.Fits rest (reach before rest r ts)
  | empty, _, _, h => h
  | text _, _, _, _ => Marks.fits_overText ..
  | char _, _, _, _ => Marks.fits_overChar ..
  | many _ _, _, _, _ => Marks.fits_overMany ..
  | anchor _, _, _, _ => Marks.fits_atAnchor ..
  | seq r s, _, hp, h => fits_reach (r := r) hp.1 (fits_reach (r := s) hp.2 h)
  | alt r s, _, hp, h => (fits_reach (r := r) hp.1 h).union (fits_reach (r := s) hp.2 h)
  | times r _ _ _, ts, ⟨hp, rfl, rfl, rfl⟩, h => reach_optional r ts ▸ h.union (fits_reach hp h)
  | group _ _ r, _, hp, h => fits_reach (r := r) hp h
  | backref _, ts, _, h | captured _, ts, _, h => by simpa [Marks.Fits, reach] using h

theorem tail_reach {before : Option Char} {a : Char} {rest : Text} :
    ∀ {r : Regex} {ts : Marks}, r.IsPlain →
      (reach before (a :: rest) r ts).tail = reach (some a) rest r ts.tail
  | empty, _, _ => rfl
  | text t, ts, _ => by
    show Marks.overText t rest (ts.drop t.length).tail = Marks.overText t rest (ts.tail.drop t.length)
    rw [List.tail_drop, List.drop_tail]
  | char _, _, _ => rfl
  | many _ _, _, _ => rfl
  | anchor _, _, _ => rfl
  | seq r s, ts, hp => by
    show (reach before (a :: rest) r (reach before (a :: rest) s ts)).tail = _
    rw [tail_reach hp.1, tail_reach hp.2]
    rfl
  | alt r s, ts, hp => by
    show (List.zipWith _ (reach before (a :: rest) r ts) (reach before (a :: rest) s ts)).tail = _
    rw [List.tail_zipWith, tail_reach hp.1, tail_reach hp.2]
    rfl
  | times r _ _ _, ts, ⟨hp, rfl, rfl, rfl⟩ => by
    rw [reach_optional, reach_optional, Marks.union, List.tail_zipWith, tail_reach hp]
    rfl
  | group _ _ r, _, hp => tail_reach (r := r) hp
  | backref _, ts, _ | captured _, ts, _ => by simp [reach, List.map_tail]

theorem drop_reach (hp : r.IsPlain) : ∀ (t rest before : Text) (ts : Marks),
    (reach before.head? (t ++ rest) r ts).drop t.length =
      reach (t.reverse ++ before).head? rest r (ts.drop t.length)
  | [], _, _, _ => rfl
  | a :: t, rest, before, ts => by
    have later := drop_reach hp t rest (a :: before) ts.tail
    simp only [List.head?_cons, List.drop_tail] at later
    simp only [List.cons_append, List.length_cons, List.reverse_cons, List.append_assoc,
      List.nil_append]
    rw [← later, ← List.drop_tail, tail_reach hp]

theorem alignedAt_reachFrom (hp : r.IsPlain) (h : c.MovesTo d) :
    alignedAt c d (reachFrom c r ts) = reachFrom d r (alignedAt c d ts) := by
  obtain ⟨t, ht, hb⟩ := h
  have len : c.rest.length - d.rest.length = t.length := by simp [ht]
  unfold alignedAt reachFrom
  rw [len, ht, hb]
  exact drop_reach hp t d.rest c.before ts

/-! ### The first outcome at a marked position -/

def firstMarked (r : Regex) (c : Cursor) (ts : Marks) : Option Cursor :=
  (r.outcomes c).find? fun d => (alignedAt c d ts).here

def firstLength (set : CharSet) (greedy : Bool) (rest : Text) (ts : Marks) : Option Nat :=
  (manyLengths set greedy rest).find? fun n => Marks.here (ts.drop n)

theorem firstMarked_eq_some (h : firstMarked r c ts = some d) :
    c.MovesTo d ∧ (alignedAt c d ts).here = true :=
  ⟨movesTo_of_mem_outcomes (List.mem_of_find?_eq_some h), by
    have marked := List.find?_some h
    exact marked⟩

theorem isSome_ite {α : Type} (b : Bool) (a : α) : (if b then some a else none).isSome = b := by
  cases b <;> rfl

theorem firstMarked_text (t : Text) : firstMarked (text t) c ts =
    if t.isPrefixOf c.rest && Marks.here (ts.drop t.length) then some (c.skip t.length)
    else none := by
  unfold firstMarked outcomes
  by_cases h : t.isPrefixOf c.rest = true
  · rw [if_pos h, List.find?_singleton, alignedAt_skip (List.isPrefixOf_iff_prefix.1 h).length_le]
    simp [h]
  · simp [h]

theorem firstMarked_many (greedy : Bool) :
    firstMarked (many set greedy) c ts = (firstLength set greedy c.rest ts).map c.skip := by
  unfold firstMarked outcomes
  rw [List.find?_map, firstLength]
  congr 1
  refine List.find?_congr fun n hn => ?_
  rw [Function.comp_apply, alignedAt_skip (le_of_mem_manyLengths hn)]

theorem firstMarked_alt (r s : Regex) :
    firstMarked (alt r s) c ts = (firstMarked r c ts).or (firstMarked s c ts) :=
  List.find?_append

theorem firstMarked_empty : firstMarked empty c ts = if ts.here then some c else none := by
  have self : alignedAt c c ts = ts := by simp [alignedAt]
  exact List.find?_singleton.trans (by rw [self])

theorem firstMarked_optional (r : Regex) : firstMarked (times r 0 (some 1) true) c ts =
    (firstMarked r c ts).or (if ts.here then some c else none) :=
  List.find?_append.trans (congrArg _ firstMarked_empty)

theorem firstMarked_group (label : Text) (referenced : Bool) (r : Regex) :
    firstMarked (group label referenced r) c ts =
      (firstMarked r (c.openGroup label) ts).map fun d => c.closeGroup d label :=
  List.find?_map

theorem findSome?_eq_bind {α β : Type} (f : α → Option β) :
    ∀ l : List α, l.findSome? f = (l.find? fun a => (f a).isSome).bind f
  | [] => rfl
  | a :: l => by
    cases h : f a with
    | none => simp [h, findSome?_eq_bind f l]
    | some b => simp [h]

theorem findSome?_congr {α β : Type} {f g : α → Option β} :
    ∀ {l : List α}, (∀ a ∈ l, f a = g a) → l.findSome? f = l.findSome? g
  | [], _ => rfl
  | a :: l, h => by
    rw [List.findSome?_cons, List.findSome?_cons, h a (List.mem_cons_self ..),
      findSome?_congr fun b hb => h b (List.mem_cons_of_mem _ hb)]

theorem firstMarked_seq {r s : Regex} (hs : s.IsPlain)
    (here : ∀ d, c.MovesTo d →
      (reachFrom d s (alignedAt c d ts)).here = (firstMarked s d (alignedAt c d ts)).isSome) :
    firstMarked (seq r s) c ts = (firstMarked r c (reachFrom c s ts)).bind fun d =>
      firstMarked s d (alignedAt c d ts) := by
  -- the marks that `s` is to reach are aligned with each outcome of `r` in turn
  have next : ∀ d ∈ r.outcomes c, ((s.outcomes d).find? fun e => (alignedAt c e ts).here) =
      firstMarked s d (alignedAt c d ts) := fun d hd =>
    List.find?_congr fun e he => by
      rw [alignedAt_trans (movesTo_of_mem_outcomes hd) (movesTo_of_mem_outcomes he)]
  have first : firstMarked r c (reachFrom c s ts) =
      (r.outcomes c).find? fun d => (firstMarked s d (alignedAt c d ts)).isSome :=
    List.find?_congr fun d hd => by
      have hm := movesTo_of_mem_outcomes hd
      rw [alignedAt_reachFrom hs hm, here d hm]
  calc firstMarked (seq r s) c ts
      = (r.outcomes c).findSome? fun d => (s.outcomes d).find? fun e => (alignedAt c e ts).here :=
        List.find?_flatMap
    _ = (r.outcomes c).findSome? fun d => firstMarked s d (alignedAt c d ts) := findSome?_congr next
    _ = _ := by rw [findSome?_eq_bind, first]

theorem firstLength_nil (greedy : Bool) :
    firstLength set greedy [] ts = if ts.here then some 0 else none :=
  List.find?_singleton ..

theorem firstLength_cons (greedy : Bool) (a : Char) (rest : Text) :
    firstLength set greedy (a :: rest) ts =
      if set.has a then
        if greedy then
          ((firstLength set greedy rest ts.tail).map (· + 1)).or (if ts.here then some 0 else none)
        else if ts.here then some 0 else (firstLength set greedy rest ts.tail).map (· + 1)
      else if ts.here then some 0 else none := by
  have later : (firstLength set greedy rest ts.tail).map (· + 1) =
      ((manyLengths set greedy rest).map (· + 1)).find? fun n => Marks.here (ts.drop n) := by
    rw [List.find?_map, firstLength]
    simp only [List.drop_tail, Function.comp_def]
  rw [later]
  unfold firstLength
  rw [manyLengths]
  by_cases ha : set.has a = true
  · cases greedy with
    | true =>
      simp only [ha, if_true, List.find?_append, List.find?_singleton, List.drop_zero]
    | false =>
      simp only [ha, if_true, Bool.false_eq_true, if_false, List.find?_cons, List.drop_zero]
      cases h : ts.here <;> rfl
  · simp only [ha, Bool.false_eq_true, if_false, List.find?_singleton, List.drop_zero]

/-- The characters of a set lead to a mark exactly if some number of them does. -/
theorem here_overMany (greedy : Bool) : ∀ (rest : Text) (ts : Marks),
    (Marks.overMany set rest ts).here = (firstLength set greedy rest ts).isSome
  | [], ts => by
    rw [firstLength_nil]
    show ts.here = _
    cases ts.here <;> rfl
  | c :: rest, ts => by
    rw [firstLength_cons]
    show (ts.here || (set.has c && (Marks.overMany set rest ts.tail).here)) = _
    rw [here_overMany greedy rest ts.tail]
    cases set.has c <;> cases greedy <;> cases ts.here <;>
      cases firstLength set _ rest ts.tail <;> rfl

theorem firstLength_eq (greedy : Bool) : ∀ {rest : Text} {ts : Marks},
    (Marks.overMany set rest ts).here = true →
      firstLength set greedy rest ts = some (walkMany set greedy rest ts)
  | [], ts, h => by
    have h : ts.here = true := h
    rw [firstLength_nil, h]
    rfl
  | c :: rest, ts, h => by
    have h : (ts.here || (set.has c && (Marks.overMany set rest ts.tail).here)) = true := h
    rw [firstLength_cons, walkMany]
    by_cases later : (Marks.overMany set rest ts.tail).here = true
    · rw [firstLength_eq greedy later, later]
      rw [later] at h
      cases hc : set.has c <;> cases greedy <;> cases ht : ts.here <;> simp_all
    · have none : firstLength set greedy rest ts.tail = none := by
        rw [here_overMany greedy] at later
        simpa using later
      rw [Bool.not_eq_true] at later
      have ht : ts.here = true := by simpa [later] using h
      rw [none, later, ht]
      cases set.has c <;> cases greedy <;> rfl

/-! ### Reaching and walking -/

theorem firstMarked_char : firstMarked (char set) c ts =
    match c.rest with
    | [] => none
    | x :: _ => if set.has x && Marks.here ts.tail then some (c.skip 1) else none := by
  unfold firstMarked outcomes
  cases h : c.rest with
  | nil => rfl
  | cons x xs =>
    have skip : alignedAt c (c.skip 1) ts = ts.drop 1 := alignedAt_skip (by simp [h])
    by_cases hx : set.has x = true
    · simp [hx, skip]
    · simp [hx]

theorem here_atAnchor (a : Anchor) (before : Option Char) (rest : Text) :
    (Marks.atAnchor a before rest ts).here = (a.holds before rest.head? && ts.here) := by
  cases rest <;> rfl

theorem firstMarked_anchor (a : Anchor) : firstMarked (anchor a) c ts =
    if a.holds c.before.head? c.rest.head? && ts.here then some c else none := by
  have self : alignedAt c c ts = ts := by simp [alignedAt]
  unfold firstMarked outcomes
  by_cases h : a.holds c.before.head? c.rest.head? = true
  · simp [h, self]
  · simp [h]

/-- The marks say which positions have an outcome at a marked position. -/
theorem here_reachFrom : ∀ {r : Regex} {c : Cursor} {ts : Marks}, r.IsPlain → r.isEasy = true →
    Marks.Fits c.rest ts → (reachFrom c r ts).here = (firstMarked r c ts).isSome
  | empty, c, ts, _, _, _ => by
    rw [firstMarked_empty, isSome_ite]
    rfl
  | text t, c, ts, _, _, _ => by
    show (Marks.overText t c.rest (ts.drop t.length)).here = _
    rw [Marks.here_overText, firstMarked_text, isSome_ite]
  | char set, c, ts, _, _, _ => by
    show (Marks.overChar set c.rest ts).here = _
    rw [firstMarked_char]
    cases c.rest with
    | nil => rfl
    | cons x xs => exact (isSome_ite ..).symm
  | many set greedy, c, ts, _, _, _ => by
    rw [firstMarked_many, Option.isSome_map, ← here_overMany]
    rfl
  | anchor a, c, ts, _, _, _ => by
    rw [firstMarked_anchor, isSome_ite]
    exact here_atAnchor ..
  | seq r s, c, ts, hp, he, hf => by
    have he := Bool.and_eq_true_iff.1 he
    have here : ∀ d, c.MovesTo d →
        (reachFrom d s (alignedAt c d ts)).here = (firstMarked s d (alignedAt c d ts)).isSome :=
      fun d hd => here_reachFrom hp.2 he.2 (fits_alignedAt hd hf)
    rw [firstMarked_seq hp.2 here]
    have fits : Marks.Fits c.rest (reachFrom c s ts) := fits_reach hp.2 hf
    have first : (reachFrom c r (reachFrom c s ts)).here = _ := here_reachFrom hp.1 he.1 fits
    show (reachFrom c r (reachFrom c s ts)).here = _
    rw [first]
    cases h : firstMarked r c (reachFrom c s ts) with
    | none => rfl
    | some d =>
      obtain ⟨hd, marked⟩ := firstMarked_eq_some h
      rw [alignedAt_reachFrom hp.2 hd, here d hd] at marked
      exact marked.symm
  | alt r s, c, ts, hp, he, hf => by
    have he := Bool.and_eq_true_iff.1 he
    have union : (reachFrom c (alt r s) ts).here =
        ((reachFrom c r ts).here || (reachFrom c s ts).here) :=
      Marks.here_union (fits_reach hp.1 hf) (fits_reach hp.2 hf)
    rw [union, here_reachFrom hp.1 he.1 hf, here_reachFrom hp.2 he.2 hf, firstMarked_alt,
      Option.isSome_or]
  | times r _ _ _, c, ts, ⟨hp, rfl, rfl, rfl⟩, he, hf => by
    have union : (reachFrom c (times r 0 (some 1) true) ts).here =
        (ts.here || (reachFrom c r ts).here) :=
      (congrArg Marks.here (reach_optional r ts)).trans (Marks.here_union hf (fits_reach hp hf))
    rw [union, here_reachFrom hp he hf, firstMarked_optional, Option.isSome_or, isSome_ite, Bool.or_comm]
  | group label referenced r, c, ts, hp, he, hf => by
    have he := Bool.and_eq_true_iff.1 he
    rw [firstMarked_group, Option.isSome_map]
    exact here_reachFrom (r := r) (c := c.openGroup label) hp he.2 hf

/-- A walk ends at the preferred outcome among those at marked positions, if there is one. -/
theorem firstMarked_eq_walk : ∀ {r : Regex} {c : Cursor} {ts : Marks}, r.IsPlain →
    r.isEasy = true → Marks.Fits c.rest ts → (reachFrom c r ts).here = true →
      firstMarked r c ts = some (walk r c ts)
  | empty, c, ts, _, _, _, h => firstMarked_empty.trans (if_pos h)
  | text t, c, ts, _, _, _, h => by
    have h : (Marks.overText t c.rest (ts.drop t.length)).here = true := h
    rw [Marks.here_overText] at h
    rw [firstMarked_text, if_pos h]
    rfl
  | char set, c, ts, hp, he, hf, h => by
    rw [here_reachFrom hp he hf, firstMarked_char] at h
    rw [firstMarked_char]
    cases hr : c.rest with
    | nil => simp [hr] at h
    | cons x xs =>
      simp only [hr, isSome_ite] at h
      simp only [h, if_true]
      rfl
  | many set greedy, c, ts, _, _, _, h => by
    rw [firstMarked_many, firstLength_eq greedy h]
    rfl
  | anchor a, c, ts, hp, he, hf, h => by
    rw [here_reachFrom hp he hf, firstMarked_anchor, isSome_ite] at h
    rw [firstMarked_anchor, if_pos h]
    rfl
  | seq r s, c, ts, hp, he, hf, h => by
    have he := Bool.and_eq_true_iff.1 he
    have here : ∀ d, c.MovesTo d →
        (reachFrom d s (alignedAt c d ts)).here = (firstMarked s d (alignedAt c d ts)).isSome :=
      fun d hd => here_reachFrom hp.2 he.2 (fits_alignedAt hd hf)
    have fits : Marks.Fits c.rest (reachFrom c s ts) := fits_reach hp.2 hf
    have first : firstMarked r c (reachFrom c s ts) = _ := firstMarked_eq_walk hp.1 he.1 fits h
    obtain ⟨hd, marked⟩ := firstMarked_eq_some first
    rw [alignedAt_reachFrom hp.2 hd] at marked
    rw [firstMarked_seq hp.2 here, first]
    exact firstMarked_eq_walk hp.2 he.2 (fits_alignedAt hd hf) marked
  | alt r s, c, ts, hp, he, hf, h => by
    have he := Bool.and_eq_true_iff.1 he
    rw [here_reachFrom hp (Bool.and_eq_true_iff.2 he) hf, firstMarked_alt, Option.isSome_or,
      ← here_reachFrom hp.1 he.1 hf, ← here_reachFrom hp.2 he.2 hf] at h
    rw [firstMarked_alt, walk]
    by_cases hr : (reachFrom c r ts).here = true
    · rw [if_pos hr, firstMarked_eq_walk hp.1 he.1 hf hr]
      rfl
    · have none : firstMarked r c ts = none := by
        rw [here_reachFrom hp.1 he.1 hf] at hr
        simpa using hr
      have hs : (reachFrom c s ts).here = true := by simpa [hr] using h
      rw [if_neg hr, none, firstMarked_eq_walk hp.2 he.2 hf hs]
      rfl
  | times r _ _ _, c, ts, ⟨hp, rfl, rfl, rfl⟩, he, hf, h => by
    rw [firstMarked_optional, walk_optional]
    by_cases hr : (reachFrom c r ts).here = true
    · rw [if_pos hr, firstMarked_eq_walk hp he hf hr]
      rfl
    · have none : firstMarked r c ts = none := by
        rw [here_reachFrom hp he hf] at hr
        simpa using hr
      have marked : ts.here = true := by
        have union := (congrArg Marks.here (reach_optional r ts)).symm.trans h
        rw [Marks.here_union hf (fits_reach hp hf)] at union
        exact (Bool.or_eq_true_iff.1 union).resolve_right hr
      rw [if_neg hr, none, if_pos marked]
      rfl
  | group label referenced r, c, ts, hp, he, hf, h => by
    have he := Bool.and_eq_true_iff.1 he
    rw [firstMarked_group, firstMarked_eq_walk (r := r) (c := c.openGroup label) hp he.2 hf h]
    rfl

end Regex

end LocalePaths
