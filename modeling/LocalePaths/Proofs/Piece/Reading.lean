import LocalePaths.Matcher
import LocalePaths.Proofs.Regex.ByTrial

/-!
# What pieces read

`Piece.Reads` says which texts a piece reads and what is captured on the way: a bound piece reads
what its body reads, and a piece that refers back reads what its group has captured before. The
regular expression of a row of pieces has exactly the outcomes that the row reads
(`mem_outcomes_regexes`), so that matching a path is reading all of it (`isMatch_iff_reads`,
`reads_of_captures`).
-/

namespace LocalePaths

namespace Captures
variable {cs : Captures} {g h t : Text}

theorem get?_cons : get? ((g, t) :: cs) h = if g = h then some t else cs.get? h := by
  by_cases e : g = h <;> simp [get?, e]

@[simp] theorem get?_forget_self : get? (cs.forget g) g = none := by
  simp [get?, forget, List.find?_filter]

theorem get?_forget_of_ne (e : h ≠ g) : get? (cs.forget g) h = cs.get? h := by
  unfold get? forget
  rw [List.find?_filter]
  congr 1
  refine List.find?_congr fun x _ => ?_
  by_cases hx : x.1 = h <;> simp [hx, e]

def record (group : Option Text) (t : Text) (cs : Captures) : Captures :=
  match group with
  | some g => (g, t) :: cs.forget g
  | none => cs

@[simp] theorem get?_record_self : (record (some g) t cs).get? g = some t := by
  rw [record, get?_cons, if_pos rfl]

theorem get?_record_of_ne {group : Option Text} (e : some h ≠ group) :
    (record group t cs).get? h = cs.get? h := by
  cases group with
  | none => rfl
  | some g =>
    have e : h ≠ g := fun e' => e (congrArg some e')
    rw [record, get?_cons, if_neg (Ne.symm e), get?_forget_of_ne e]

end Captures

namespace Regex
variable {r s : Regex} {P Q : Text → Prop} {c d : Cursor}

/-- The expression matches the texts with `P` and captures nothing. -/
def Takes (r : Regex) (P : Text → Prop) : Prop :=
  ∀ c d, d ∈ r.outcomes c ↔
    ∃ u rest, c.rest = u ++ rest ∧ P u ∧ d = ⟨u.reverse ++ c.before, rest, c.captures⟩

theorem takes_empty : empty.Takes (· = []) := fun c d => by
  simp [outcomes]

theorem mem_skip_of_prefix {t : Text} :
    d ∈ (if t.isPrefixOf c.rest then [c.skip t.length] else []) ↔
      ∃ rest, c.rest = t ++ rest ∧ d = ⟨t.reverse ++ c.before, rest, c.captures⟩ := by
  rw [List.mem_ite_nil_right, List.isPrefixOf_iff_prefix, List.mem_singleton]
  constructor
  · rintro ⟨⟨rest, h⟩, rfl⟩
    exact ⟨rest, h.symm, c.skip_eq h.symm⟩
  · rintro ⟨rest, h, rfl⟩
    exact ⟨⟨rest, h.symm⟩, (c.skip_eq h).symm⟩

theorem takes_text (t : Text) : (text t).Takes (· = t) := fun c d => by
  rw [outcomes, mem_skip_of_prefix]
  constructor
  · rintro ⟨rest, h, rfl⟩
    exact ⟨t, rest, h, rfl, rfl⟩
  · rintro ⟨u, rest, h, rfl, rfl⟩
    exact ⟨rest, h, rfl⟩

theorem takes_char (set : CharSet) : (char set).Takes fun u => ∃ x, u = [x] ∧ set.has x :=
  fun c d => by
    obtain ⟨before, rest, captures⟩ := c
    cases rest with
    | nil =>
      simp only [outcomes, List.not_mem_nil, false_iff]
      rintro ⟨_, rest, h, ⟨x, rfl, -⟩, -⟩
      cases h
    | cons y ys =>
      simp only [outcomes, List.mem_ite_nil_right, List.mem_singleton]
      constructor
      · rintro ⟨hy, rfl⟩
        exact ⟨[y], ys, rfl, ⟨y, rfl, hy⟩, rfl⟩
      · rintro ⟨_, rest, h, ⟨x, rfl, hx⟩, rfl⟩
        cases h
        exact ⟨hx, rfl⟩

theorem takes_many (set : CharSet) (greedy : Bool) :
    (many set greedy).Takes fun u => ∀ x ∈ u, set.has x = true := fun c d => by
  simp only [outcomes, List.mem_map, mem_manyLengths]
  constructor
  · rintro ⟨n, ⟨-, hall⟩, rfl⟩
    exact ⟨c.rest.take n, c.rest.drop n, (List.take_append_drop ..).symm, hall, rfl⟩
  · rintro ⟨u, rest, h, hall, rfl⟩
    exact ⟨u.length, by simpa [h] using hall, c.skip_eq h⟩

theorem Takes.seq (hr : r.Takes P) (hs : s.Takes Q) :
    (seq r s).Takes fun u => ∃ a b, u = a ++ b ∧ P a ∧ Q b := fun c d => by
  rw [outcomes, List.mem_flatMap]
  constructor
  · rintro ⟨e, he, hd⟩
    obtain ⟨a, rest, ha, hpa, rfl⟩ := (hr c e).1 he
    obtain ⟨b, rest', hb, hqb, rfl⟩ := (hs _ d).1 hd
    have hb : rest = b ++ rest' := hb
    exact ⟨a ++ b, rest', by rw [ha, hb, List.append_assoc], ⟨a, b, rfl, hpa, hqb⟩, by simp⟩
  · rintro ⟨_, rest, h, ⟨a, b, rfl, hpa, hqb⟩, rfl⟩
    refine ⟨⟨a.reverse ++ c.before, b ++ rest, c.captures⟩, ?_, ?_⟩
    · exact (hr c _).2 ⟨a, b ++ rest, by rw [h, List.append_assoc], hpa, rfl⟩
    · exact (hs _ _).2 ⟨b, rest, rfl, hqb, by simp⟩

theorem Takes.congr (h : r.Takes P) (e : ∀ u, P u ↔ Q u) : r.Takes Q := fun c d => by
  rw [h c d]
  simp only [e]

theorem takes_some (set : CharSet) (greedy : Bool) :
    (seq (char set) (many set greedy)).Takes fun u => u ≠ [] ∧ ∀ x ∈ u, set.has x = true :=
  ((takes_char set).seq (takes_many set greedy)).congr fun u => by
    constructor
    · rintro ⟨_, b, rfl, ⟨x, rfl, hx⟩, hb⟩
      exact ⟨by simp, by simpa [hx] using hb⟩
    · rintro ⟨hne, hall⟩
      cases u with
      | nil => exact absurd rfl hne
      | cons x b =>
        have hall := List.forall_mem_cons.1 hall
        exact ⟨[x], b, rfl, ⟨x, rfl, hall.1⟩, hall.2⟩

theorem mem_outcomes_group {label : Text} {referenced : Bool} :
    d ∈ (group label referenced r).outcomes c ↔
      ∃ e ∈ r.outcomes (c.openGroup label), d = c.closeGroup e label := by
  simp [outcomes, eq_comm]

end Regex

namespace Piece

theorem all_notSlash {t : Text} : (∀ x ∈ t, CharSet.notSlash.has x = true) ↔ '/' ∉ t := by
  simp only [CharSet.has_notSlash, Bool.not_eq_true', decide_eq_false_iff_not]
  exact ⟨fun h hm => h _ hm rfl, fun h x hx e => h (e ▸ hx)⟩

theorem all_dot {t : Text} : (∀ x ∈ t, CharSet.dot.has x = true) ↔ '\n' ∉ t := by
  simp only [CharSet.has_dot, Bool.not_eq_true', decide_eq_false_iff_not]
  exact ⟨fun h hm => h _ hm rfl, fun h x hx e => h (e ▸ hx)⟩

/-- The text has characters, and they are on one line. -/
def InLine (t : Text) : Prop := t ≠ [] ∧ '\n' ∉ t

mutual

/-- The piece reads the text `u` and changes the captures from `cs` to `cs'`. -/
def Reads : Piece → (cs : Captures) → (u : Text) → (cs' : Captures) → Prop
  | text t, cs, u, cs' => u = t ∧ cs' = cs
  | star group, cs, u, cs' => '/' ∉ u ∧ cs' = cs.record group u
  | starstar group ending, cs, u, cs' =>
    (u = [] ∧ cs' = cs) ∨ (∃ v, InLine v ∧ u = v ++ ending) ∧ cs' = cs.record group u
  | free group, cs, u, cs' => InLine u ∧ cs' = cs.record (some group) u
  | bound group body, cs, u, cs' =>
    ∃ inner, ReadsAll body (cs.forget group) u inner ∧ cs' = (group, u) :: inner
  | again group, cs, u, cs' => cs.get? group = some u ∧ cs' = cs

def ReadsAll : List Piece → (cs : Captures) → (u : Text) → (cs' : Captures) → Prop
  | [], cs, u, cs' => u = [] ∧ cs' = cs
  | p :: ps, cs, u, cs' =>
    ∃ a b between, u = a ++ b ∧ p.Reads cs a between ∧ ReadsAll ps between b cs'

end

mutual

/-- Reading changes only the captures of the groups of the piece. -/
theorem Reads.get?_eq {g : Text} : ∀ {p : Piece} {cs : Captures} {u : Text} {cs' : Captures},
    p.Reads cs u cs' → g ∉ p.groups → cs'.get? g = cs.get? g
  | text _, _, _, _, h, _ | again _, _, _, _, h, _ => by rw [h.2]
  | star group, cs, u, cs', h, hg => by
    rw [h.2]
    exact Captures.get?_record_of_ne fun e => hg (Option.mem_toList.2 e.symm)
  | starstar group _, cs, u, cs', h, hg => by
    rcases h with ⟨-, rfl⟩ | ⟨-, rfl⟩
    · rfl
    · exact Captures.get?_record_of_ne fun e => hg (Option.mem_toList.2 e.symm)
  | free group, cs, u, cs', h, hg => by
    rw [h.2]
    exact Captures.get?_record_of_ne fun e => hg (Option.mem_toList.2 e.symm)
  | bound group body, cs, u, cs', h, hg => by
    obtain ⟨inner, hb, rfl⟩ := h
    have hg := not_or.1 (mt List.mem_cons.2 hg)
    rw [Captures.get?_cons, if_neg (Ne.symm hg.1), hb.get?_eq hg.2, Captures.get?_forget_of_ne hg.1]

theorem ReadsAll.get?_eq {g : Text} : ∀ {ps : List Piece} {cs : Captures} {u : Text}
    {cs' : Captures}, ReadsAll ps cs u cs' → g ∉ groupsOf ps → cs'.get? g = cs.get? g
  | [], _, _, _, h, _ => by rw [h.2]
  | p :: ps, _, _, _, h, hg => by
    obtain ⟨a, b, between, -, hp, hps⟩ := h
    have hg := not_or.1 (mt List.mem_append.2 hg)
    rw [hps.get?_eq hg.2, hp.get?_eq hg.1]

end

/-! ### Reading is matching -/

theorem takes_inLine (greedy : Bool) :
    (Regex.seq (.char .dot) (.many .dot greedy)).Takes InLine :=
  (Regex.takes_some .dot greedy).congr fun _ => and_congr_right fun _ => all_dot

theorem takes_ending (ending : Text) :
    (Regex.seq (.char .dot) (.seq (.many .dot true) (.text ending))).Takes
      fun u => ∃ v, InLine v ∧ u = v ++ ending :=
  ((Regex.takes_char .dot).seq ((Regex.takes_many .dot true).seq (Regex.takes_text ending))).congr
    fun u => by
      simp only [all_dot]
      constructor
      · rintro ⟨_, _, rfl, ⟨x, rfl, hx⟩, v, _, rfl, hv, rfl⟩
        exact ⟨x :: v, ⟨by simp, all_dot.1 (List.forall_mem_cons.2 ⟨hx, all_dot.2 hv⟩)⟩, rfl⟩
      · rintro ⟨v, ⟨hne, hv⟩, rfl⟩
        cases v with
        | nil => exact absurd rfl hne
        | cons x v =>
          have hv := List.forall_mem_cons.1 (all_dot.2 hv)
          exact ⟨[x], v ++ ending, rfl, ⟨x, rfl, hv.1⟩, v, ending, rfl, all_dot.1 hv.2, rfl⟩

theorem closeGroup_eq {c : Cursor} {u rest : Text} (h : c.rest = u ++ rest) (cs : Captures)
    (g : Text) : c.closeGroup ⟨u.reverse ++ c.before, rest, cs⟩ g =
      ⟨u.reverse ++ c.before, rest, (g, u) :: cs⟩ := by
  rw [Cursor.closeGroup, c.upTo_eq h]

/-- Captures that are determined by the text that is read need no name. -/
theorem exists_captures {P : Text → Prop} {f : Text → Captures} {c d : Cursor} :
    (∃ u rest cs, c.rest = u ++ rest ∧ (P u ∧ cs = f u) ∧ d = ⟨u.reverse ++ c.before, rest, cs⟩) ↔
      ∃ u rest, c.rest = u ++ rest ∧ P u ∧ d = ⟨u.reverse ++ c.before, rest, f u⟩ := by
  constructor
  · rintro ⟨u, rest, _, h, ⟨hu, rfl⟩, rfl⟩
    exact ⟨u, rest, h, hu, rfl⟩
  · rintro ⟨u, rest, h, hu, rfl⟩
    exact ⟨u, rest, _, h, ⟨hu, rfl⟩, rfl⟩

theorem mem_outcomes_grouped {r : Regex} {P : Text → Prop} (hr : r.Takes P) (group : Option Text)
    {c d : Cursor} : d ∈ (grouped group r).outcomes c ↔
      ∃ u rest, c.rest = u ++ rest ∧ P u ∧
        d = ⟨u.reverse ++ c.before, rest, c.captures.record group u⟩ := by
  cases group with
  | none => exact hr c d
  | some g =>
    rw [grouped, Regex.mem_outcomes_group]
    constructor
    · rintro ⟨e, he, rfl⟩
      obtain ⟨u, rest, h, hu, rfl⟩ := (hr _ e).1 he
      exact ⟨u, rest, h, hu, closeGroup_eq h ..⟩
    · rintro ⟨u, rest, h, hu, rfl⟩
      exact ⟨_, (hr (c.openGroup g) _).2 ⟨u, rest, h, hu, rfl⟩, (closeGroup_eq h ..).symm⟩

mutual

theorem mem_outcomes_regex : ∀ {p : Piece} {c d : Cursor}, d ∈ p.regex.outcomes c ↔
    ∃ u rest cs, c.rest = u ++ rest ∧ p.Reads c.captures u cs ∧
      d = ⟨u.reverse ++ c.before, rest, cs⟩
  | text t, c, d => by
    rw [regex, Regex.takes_text t c d]
    simp only [Reads]
    exact exists_captures.symm
  | star group, c, d => by
    rw [regex, mem_outcomes_grouped (Regex.takes_many .notSlash true)]
    simp only [Reads, all_notSlash]
    exact exists_captures.symm
  | starstar group ending, c, d => by
    rw [regex, Regex.outcomes, List.mem_append, mem_outcomes_grouped (takes_ending ending),
      Regex.takes_empty c d]
    simp only [Reads]
    constructor
    · rintro (⟨u, rest, h, hu, e⟩ | ⟨u, rest, h, hu, e⟩)
      · exact ⟨u, rest, _, h, .inr ⟨hu, rfl⟩, e⟩
      · exact ⟨u, rest, _, h, .inl ⟨hu, rfl⟩, e⟩
    · rintro ⟨u, rest, cs, h, ⟨hu, rfl⟩ | ⟨hu, rfl⟩, e⟩
      · exact .inr ⟨u, rest, h, hu, e⟩
      · exact .inl ⟨u, rest, h, hu, e⟩
  | free group, c, d => by
    rw [regex, ← grouped, mem_outcomes_grouped (takes_inLine false)]
    simp only [Reads]
    exact exists_captures.symm
  | bound group body, c, d => by
    rw [regex, Regex.mem_outcomes_group]
    simp only [Reads]
    constructor
    · rintro ⟨e, he, rfl⟩
      obtain ⟨u, rest, cs, h, hu, rfl⟩ := mem_outcomes_regexes.1 he
      exact ⟨u, rest, _, h, ⟨cs, hu, rfl⟩, closeGroup_eq h ..⟩
    · rintro ⟨u, rest, _, h, ⟨cs, hu, rfl⟩, rfl⟩
      exact ⟨_, mem_outcomes_regexes.2 ⟨u, rest, cs, h, hu, rfl⟩, (closeGroup_eq h ..).symm⟩
  | again group, c, d => by
    rw [regex, Regex.outcomes]
    simp only [Reads]
    cases hg : c.captures.get? group with
    | none => simp
    | some t =>
      rw [Regex.mem_skip_of_prefix]
      constructor
      · rintro ⟨rest, h, rfl⟩
        exact ⟨t, rest, _, h, ⟨rfl, rfl⟩, rfl⟩
      · rintro ⟨u, rest, _, h, ⟨hu, rfl⟩, rfl⟩
        cases hu
        exact ⟨rest, h, rfl⟩

theorem mem_outcomes_regexes : ∀ {ps : List Piece} {c d : Cursor}, d ∈ (regexes ps).outcomes c ↔
    ∃ u rest cs, c.rest = u ++ rest ∧ ReadsAll ps c.captures u cs ∧
      d = ⟨u.reverse ++ c.before, rest, cs⟩
  | [], c, d => by
    rw [regexes, Regex.takes_empty c d]
    simp only [ReadsAll]
    exact exists_captures.symm
  | p :: ps, c, d => by
    rw [regexes, Regex.outcomes, List.mem_flatMap]
    simp only [ReadsAll]
    constructor
    · rintro ⟨e, he, hd⟩
      obtain ⟨a, rest, between, ha, hp, rfl⟩ := mem_outcomes_regex.1 he
      obtain ⟨b, rest', cs, hb, hps, rfl⟩ := mem_outcomes_regexes.1 hd
      have hb : rest = b ++ rest' := hb
      exact ⟨a ++ b, rest', cs, by rw [ha, hb, List.append_assoc],
        ⟨a, b, between, rfl, hp, hps⟩, by simp⟩
    · rintro ⟨_, rest, cs, h, ⟨a, b, between, rfl, hp, hps⟩, rfl⟩
      refine ⟨⟨a.reverse ++ c.before, b ++ rest, between⟩, ?_, ?_⟩
      · exact mem_outcomes_regex.2 ⟨a, b ++ rest, between, by rw [h, List.append_assoc], hp, rfl⟩
      · exact mem_outcomes_regexes.2 ⟨b, rest, cs, rfl, hps, by simp⟩

end

mutual

theorem looksForward_regex : ∀ p : Piece, p.regex.LooksForward
  | text _ | again _ => trivial
  | star none | star (some _) => trivial
  | starstar none _ | starstar (some _) _ => ⟨⟨trivial, trivial, trivial⟩, trivial⟩
  | free _ => ⟨trivial, trivial⟩
  | bound _ body => looksForward_regexes body

theorem looksForward_regexes : ∀ ps : List Piece, (regexes ps).LooksForward
  | [] => trivial
  | p :: ps => ⟨looksForward_regex p, looksForward_regexes ps⟩

end

theorem isPlain_regexes (ps : List Piece) : (regexes ps).IsPlain := (looksForward_regexes ps).isPlain

/-- The outcomes at which a row of pieces has read a whole text. -/
def wholeOutcomes (ps : List Piece) (path : Text) : List Cursor :=
  ((regexes ps).outcomes (.start path)).filter fun d => d.rest.isEmpty

theorem outcomes_whole (ps : List Piece) (c : Cursor) : (whole ps).outcomes c =
    if c.before = [] then ((regexes ps).outcomes c).filter fun d => d.rest.isEmpty else [] := by
  have last : (Regex.seq (regexes ps) (.anchor .textEnd)).outcomes c =
      ((regexes ps).outcomes c).filter fun d => d.rest.isEmpty := by
    rw [Regex.outcomes]
    induction (regexes ps).outcomes c with
    | nil => rfl
    | cons d l ih =>
      rw [List.flatMap_cons, ih, List.filter_cons]
      cases h : d.rest <;> simp [Regex.outcomes, Anchor.holds, h]
  rw [← last, whole, Regex.outcomes]
  cases h : c.before <;> simp [Regex.outcomes, Anchor.holds, h]

theorem outcomes_whole_later (ps : List Piece) : ∀ (rest : Text) {c : Cursor}, c.rest = rest →
    c.before ≠ [] → (Regex.starts rest c).flatMap (whole ps).outcomes = []
  | [], c, _, h => by simp [Regex.starts, outcomes_whole, h]
  | x :: rest, c, hr, h => by
    have moved : (c.skip 1).before ≠ [] := by simp [Cursor.skip, h]
    have later := outcomes_whole_later ps rest (c := c.skip 1) (by simp [hr]) moved
    rw [Regex.starts, List.flatMap_cons, later, outcomes_whole, if_neg h]
    rfl

theorem outcomes_starts (ps : List Piece) (path : Text) :
    (Regex.starts path (.start path)).flatMap (whole ps).outcomes = wholeOutcomes ps path := by
  have first : (whole ps).outcomes (.start path) = wholeOutcomes ps path := by
    rw [outcomes_whole]
    rfl
  cases path with
  | nil => simp [Regex.starts, first]
  | cons x path =>
    have moved : (Cursor.skip 1 (.start (x :: path))).before ≠ [] := by
      simp [Cursor.skip, Cursor.start]
    have later := outcomes_whole_later ps path (c := .skip 1 (.start (x :: path))) rfl moved
    rw [Regex.starts, List.flatMap_cons, first, later, List.append_nil]

/-- What a search for a whole text finds is the preferred way to read it. -/
theorem search_whole (ps : List Piece) (path : Text) :
    match (whole ps).search path with
    | .found c => (wholeOutcomes ps path).head? = some c
    | .failed => wholeOutcomes ps path = []
    | .gaveUp => True := by
  have plain : (whole ps).IsPlain := ⟨trivial, isPlain_regexes ps, trivial⟩
  have found := Regex.search_of_isPlain plain path
  rw [outcomes_starts] at found
  cases h : (whole ps).search path with
  | found c => rwa [h] at found
  | failed =>
    rw [h] at found
    exact List.head?_eq_none_iff.1 found
  | gaveUp => trivial

theorem mem_wholeOutcomes {ps : List Piece} {path : Text} {d : Cursor} :
    d ∈ wholeOutcomes ps path ↔
      ∃ cs, ReadsAll ps [] path cs ∧ d = ⟨path.reverse, [], cs⟩ := by
  rw [wholeOutcomes, List.mem_filter, mem_outcomes_regexes, List.isEmpty_iff]
  constructor
  · rintro ⟨⟨u, rest, cs, h, hr, rfl⟩, he⟩
    obtain rfl : rest = [] := he
    obtain rfl : path = u := by simpa [Cursor.start] using h
    exact ⟨cs, hr, by simp [Cursor.start]⟩
  · rintro ⟨cs, hr, rfl⟩
    exact ⟨⟨path, [], cs, (List.append_nil path).symm, hr, by simp [Cursor.start]⟩, rfl⟩

end Piece

namespace Matcher
variable {m : Matcher} {path : Text}

theorem isMatch_eq (m : Matcher) (path : Text) : m.isMatch path =
    match m.usablePieces with
    | .error e => .error e
    | .ok ps =>
      match (Piece.whole ps).search path with
      | .found _ => .ok true
      | .failed => .ok false
      | .gaveUp => .error (.undecided path) := by
  unfold isMatch Regex.search?
  cases m.usablePieces with
  | error e => rfl
  | ok ps =>
    simp only [pure, bind, Except.bind]
    cases (Piece.whole ps).search path <;> rfl

theorem captures_eq (m : Matcher) (path : Text) : m.captures path =
    match m.usablePieces with
    | .error e => .error e
    | .ok ps =>
      match (Piece.whole ps).search path with
      | .found c => .ok (some (addLocale (valuesOf (Piece.groupsOf ps) c.captures)))
      | .failed => .ok none
      | .gaveUp => .error (.undecided path) := by
  unfold captures
  cases m.usablePieces <;> rfl

theorem isMatch_eq_ok_true : m.isMatch path = .ok true ↔ ∃ b, m.captures path = .ok (some b) := by
  rw [isMatch_eq, captures_eq]
  cases m.usablePieces with
  | error e => simp
  | ok ps => cases h : (Piece.whole ps).search path <;> simp [h]

theorem captures_eq_some_iff {b : Bindings} : m.captures path = .ok (some b) ↔
    ∃ ps c, m.usablePieces = .ok ps ∧ (Piece.whole ps).search path = .found c ∧
      addLocale (valuesOf (Piece.groupsOf ps) c.captures) = b := by
  rw [captures_eq]
  cases m.usablePieces with
  | error e => simp
  | ok ps => cases h : (Piece.whole ps).search path <;> simp [h]

/-- The answer of `isMatch` says whether the pieces can read the whole path. -/
theorem isMatch_iff_reads {answer : Bool} (h : m.isMatch path = .ok answer) :
    ∃ ps, m.usablePieces = .ok ps ∧ (answer = true ↔ ∃ cs, Piece.ReadsAll ps [] path cs) := by
  rw [isMatch_eq] at h
  cases hu : m.usablePieces with
  | error e =>
    rw [hu] at h
    cases h
  | ok ps =>
    simp only [hu] at h
    have found := Piece.search_whole ps path
    refine ⟨ps, rfl, ?_⟩
    cases hs : (Piece.whole ps).search path with
    | found c =>
      simp only [hs] at found h
      cases h
      obtain ⟨cs, hr, -⟩ := Piece.mem_wholeOutcomes.1 (List.mem_of_mem_head? found)
      exact ⟨fun _ => ⟨cs, hr⟩, fun _ => rfl⟩
    | failed =>
      simp only [hs] at found h
      cases h
      refine ⟨nofun, fun ⟨cs, hr⟩ => ?_⟩
      have := Piece.mem_wholeOutcomes.2 ⟨cs, hr, rfl⟩
      rw [found] at this
      cases this
    | gaveUp =>
      simp only [hs] at h
      cases h

/-- The values that `captures` returns come from a reading of the whole path. -/
theorem reads_of_captures {b : Bindings} (h : m.captures path = .ok (some b)) :
    ∃ ps cs, m.usablePieces = .ok ps ∧ Piece.ReadsAll ps [] path cs ∧
      b = addLocale (valuesOf (Piece.groupsOf ps) cs) := by
  obtain ⟨ps, c, usable, searched, rfl⟩ := captures_eq_some_iff.1 h
  have found := Piece.search_whole ps path
  rw [searched] at found
  obtain ⟨cs, read, rfl⟩ := Piece.mem_wholeOutcomes.1 (List.mem_of_mem_head? found)
  exact ⟨ps, cs, usable, read, rfl⟩

end Matcher

end LocalePaths
