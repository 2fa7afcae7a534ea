import LocalePaths.Proofs.Pattern.Names
import LocalePaths.Proofs.Pattern.Segments

/-!
# The tokens that occur in a text

Where `**`, `*` and variables occur can be said of a text without reading it (`Token.OccursAt`): `**` is a
whole segment of the path, `*` is any other star, and a variable is a name between braces, with spaces
around it or not. Reading a text finds exactly these tokens, each at its place
(`Token.exists_spans_ofText`). What is read first does not touch what occurs later (`Token.ReadAt`), as long
as no `**` goes across the place up to which the text has been read (`Token.Whole`).
-/

namespace LocalePaths

/-- Where texts are put together, one for each of `xs`, that of `x` starts at the place. -/
def StandsAt {α : Type} (xs : List α) (spans : List Text) (place : Nat) (x : α) : Prop :=
  ∃ i, xs[i]? = some x ∧ (spans.take i).flatten.length = place

theorem standsAt_nil {α : Type} {spans : List Text} {place : Nat} {x : α} :
    ¬StandsAt [] spans place x := nofun

theorem standsAt_cons {α : Type} {xs : List α} {spans : List Text} {place : Nat} {x y : α} {t : Text} :
    StandsAt (x :: xs) (t :: spans) place y ↔
      place = 0 ∧ y = x ∨ ∃ p, place = t.length + p ∧ StandsAt xs spans p y := by
  constructor
  · rintro ⟨i, hi, rfl⟩
    cases i with
    | zero => exact .inl ⟨rfl, (Option.some.inj hi).symm⟩
    | succ i => exact .inr ⟨_, by simp, i, hi, rfl⟩
  · rintro (⟨rfl, rfl⟩ | ⟨p, rfl, i, hi, rfl⟩)
    · exact ⟨0, rfl, rfl⟩
    · exact ⟨i + 1, hi, by simp⟩

theorem length_flatten_take_lt {spans : List Text} {t : Text} {i j : Nat} (ht : spans[i]? = some t)
    (nonempty : t ≠ []) (lt : i < j) :
    (spans.take i).flatten.length < (spans.take j).flatten.length := by
  have next : spans.take (i + 1) = spans.take i ++ [t] := by rw [List.take_add_one, ht, Option.toList_some]
  obtain ⟨rest, e⟩ : spans.take (i + 1) <+: spans.take j := List.take_prefix_take_left lt
  rw [← e, next, List.append_assoc, List.flatten_append, List.length_append, List.flatten_append,
    List.length_append, List.flatten_singleton]
  have := List.length_pos_of_ne_nil nonempty
  omega

theorem StandsAt.lt_length {α : Type} {R : α → Text → Prop} {xs : List α} {spans : List Text} {place : Nat}
    {x : α} (h : StandsAt xs spans place x) (related : List.Forall₂ R xs spans)
    (nonempty : ∀ t, R x t → t ≠ []) : place < spans.flatten.length := by
  induction related generalizing place with
  | nil => exact absurd h standsAt_nil
  | @cons y t ys spans first later ih =>
    rw [List.flatten_cons, List.length_append]
    rcases standsAt_cons.1 h with ⟨rfl, rfl⟩ | ⟨p, rfl, later⟩
    · exact Nat.add_pos_left (List.length_pos_of_ne_nil (nonempty t first)) _
    · exact Nat.add_lt_add_left (ih later) _

namespace Token
variable {atStart : Bool} {s t rest front back x y ending : Text} {k j : Token} {place i : Nat}

/-- The text is the variable `x` in braces, with any number of spaces around its name. -/
def IsBraced (x t : Text) : Prop :=
  IsWord x ∧ ∃ m n, t = '\x7b' :: (List.replicate m ' ' ++ (x ++ (List.replicate n ' ' ++ ['\x7d'])))

/-- The text is a written form of the token. -/
def Spells : Token → Text → Prop
  | char c, t => t = [c]
  | star, t => t = ['*']
  | starstar ending, t => t = '*' :: '*' :: ending ∧ (ending = [] ∨ ending = ['/'])
  | name x, t => IsBraced x t

/-- At the place starts a segment that is `**`. A separator comes behind it unless it is the last one. -/
def DoubledAt (s : Text) (place : Nat) (ending : Text) : Prop :=
  ∃ k, (Path.segments s)[k]? = some ['*', '*'] ∧ Path.startOf s k = place ∧
    ending = if k + 1 = (Path.segments s).length then [] else ['/']

/-- The token occurs at the place of the text: `**` as a whole segment, `*` outside of such segments, and a
variable in braces. -/
def OccursAt (s : Text) (place : Nat) : Token → Prop
  | char _ => False
  | star => s[place]? = some '*' ∧
      ∀ start ending, DoubledAt s start ending → place < start ∨ start + 2 ≤ place
  | starstar ending => DoubledAt s place ending
  | name x => ∃ t, IsBraced x t ∧ t <+: s.drop place

theorem ending?_eq_some : ending? s = some (ending, rest) ↔
    s = ending ++ rest ∧ (ending = [] ∧ rest = [] ∨ ending = ['/']) := by
  unfold ending?
  split
  · simp
    grind
  · simp
    grind
  · rename_i empty slash
    simp only [reduceCtorEq, false_iff]
    rintro ⟨rfl, ⟨rfl, rfl⟩ | rfl⟩
    · exact empty rfl
    · exact slash rest rfl

theorem doubledAt_iff : DoubledAt s place ending ↔ ∃ front back rest,
    s = front ++ '*' :: '*' :: back ∧ front.length = place ∧ IsLead front ∧
      ending? back = some (ending, rest) := by
  constructor
  · rintro ⟨k, found, rfl, rfl⟩
    obtain ⟨front, back, rfl, start, lead, last, ends⟩ := Path.exists_of_segment found
    rcases ends with rfl | ⟨rest, rfl⟩
    · exact ⟨front, [], [], rfl, start, lead, by rw [if_pos (last.2 rfl)]; rfl⟩
    · refine ⟨front, '/' :: rest, rest, rfl, start, lead, ?_⟩
      rw [if_neg fun e => List.cons_ne_nil _ _ (last.1 e)]
      rfl
  · rintro ⟨front, back, rest, rfl, rfl, lead, h⟩
    obtain ⟨rfl, cases⟩ := ending?_eq_some.1 h
    have ends : ending ++ rest = [] ∨ ∃ rest', ending ++ rest = '/' :: rest' := by
      rcases cases with ⟨rfl, rfl⟩ | rfl
      · exact .inl rfl
      · exact .inr ⟨rest, rfl⟩
    obtain ⟨k, found, start, last⟩ := Path.exists_segment lead (by decide : '/' ∉ ['*', '*']) ends
    refine ⟨k, found, start, ?_⟩
    rcases cases with ⟨rfl, rfl⟩ | rfl
    · exact (if_pos (last.2 rfl)).symm
    · exact (if_neg fun e => List.cons_ne_nil _ _ (last.1 e)).symm

/-- Whether `**` occurs behind `front`. -/
theorem doubledAt_append : DoubledAt (front ++ s) front.length ending ↔
    IsLead front ∧ ∃ back rest, s = '*' :: '*' :: back ∧ ending? back = some (ending, rest) := by
  rw [doubledAt_iff]
  constructor
  · rintro ⟨front', back, rest, e, len, lead, h⟩
    obtain ⟨rfl, rfl⟩ := List.append_inj e len.symm
    exact ⟨lead, back, rest, rfl, h⟩
  · rintro ⟨lead, back, rest, rfl, h⟩
    exact ⟨front, back, rest, rfl, rfl, lead, h⟩

theorem takeWhile_append_cons {p : Char → Bool} {u : Text} {c : Char} (hu : ∀ d ∈ u, p d = true)
    (hc : p c = false) (v : Text) :
    (u ++ c :: v).takeWhile p = u ∧ (u ++ c :: v).dropWhile p = c :: v := by
  rw [List.takeWhile_append_of_pos hu, List.dropWhile_append_of_pos hu]
  simp [hc]

theorem takeWhile_spaces (s : Text) :
    ∃ m, s = List.replicate m ' ' ++ s.dropWhile (· = ' ') := by
  refine ⟨(s.takeWhile (· = ' ')).length, ?_⟩
  have spaces : s.takeWhile (· = ' ') = List.replicate (s.takeWhile (· = ' ')).length ' ' :=
    List.eq_replicate_iff.2 ⟨rfl, fun c hc => by
      simpa using List.all_eq_true.1 (List.all_takeWhile (p := (· = ' ')) (l := s)) c hc⟩
  rw [← spaces]
  exact (List.takeWhile_append_dropWhile ..).symm

theorem name?_spelled (word : IsWord x) (m n : Nat) (rest : Text) :
    name? (List.replicate m ' ' ++ (x ++ (List.replicate n ' ' ++ '\x7d' :: rest))) = some (x, rest) := by
  obtain ⟨nonempty, word⟩ := word
  have spaces : ∀ k, ∀ c ∈ List.replicate k ' ', (fun c => decide (c = ' ')) c = true := fun k c hc => by
    simpa using (List.mem_replicate.1 hc).2
  have behind : ∃ d u, List.replicate n ' ' ++ '\x7d' :: rest = d :: u ∧ isNameChar d = false := by
    cases n with
    | zero => exact ⟨'\x7d', rest, rfl, by decide⟩
    | succ n => exact ⟨' ', _, rfl, by decide⟩
  obtain ⟨d, u, hu, hd⟩ := behind
  cases x with
  | nil => exact absurd rfl nonempty
  | cons c x =>
    have first : c ≠ ' ' := by
      rintro rfl
      exact absurd (word ' ' List.mem_cons_self) (by decide)
    unfold name?
    dsimp only
    rw [List.cons_append, (takeWhile_append_cons (spaces m) (by simpa using first) _).2,
      ← List.cons_append, hu, (takeWhile_append_cons word hd u).1, (takeWhile_append_cons word hd u).2,
      ← hu, (takeWhile_append_cons (spaces n) (by decide) rest).2]
    rfl

/-- A name is read from spaces, the name, spaces and the closing brace. -/
theorem name?_eq_some : name? s = some (x, rest) ↔
    IsWord x ∧ ∃ m n, s = List.replicate m ' ' ++ (x ++ (List.replicate n ' ' ++ '\x7d' :: rest)) := by
  constructor
  · intro h
    refine ⟨isWord_of_name? h, ?_⟩
    obtain ⟨m, hm⟩ := takeWhile_spaces s
    obtain ⟨n, hn⟩ := takeWhile_spaces ((s.dropWhile (· = ' ')).dropWhile isNameChar)
    unfold name? at h
    dsimp only at h
    split at h
    · rename_i hword hrest
      cases h
      refine ⟨m, n, ?_⟩
      rw [← hrest, ← hn, ← hword, List.takeWhile_append_dropWhile, ← hm]
    · cases h
  · rintro ⟨word, m, n, rfl⟩
    exact name?_spelled word m n rest

/-- What is read behind a brace is a variable in braces. -/
theorem name?_iff_isBraced : name? s = some (x, rest) ↔
    ∃ t, IsBraced x t ∧ '\x7b' :: s = t ++ rest := by
  rw [name?_eq_some]
  constructor
  · rintro ⟨word, m, n, rfl⟩
    exact ⟨_, ⟨word, m, n, rfl⟩, by simp⟩
  · rintro ⟨_, ⟨word, m, n, rfl⟩, h⟩
    exact ⟨word, m, n, by simpa using (List.cons.inj h).2⟩

theorem IsBraced.eq_cons (h : IsBraced x t) :
    ∃ u, t = '\x7b' :: u ∧ '*' ∉ u ∧ '\x7b' ∉ u ∧ u.getLast? = some '\x7d' := by
  obtain ⟨⟨-, word⟩, m, n, rfl⟩ := h
  have plain : ∀ c, isNameChar c = false → c ≠ ' ' → c ≠ '\x7d' →
      c ∉ List.replicate m ' ' ++ (x ++ (List.replicate n ' ' ++ ['\x7d'])) := by
    intro c hc space brace
    simp only [List.mem_append, List.mem_replicate, List.mem_singleton, not_or]
    refine ⟨fun h => space h.2, fun h => ?_, fun h => space h.2, brace⟩
    exact Bool.false_ne_true (hc.symm.trans (word c h))
  exact ⟨_, rfl, plain _ (by decide) (by decide) (by decide), plain _ (by decide) (by decide) (by decide),
    by simp [List.getLast?_append]⟩

theorem occursAt_name : OccursAt (front ++ s) front.length (name x) ↔
    ∃ u rest, s = '\x7b' :: u ∧ name? u = some (x, rest) := by
  show (∃ t, IsBraced x t ∧ t <+: (front ++ s).drop front.length) ↔ _
  rw [List.drop_left]
  constructor
  · rintro ⟨t, h, rest, rfl⟩
    obtain ⟨u, rfl, -⟩ := h.eq_cons
    exact ⟨u ++ rest, rest, rfl, name?_iff_isBraced.2 ⟨_, h, rfl⟩⟩
  · rintro ⟨u, rest, rfl, h⟩
    obtain ⟨t, ht, e⟩ := name?_iff_isBraced.1 h
    exact ⟨t, ht, rest, e.symm⟩

/-- The character with which the token starts where it occurs. -/
def opener : Token → Char
  | char c => c
  | star | starstar _ => '*'
  | name _ => '\x7b'

theorem OccursAt.getElem? (h : OccursAt s place k) : s[place]? = some k.opener := by
  cases k with
  | char c => exact h.elim
  | star => exact h.1
  | starstar ending =>
    obtain ⟨front, back, rest, rfl, rfl, -, -⟩ := doubledAt_iff.1 h
    simp [opener]
  | name x =>
    obtain ⟨t, ht, rest, h⟩ := h
    obtain ⟨u, rfl, -⟩ := ht.eq_cons
    have first := congrArg (·[0]?) h
    simpa [opener] using first.symm

/-- Only wildcards and variables occur, and the character tells which of them. -/
theorem OccursAt.kind (h : OccursAt s place k) :
    k.opener = '*' ∧ (k = star ∨ ∃ ending, k = starstar ending) ∨ k.opener = '\x7b' ∧ ∃ x, k = name x := by
  cases k with
  | char c => exact h.elim
  | star => exact .inl ⟨rfl, .inl rfl⟩
  | starstar ending => exact .inl ⟨rfl, .inr ⟨ending, rfl⟩⟩
  | name x => exact .inr ⟨rfl, x, rfl⟩

/-- No segment that is `**` has its first star in front of the text and its second star in it. -/
def Whole (front s : Text) : Prop :=
  ∀ start ending, DoubledAt (front ++ s) start ending → start + 1 ≠ front.length

/-- Between `front` and `back` the token is read from `t`: it is written so, and nothing else occurs
there. -/
structure ReadAt (front t back : Text) (k : Token) : Prop where
  spelled : k.Spells t
  occurs : ∀ i < t.length, ∀ j, OccursAt (front ++ (t ++ back)) (front.length + i) j ↔
    i = 0 ∧ j = k ∧ ∀ c, k ≠ char c

theorem getElem?_between (h : i < t.length) :
    (front ++ (t ++ back))[front.length + i]? = t[i]? := by
  rw [List.getElem?_append_right (Nat.le_add_right ..), Nat.add_sub_cancel_left,
    List.getElem?_append_left h]

theorem OccursAt.opener_eq (h : i < t.length)
    (occurs : OccursAt (front ++ (t ++ back)) (front.length + i) j) : t[i]? = some j.opener :=
  (getElem?_between h).symm.trans occurs.getElem?

theorem occursAt_star (h : s[place]? = some '*') : OccursAt s place star ↔
    (∀ ending, ¬DoubledAt s place ending) ∧ ∀ start ending, DoubledAt s start ending → start + 1 ≠ place := by
  refine (and_iff_right h).trans ⟨fun apart => ⟨fun ending d => ?_, fun start ending d => ?_⟩, ?_⟩
  · have := apart place ending d
    omega
  · have := apart start ending d
    omega
  · rintro ⟨here, before⟩ start ending d
    have := before start ending d
    have : start ≠ place := fun e => here ending (e ▸ d)
    omega

theorem DoubledAt.unique {ending' : Text} (h : DoubledAt s place ending) (h' : DoubledAt s place ending') :
    ending = ending' := by
  obtain ⟨front, back, rest, rfl, rfl, -, e⟩ := doubledAt_iff.1 h
  obtain ⟨-, back', rest', e', found⟩ := doubledAt_append.1 h'
  cases e'
  exact (Prod.mk.inj (Option.some.inj (e.symm.trans found))).1

theorem DoubledAt.slash_before (h : DoubledAt s (place + 1) ending) : s[place]? = some '/' := by
  obtain ⟨front, back, rest, rfl, len, lead, -⟩ := doubledAt_iff.1 h
  rcases lead with rfl | last
  · cases len
  · rw [List.getElem?_append_left (by omega), ← last, List.getLast?_eq_getElem?, len]
    rfl

theorem readAt_starstar (lead : IsLead front) (h : ending? s = some (ending, back)) :
    ReadAt front ('*' :: '*' :: ending) back (starstar ending) := by
  obtain ⟨rfl, ends⟩ := ending?_eq_some.1 h
  have here : DoubledAt (front ++ ('*' :: '*' :: ending ++ back)) front.length ending :=
    doubledAt_append.2 ⟨lead, _, _, rfl, h⟩
  refine ⟨⟨rfl, ends.imp_left And.left⟩, fun i hi j => ⟨fun occurs => ?_, ?_⟩⟩
  · have first := occurs.opener_eq hi
    -- behind the two stars there is at most a separator, with which no token starts
    have stars : j.opener = '*' ∧ i < 2 := by
      match i, first with
      | 0, first | 1, first => exact ⟨(Option.some.inj first).symm, by omega⟩
      | i + 2, first =>
        have inside := List.mem_of_getElem? (show ending[i]? = some j.opener from first)
        rcases ends with ⟨rfl, -⟩ | rfl
        · cases inside
        · have slash := List.mem_singleton.1 inside
          rcases occurs.kind with ⟨e, -⟩ | ⟨e, -⟩ <;> exact absurd (e.symm.trans slash) (by decide)
    rcases occurs.kind with ⟨-, rfl | ⟨ending', rfl⟩⟩ | ⟨e, -⟩
    · have := occurs.2 _ _ here
      omega
    · match i, stars.2 with
      | 0, _ => exact ⟨rfl, congrArg starstar (DoubledAt.unique occurs here), nofun⟩
      | 1, _ =>
        have slash := DoubledAt.slash_before occurs
        exact absurd (slash.symm.trans (OccursAt.getElem? (k := starstar ending) here)) (by simp [opener])
    · exact absurd (stars.1.symm.trans e) (by decide)
  · rintro ⟨rfl, rfl, -⟩
    exact here

theorem readAt_star (here : ∀ ending, ¬DoubledAt (front ++ '*' :: back) front.length ending)
    (whole : Whole front ('*' :: back)) : ReadAt front ['*'] back star := by
  refine ⟨rfl, fun i hi j => ?_⟩
  obtain rfl : i = 0 := Nat.lt_one_iff.1 hi
  have first : (front ++ '*' :: back)[front.length]? = some '*' := by simp
  refine ⟨fun occurs => ⟨rfl, ?_, nofun⟩, ?_⟩
  · have opens : '*' = j.opener := Option.some.inj (occurs.opener_eq hi)
    rcases occurs.kind with ⟨-, rfl | ⟨ending, rfl⟩⟩ | ⟨e, -⟩
    · rfl
    · exact absurd occurs (here ending)
    · exact absurd (opens.trans e) (by decide)
  · rintro ⟨-, rfl, -⟩
    exact (occursAt_star first).2 ⟨here, whole⟩

theorem readAt_name (h : IsBraced x t) : ReadAt front t back (name x) := by
  refine ⟨h, fun i hi j => ?_⟩
  obtain ⟨u, rfl, star_, brace, -⟩ := h.eq_cons
  have read : name? (u ++ back) = some (x, back) := name?_iff_isBraced.2 ⟨_, h, rfl⟩
  constructor
  · intro occurs
    have first := occurs.opener_eq hi
    cases i with
    | zero =>
      have opens : '\x7b' = j.opener := Option.some.inj first
      refine ⟨rfl, ?_, nofun⟩
      rcases occurs.kind with ⟨e, -⟩ | ⟨-, y, rfl⟩
      · exact absurd (opens.trans e) (by decide)
      · obtain ⟨u', rest, e, read'⟩ := occursAt_name.1 occurs
        cases e
        rw [(Prod.mk.inj (Option.some.inj (read.symm.trans read'))).1]
    | succ i =>
      have inside := List.mem_of_getElem? (show u[i]? = some j.opener from first)
      rcases occurs.kind with ⟨e, -⟩ | ⟨e, -⟩
      · exact absurd (e ▸ inside) star_
      · exact absurd (e ▸ inside) brace
  · rintro ⟨rfl, rfl, -⟩
    exact occursAt_name.2 ⟨_, _, rfl, read⟩

theorem readAt_char {c : Char} (star_ : c ≠ '*') (brace : c = '\x7b' → name? back = none) :
    ReadAt front [c] back (char c) := by
  refine ⟨rfl, fun i hi j => ?_⟩
  obtain rfl : i = 0 := Nat.lt_one_iff.1 hi
  refine ⟨fun occurs => ?_, fun h => absurd rfl (h.2.2 c)⟩
  have opens : c = j.opener := Option.some.inj (occurs.opener_eq hi)
  rcases occurs.kind with ⟨e, -⟩ | ⟨-, x, rfl⟩
  · exact absurd (opens.trans e) star_
  · obtain ⟨u, rest, e, read⟩ := occursAt_name.1 occurs
    cases e
    exact nomatch (brace rfl).symm.trans read

/-- The first token is read from the start of the text. -/
theorem exists_readAt (h : next? atStart s = some (k, back)) (start : atStart = true ↔ IsLead front)
    (whole : Whole front s) : ∃ t, s = t ++ back ∧ ReadAt front t back k := by
  have begins := next?_eq_some.1 h
  cases k with
  | char c =>
    obtain ⟨rfl, star_, brace⟩ := begins
    exact ⟨[c], rfl, readAt_char star_ brace⟩
  | star =>
    obtain ⟨rfl, none⟩ := begins
    refine ⟨['*'], rfl, readAt_star (fun ending d => ?_) whole⟩
    obtain ⟨lead, u, after, e, read⟩ := doubledAt_append.1 d
    exact nomatch (none u (start.2 lead) (List.cons.inj e).2).symm.trans read
  | starstar ending =>
    obtain ⟨atStart, u, rfl, read⟩ := begins
    obtain ⟨rfl, -⟩ := ending?_eq_some.1 read
    exact ⟨_, rfl, readAt_starstar (start.1 atStart) read⟩
  | name x =>
    obtain ⟨u, rfl, read⟩ := begins
    obtain ⟨t, ht, e⟩ := name?_iff_isBraced.1 read
    exact ⟨t, e, readAt_name ht⟩

theorem Spells.ne_nil (h : k.Spells t) : t ≠ [] := by
  cases k with
  | char | star =>
    rw [show t = _ from h]
    exact List.cons_ne_nil _ _
  | starstar ending =>
    rw [h.1]
    exact List.cons_ne_nil _ _
  | name x =>
    obtain ⟨u, rfl, -⟩ := IsBraced.eq_cons h
    exact List.cons_ne_nil _ _

/-- What is read behind a token starts a path segment if the token ends one. -/
theorem Spells.isLead_iff (h : k.Spells t) : k.endsSegment = true ↔ IsLead (front ++ t) := by
  have nonempty : front ++ t ≠ [] := List.append_ne_nil_of_right_ne_nil _ h.ne_nil
  rw [IsLead, or_iff_right nonempty, List.getLast?_append_of_ne_nil _ h.ne_nil]
  cases k with
  | char c | star =>
    rw [show t = _ from h]
    simp [endsSegment]
  | starstar ending =>
    obtain ⟨rfl, rfl | rfl⟩ := h <;> simp [endsSegment]
  | name x =>
    obtain ⟨u, rfl, -, -, last⟩ := IsBraced.eq_cons h
    have last : ('\x7b' :: u).getLast? = some '\x7d' := by
      rw [List.getLast?_cons, last]
      rfl
    simp [endsSegment, last]

/-- No `**` that is a segment begins with the last character of what has been read. -/
theorem ReadAt.whole (h : ReadAt front t back k) : Whole (front ++ t) back := by
  intro start ending d e
  have nonempty := List.length_pos_of_ne_nil h.spelled.ne_nil
  rw [List.length_append] at e
  obtain rfl : start = front.length + (t.length - 1) := by omega
  rw [List.append_assoc] at d
  obtain ⟨first, rfl, -⟩ := (h.occurs _ (Nat.sub_lt nonempty Nat.one_pos) (starstar ending)).1 d
  rw [h.spelled.1, List.length_cons, List.length_cons] at first
  omega

theorem next?_eq_none (h : next? atStart s = none) : s = [] := by
  unfold next? at h
  repeat' split at h
  all_goals first | rfl | cases h

theorem eq_nil_of_tokens (h : tokens atStart s = []) : s = [] := by
  cases first : next? atStart s with
  | none => exact next?_eq_none first
  | some found =>
    rw [tokens_eq first] at h
    cases h

/-- A text is put together from written forms of its tokens, and these are all that occurs in it. -/
theorem exists_spans : ∀ {atStart : Bool} {front s : Text}, (atStart = true ↔ IsLead front) →
    Whole front s → ∃ spans, List.Forall₂ Spells (tokens atStart s) spans ∧ spans.flatten = s ∧
      ∀ i < s.length, ∀ j, OccursAt (front ++ s) (front.length + i) j ↔
        StandsAt (tokens atStart s) spans i j ∧ ∀ c, j ≠ char c := by
  intro atStart front s start whole
  cases h : next? atStart s with
  | none =>
    obtain rfl := next?_eq_none h
    exact ⟨[], .nil, rfl, nofun⟩
  | some found =>
    obtain ⟨k, back⟩ := found
    have shorter := length_of_next? h
    obtain ⟨t, e, read⟩ := exists_readAt h start whole
    obtain ⟨spans, spelled, rfl, later⟩ := exists_spans read.spelled.isLead_iff read.whole
    subst e
    rw [tokens_eq h]
    refine ⟨t :: spans, .cons read.spelled spelled, rfl, fun i hi j => ?_⟩
    rw [standsAt_cons]
    by_cases inside : i < t.length
    · rw [read.occurs i inside j]
      constructor
      · rintro ⟨rfl, rfl, named⟩
        exact ⟨.inl ⟨rfl, rfl⟩, named⟩
      · rintro ⟨⟨rfl, rfl⟩ | ⟨p, rfl, -⟩, named⟩
        · exact ⟨rfl, rfl, named⟩
        · omega
    · obtain ⟨p, rfl⟩ := Nat.exists_eq_add_of_le (Nat.not_lt.1 inside)
      rw [List.length_append] at hi
      have later := later p (by omega) j
      rw [List.append_assoc, List.length_append, Nat.add_assoc] at later
      rw [later]
      refine and_congr_left fun _ => ⟨fun h => .inr ⟨p, rfl, h⟩, ?_⟩
      rintro (⟨e, -⟩ | ⟨q, e, h⟩)
      · exact absurd (List.length_pos_of_ne_nil read.spelled.ne_nil) (by omega)
      · obtain rfl : p = q := by omega
        exact h
termination_by _ _ s => s.length

/-- A text is put together from written forms of its tokens, and no others occur in it. -/
theorem exists_spans_ofText (s : Text) :
    ∃ spans, List.Forall₂ Spells (ofText s) spans ∧ spans.flatten = s ∧
      ∀ place k, k.OccursAt s place ↔ StandsAt (ofText s) spans place k ∧ ∀ c, k ≠ char c := by
  have whole : Whole [] s := fun start ending _ => Nat.succ_ne_zero start
  obtain ⟨spans, spelled, joined, occurs⟩ := exists_spans (s := s) (iff_of_true rfl (.inl rfl)) whole
  refine ⟨spans, spelled, joined, fun place k => ?_⟩
  by_cases inside : place < s.length
  · have := occurs place inside k
    rwa [List.nil_append, List.length_nil, Nat.zero_add] at this
  · refine iff_of_false (fun h => ?_) fun h => inside ?_
    · exact inside (List.getElem?_eq_some_iff.1 h.getElem?).1
    · exact joined ▸ h.1.lt_length spelled fun _ => Spells.ne_nil

/-- A variable is read from a text if it occurs somewhere in it. -/
theorem name_mem_ofText_iff : .name x ∈ ofText s ↔ ∃ place, OccursAt s place (name x) := by
  obtain ⟨spans, -, -, occurs⟩ := exists_spans_ofText s
  constructor
  · intro h
    obtain ⟨i, hi⟩ := List.getElem?_of_mem h
    exact ⟨_, (occurs _ _).2 ⟨⟨i, hi, rfl⟩, nofun⟩⟩
  · rintro ⟨place, h⟩
    obtain ⟨⟨i, hi, -⟩, -⟩ := (occurs place _).1 h
    exact List.mem_of_getElem? hi

end Token

end LocalePaths
