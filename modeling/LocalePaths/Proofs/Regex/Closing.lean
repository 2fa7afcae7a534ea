import LocalePaths.Regex.CharClass
import Mathlib.Data.List.TakeWhile

/-!
# In front of a closing parenthesis

What the parts of a written expression are read to is not changed by a closing parenthesis behind the
expression: escapes (`Regex.escape?_concat`) and classes in brackets (`Regex.charClass?_concat`) stay in
front of it. Only a comment may take the parenthesis in; then nothing is left
(`Regex.skips_skipBlanks`).
-/

namespace LocalePaths

theorem Text.after?_concat {x : Char} : ∀ {lead : Text} (s : Text), x ∉ lead →
    after? lead (s ++ [x]) = (after? lead s).map (· ++ [x])
  | [], _, _ => rfl
  | c :: lead, [], h => by
    have other : c ≠ x := fun e => h (e ▸ List.mem_cons_self)
    simp [after?, other]
  | c :: lead, d :: s, h => by
    have later := after?_concat s (not_or.1 (mt List.mem_cons.2 h)).2
    unfold after?
    simp only [List.cons_append]
    split
    · exact later
    · rfl

namespace Regex

/-- The text is followed by a closing parenthesis, or nothing is left of both. -/
def Trails (s t : Text) : Prop := t = s ++ [')'] ∨ s = [] ∧ t = []

theorem afterComment?_concat : ∀ {s r : Text}, afterComment? s = some r →
    afterComment? (s ++ [')']) = some (r ++ [')'])
  | s, r, h => by
    fun_induction afterComment? s with
    | case1 => cases h
    | case2 s => cases h; rfl
    | case3 c s ih => exact ih h
    | case4 c s closing escaping ih =>
      cases s with
      | nil => cases h
      | cons d s =>
        rw [List.cons_append, List.cons_append, afterComment?]
        · exact ih h
        · exact closing
        · exact fun _ _ hc _ => escaping d s hc rfl

/-- A comment that is not closed takes the parenthesis in. -/
theorem afterComment?_spent : ∀ {s r : Text}, afterComment? s = none →
    afterComment? (s ++ [')']) = some r → r = []
  | s, r, h, hr => by
    fun_induction afterComment? s with
    | case1 => cases hr; rfl
    | case2 s => cases h
    | case3 c s ih => exact ih h hr
    | case4 c s closing escaping ih =>
      cases s with
      | nil =>
        by_cases e : c = '\\'
        · subst e
          cases hr
        · rw [List.cons_append, List.nil_append, afterComment?] at hr
          · cases hr
            rfl
          · exact closing
          · exact fun _ _ hc _ => e hc
      | cons d s =>
        rw [List.cons_append, List.cons_append, afterComment?] at hr
        · exact ih h hr
        · exact closing
        · exact fun _ _ hc _ => escaping d s hc rfl

theorem skipBlanks_succ (x : Bool) (n : Nat) (s : Text) : skipBlanks x (n + 1) s =
    match Text.after? "(?#".toList s with
    | some r => (afterComment? r).bind (skipBlanks x n)
    | none =>
      match s with
      | [] => some []
      | c :: r =>
        if x && c = '#' then skipBlanks x n ((r.dropWhile (· ≠ '\n')).drop 1)
        else if x && (c = ' ' || c = '\r' || c = '\n' || c = '\t') then skipBlanks x n r
        else some s := by
  have lead : "(?#".toList = ['(', '?', '#'] := rfl
  rw [lead]
  conv => lhs; unfold skipBlanks
  split
  · rename_i r
    have comment : Text.after? ['(', '?', '#'] ('(' :: '?' :: '#' :: r) = some r :=
      Text.after?_append ['(', '?', '#'] r
    rw [comment]
    rfl
  · rename_i r
    have other : Text.after? ['(', '?', '#'] ('#' :: r) = none := rfl
    rw [other]
    simp
  · rename_i c r opening line
    have other : Text.after? ['(', '?', '#'] (c :: r) = none := by
      refine Option.eq_none_iff_forall_ne_some.2 fun q hq => ?_
      have e : c :: r = ['(', '?', '#'] ++ q := Text.after?_eq_some.1 hq
      obtain ⟨rfl, rfl⟩ := List.cons.inj e
      exact opening q rfl rfl
    rw [other]
    have hash : c ≠ '#' := fun e => line e
    simp [hash]
  · rfl

theorem length_afterComment? : ∀ {s r : Text}, afterComment? s = some r → r.length ≤ s.length
  | s, r, h => by
    fun_induction afterComment? s with
    | case1 => cases h
    | case2 s => cases h; simp
    | case3 c s ih => exact (ih h).trans (Nat.le_add_right s.length 2)
    | case4 c s _ _ ih => exact (ih h).trans (Nat.le_add_right s.length 1)

theorem trails_dropWhile (p : Char → Bool) : ∀ s : Text,
    Trails ((s.dropWhile p).drop 1) (((s ++ [')']).dropWhile p).drop 1)
  | [] => by
    refine .inr ⟨rfl, ?_⟩
    rw [List.nil_append, List.dropWhile_cons]
    split <;> rfl
  | c :: s => by
    rw [List.cons_append, List.dropWhile_cons, List.dropWhile_cons]
    split
    · exact trails_dropWhile p s
    · exact .inl rfl

/-- Where a text is read that has the parenthesis behind it, either this is left or nothing. -/
inductive Skips : Option Text → Option Text → Prop
  | both {r q : Text} : Trails r q → Skips (some r) (some q)
  | spent {q? : Option Text} : (∀ q, q? = some q → q = []) → Skips none q?

theorem skipBlanks_nil (x : Bool) (n : Nat) : skipBlanks x n [] = some [] := by
  cases n <;> rfl

/-- Blanks are skipped alike, except that a comment may take the parenthesis in. -/
theorem skips_skipBlanks (x : Bool) : ∀ {n m : Nat} {s t : Text}, s.length ≤ n → t.length ≤ m →
    Trails s t → Skips (skipBlanks x n s) (skipBlanks x m t)
  | n, m, _, _, _, _, .inr ⟨rfl, rfl⟩ => by
    rw [skipBlanks_nil, skipBlanks_nil]
    exact .both (.inr ⟨rfl, rfl⟩)
  | n, m + 1, [], _, _, _, .inl rfl => by
    have left : skipBlanks x (m + 1) [')'] = some [')'] := by cases x <;> rfl
    rw [skipBlanks_nil, List.nil_append, left]
    exact .both (.inl rfl)
  | n + 1, m + 1, c :: s, _, hs, ht, .inl rfl => by
    have hs : s.length ≤ n := Nat.le_of_succ_le_succ hs
    have ht : (s ++ [')']).length ≤ m := Nat.le_of_succ_le_succ ht
    rw [skipBlanks_succ, skipBlanks_succ, Text.after?_concat (c :: s) (by decide)]
    cases hc : Text.after? "(?#".toList (c :: s) with
    | some u =>
      have shorter : u.length ≤ s.length := by
        have e := congrArg List.length (Text.after?_eq_some.1 hc)
        simp at e
        omega
      dsimp only [Option.map_some]
      cases hv : afterComment? u with
      | some v =>
        have rest := length_afterComment? hv
        rw [afterComment?_concat hv]
        exact skips_skipBlanks x (by omega) (by simp at ht ⊢; omega) (.inl rfl)
      | none =>
        refine .spent fun q hq => ?_
        obtain ⟨w, hw, hq⟩ := Option.bind_eq_some_iff.1 hq
        obtain rfl := afterComment?_spent hv hw
        cases (skipBlanks_nil x m).symm.trans hq
        rfl
    | none =>
      dsimp only [Option.map_none, List.cons_append]
      split
      · have shorter (u : Text) : ((u.dropWhile (· ≠ '\n')).drop 1).length ≤ u.length := by
          have := (List.dropWhile_suffix (l := u) (· ≠ '\n')).length_le
          rw [List.length_drop]
          omega
        exact skips_skipBlanks x ((shorter s).trans hs) ((shorter _).trans ht) (trails_dropWhile _ s)
      · split
        · exact skips_skipBlanks x hs ht (.inl rfl)
        · exact .both (.inl rfl)
  | _, 0, _, _, _, ht, .inl rfl => by simp at ht
  | 0, _, _ :: _, _, hs, _, _ => nomatch hs

/-! ### Escapes and classes -/

theorem takeWhile_concat {p : Char → Bool} (hp : p ')' = false) (s : Text) :
    (s ++ [')']).takeWhile p = s.takeWhile p := by
  induction s with
  | nil => simp [hp]
  | cons c s ih => simp [List.takeWhile_cons, ih]

theorem span_concat {p : Char → Bool} : ∀ {s r : Text} {x : Char}, s.dropWhile p = x :: r →
    (s ++ [')']).takeWhile p = s.takeWhile p ∧ (s ++ [')']).dropWhile p = x :: (r ++ [')'])
  | c :: s, r, x, h => by
    rw [List.dropWhile_cons] at h
    rw [List.cons_append, List.takeWhile_cons, List.takeWhile_cons, List.dropWhile_cons]
    split at h
    · rename_i more
      obtain ⟨taken, dropped⟩ := span_concat h
      simp only [more, if_true]
      exact ⟨congrArg (c :: ·) taken, dropped⟩
    · rename_i last
      cases h
      simp [last]

def isHex (c : Char) : Bool := (Text.hexDigit? c).isSome

theorem hexEscape?_braced (n : Nat) (s : Text) : hexEscape? (n + 1) ('\x7b' :: s) =
    match s.dropWhile isHex with
    | '\x7d' :: r =>
      if s.takeWhile isHex = [] || 8 < (s.takeWhile isHex).length then none
      else (hexChar? (s.takeWhile isHex)).map (·, r)
    | _ => none := by
  have braced : (('\x7b' :: s).take (n + 1)).all isHex = false := rfl
  have other : ¬((('\x7b' :: s).take (n + 1)).length = n + 1 &&
      (('\x7b' :: s).take (n + 1)).all isHex) = true := fun h =>
    nomatch ((Bool.and_eq_true_iff.1 h).2).symm.trans braced
  unfold hexEscape?
  refine (if_neg other).trans ?_
  simp only [Option.map_eq_bind]
  rfl

theorem hexEscape?_concat {n : Nat} {s r : Text} {c : Char} (h : hexEscape? (n + 1) s = some (c, r)) :
    hexEscape? (n + 1) (s ++ [')']) = some (c, r ++ [')']) := by
  by_cases braced : s.head? = some '\x7b'
  · obtain ⟨s, rfl⟩ := List.head?_eq_some_iff.1 braced
    rw [List.cons_append, hexEscape?_braced] at *
    split at h
    · rename_i rest closed
      obtain ⟨taken, dropped⟩ := span_concat closed
      rw [dropped, taken]
      obtain ⟨few, h⟩ := Option.ite_none_left_eq_some.1 h
      obtain ⟨d, hd, e⟩ := Option.map_eq_some_iff.1 h
      cases e
      rw [hd]
      exact if_neg few
    · cases h
  · unfold hexEscape? at h ⊢
    dsimp only at h ⊢
    split at h
    · rename_i digits
      have long : n + 1 ≤ s.length := by
        have := (Bool.and_eq_true_iff.1 digits).1
        simp at this
        omega
      rw [List.take_append_of_le_length long, List.drop_append_of_le_length long, if_pos digits]
      obtain ⟨d, hd, e⟩ := Option.bind_eq_some_iff.1 h
      cases e
      simp [hd]
    · split at h
      · exact absurd rfl braced
      · cases h

/-- The property of a name, in front of the rest of a text. -/
def namedProperty? (negated : Bool) (name rest : Text) : Option (CharSet × Text) := do
  let (negated, name) := match name with
    | '^' :: name => (!negated, name)
    | _ => (negated, name)
  let set ← property? name
  return (if negated then .compl set else set, rest)

theorem propertyEscape?_braced (negated : Bool) (s : Text) : propertyEscape? negated ('\x7b' :: s) =
    match s.dropWhile (· ≠ '\x7d') with
    | [] => none
    | _ :: r => namedProperty? negated (s.takeWhile (· ≠ '\x7d')) r := rfl

theorem propertyEscape?_single {c : Char} (hc : c ≠ '\x7b') (negated : Bool) (s : Text) :
    propertyEscape? negated (c :: s) = namedProperty? negated [c] s := by
  unfold propertyEscape?
  dsimp only
  split
  · rename_i h
    exact absurd (List.cons.inj h).1 hc
  · rename_i h
    cases h
    rfl
  · rename_i h
    cases h

theorem namedProperty?_concat {negated : Bool} {name rest r : Text} {set : CharSet}
    (h : namedProperty? negated name rest = some (set, r)) :
    namedProperty? negated name (rest ++ [')']) = some (set, r ++ [')']) := by
  obtain ⟨value, hv, e⟩ := Option.bind_eq_some_iff.1 h
  cases e
  exact Option.bind_eq_some_iff.2 ⟨value, hv, rfl⟩

theorem propertyEscape?_concat {negated : Bool} : ∀ {s r : Text} {set : CharSet},
    propertyEscape? negated s = some (set, r) →
      propertyEscape? negated (s ++ [')']) = some (set, r ++ [')'])
  | c :: s, r, set, h => by
    by_cases hc : c = '\x7b'
    · subst hc
      rw [List.cons_append, propertyEscape?_braced] at *
      split at h
      · cases h
      · rename_i closed
        obtain ⟨taken, dropped⟩ := span_concat closed
        rw [dropped, taken]
        exact namedProperty?_concat h
    · rw [List.cons_append, propertyEscape?_single hc] at *
      exact namedProperty?_concat h

theorem map_concat {α : Type} {x y : Option (α × Text)} {f : α → Escape} {e : Escape} {r : Text}
    (step : ∀ a u, x = some (a, u) → y = some (a, u ++ [')']))
    (h : x.map (fun p => (f p.1, p.2)) = some (e, r)) :
    y.map (fun p => (f p.1, p.2)) = some (e, r ++ [')']) := by
  obtain ⟨⟨a, u⟩, hx, same⟩ := Option.map_eq_some_iff.1 h
  cases same
  rw [step a u hx]
  rfl

theorem escape?_concat {inClass : Bool} {s r : Text} {e : Escape} (h : escape? inClass s = some (e, r)) :
    escape? inClass (s ++ [')']) = some (e, r ++ [')']) := by
  cases s with
  | nil => cases h
  | cons c s =>
    unfold escape? at h ⊢
    dsimp only [List.cons_append] at h ⊢
    split
    · rename_i digit
      rw [if_pos digit, Option.ite_none_left_eq_some] at h
      obtain ⟨outside, e⟩ := h
      cases e
      rw [if_neg outside]
      rfl
    · rename_i digit
      rw [if_neg digit] at h
      -- what follows the character that is escaped is left, or read on for a property or a number
      split at h
      all_goals first
        | exact map_concat (fun _ _ => propertyEscape?_concat) h
        | exact map_concat (fun _ _ => hexEscape?_concat) h
        | (cases h; rfl)
        | (obtain ⟨outside, e⟩ := Option.ite_none_left_eq_some.1 h; cases e; exact if_neg outside)

theorem skipBlanks_concat {x : Bool} {c : Char} {s r : Text}
    (h : skipBlanks x s.length s = some (c :: r)) :
    skipBlanks x (s ++ [')']).length (s ++ [')']) = some (c :: (r ++ [')'])) := by
  have skips := skips_skipBlanks x (Nat.le_refl _) (Nat.le_refl _) (.inl rfl : Trails s _)
  rw [h] at skips
  generalize skipBlanks x (s ++ [')']).length (s ++ [')']) = q? at skips
  cases skips with
  | both trails =>
    rcases trails with rfl | ⟨e, -⟩
    · rfl
    · cases e

namespace ClassToken

theorem cons_eq_some {t : ClassToken} {more : Option (List ClassToken × Text)}
    {ts : List ClassToken} {r : Text} : scan.cons t more = some (ts, r) ↔
      ∃ us, more = some (us, r) ∧ ts = t :: us := by
  unfold scan.cons
  rw [Option.map_eq_some_iff]
  constructor
  · rintro ⟨⟨us, q⟩, h, e⟩
    cases e
    exact ⟨us, h, rfl⟩
  · rintro ⟨us, h, rfl⟩
    exact ⟨(us, r), h, rfl⟩

theorem scan_concat {x : Bool} : ∀ {n m d : Nat} {s r : Text} {ts : List ClassToken}, n ≤ m →
    scan x n d s = some (ts, r) → scan x m d (s ++ [')']) = some (ts, r ++ [')'])
  | n + 1, m + 1, d, s, r, ts, le, h => by
    have le : n ≤ m := Nat.le_of_succ_le_succ le
    rw [scan] at h ⊢
    obtain ⟨u, hu, h⟩ := Option.bind_eq_some_iff.1 h
    cases u with
    | nil => cases h
    | cons c u =>
      refine Option.bind_eq_some_iff.2 ⟨_, skipBlanks_concat hu, ?_⟩
      have more {d : Nat} {t : ClassToken} {v : Text} (h : scan.cons t (scan x n d v) = some (ts, r)) :
          scan.cons t (scan x m d (v ++ [')'])) = some (ts, r ++ [')']) := by
        obtain ⟨us, hs, rfl⟩ := cons_eq_some.1 h
        exact cons_eq_some.2 ⟨us, scan_concat le hs, rfl⟩
      split at h
      · rename_i e
        cases e
      · rename_i w e
        cases e
        obtain ⟨⟨escape, v⟩, he, h⟩ := Option.bind_eq_some_iff.1 h
        refine Option.bind_eq_some_iff.2 ⟨_, escape?_concat he, ?_⟩
        cases escape with
        | char | set => exact more h
        | anchor | number | name | keepOut => cases h
      · rename_i w e
        cases e
        exact more h
      · rename_i w e
        cases e
        split at h
        · rename_i last
          cases h
          exact if_pos last
        · rename_i nested
          exact (if_neg nested).trans (more h)
      · rename_i escape opening closing e
        cases e
        split
        · rename_i e
          cases e
        · rename_i e
          exact absurd (List.cons.inj e).1 escape
        · rename_i e
          exact absurd (List.cons.inj e).1 opening
        · rename_i e
          exact absurd (List.cons.inj e).1 closing
        · rename_i e
          cases e
          exact more h
  | _ + 1, 0, _, _, _, _, le, _ => nomatch le

/-- A character that may come first, and what is behind it. -/
def leading (c : Char) : Text → List ClassToken × Text
  | [] => ([], [])
  | d :: s => if d = c then ([plain c], s) else ([], d :: s)

theorem leading_self (c : Char) (s : Text) : leading c (c :: s) = ([plain c], s) := if_pos rfl

theorem leading_of_ne {c : Char} : ∀ {s : Text}, (∀ r, s = c :: r → False) → leading c s = ([], s)
  | [], _ => rfl
  | d :: s, h => if_neg fun (e : d = _) => h s (e ▸ rfl)

theorem leading_concat {c : Char} (hc : c ≠ ')') (s : Text) :
    leading c (s ++ [')']) = ((leading c s).1, (leading c s).2 ++ [')']) := by
  cases s with
  | nil => exact if_neg hc.symm
  | cons d s =>
    rw [List.cons_append, leading, leading]
    split <;> rfl

theorem ofText_eq (x : Bool) (s : Text) : ofText x s =
    (scan x ((leading ']' (leading '^' s).2).2.length + 1) 1 (leading ']' (leading '^' s).2).2).map
      fun p => ((leading '^' s).1 ++ (leading ']' (leading '^' s).2).1 ++ p.1, p.2) := by
  unfold ofText
  split
  rename_i opening
  split at opening <;> cases opening <;> split <;> rename_i first <;> split at first <;> cases first <;>
    simp [leading_self, leading_of_ne, *]

theorem ofText_concat {x : Bool} {s r : Text} {ts : List ClassToken} (h : ofText x s = some (ts, r)) :
    ofText x (s ++ [')']) = some (ts, r ++ [')']) := by
  rw [ofText_eq] at h ⊢
  rw [leading_concat (by decide), leading_concat (by decide)]
  obtain ⟨⟨us, q⟩, hs, e⟩ := Option.map_eq_some_iff.1 h
  cases e
  rw [scan_concat (by simp) hs]
  rfl

end ClassToken

theorem charClass?_concat {flags : Flags} {s r : Text} {set : CharSet}
    (h : charClass? flags s = some (set, r)) :
    charClass? flags (s ++ [')']) = some (set, r ++ [')']) := by
  obtain ⟨⟨ts, q⟩, ht, h⟩ := Option.bind_eq_some_iff.1 h
  refine Option.bind_eq_some_iff.2 ⟨_, ClassToken.ofText_concat ht, ?_⟩
  obtain ⟨_, hv, e⟩ := Option.bind_eq_some_iff.1 h
  cases e
  exact Option.bind_eq_some_iff.2 ⟨_, hv, rfl⟩

end Regex

end LocalePaths
