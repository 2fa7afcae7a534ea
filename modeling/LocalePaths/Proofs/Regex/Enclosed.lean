import LocalePaths.Proofs.Regex.Closing
import LocalePaths.Regex.Parse

/-!
# Expressions in parentheses

Reading an expression alone and reading it in front of a closing parenthesis goes the same way
(`Regex.Read.agrees_alternatives`), as long as both come to an end: what is left to read differs by the
parenthesis only, or nothing is left in either case because a line comment has taken the parenthesis in.
-/

namespace LocalePaths.Regex

/-- The second state is the first one with a closing parenthesis behind what is left to read. -/
structure Ahead (s t : Reading) : Prop where
  trails : Trails s.rest t.rest
  flags : s.flags = t.flags
  opened : s.opened = t.opened
  named : s.named = t.named
  byNumber : s.byNumber = t.byNumber
  references : s.references = t.references
  numberLimit : s.numberLimit ≤ t.numberLimit

theorem drop_takeWhile_concat (p : Char → Bool) (s : Text) :
    (s ++ [')']).drop (s.takeWhile p).length = s.drop (s.takeWhile p).length ++ [')'] :=
  List.drop_append_of_le_length (List.takeWhile_prefix p).length_le

theorem Trails.takeWhile {p : Char → Bool} (hp : p ')' = false) {s t : Text} (h : Trails s t) :
    s.takeWhile p = t.takeWhile p ∧
      Trails (s.drop (s.takeWhile p).length) (t.drop (s.takeWhile p).length) := by
  rcases h with rfl | ⟨rfl, rfl⟩
  · exact ⟨(takeWhile_concat hp s).symm, .inl (drop_takeWhile_concat p s)⟩
  · exact ⟨rfl, .inr ⟨rfl, rfl⟩⟩

theorem Trails.tail : ∀ {s t : Text}, Trails s t → Trails (s.drop 1) (t.drop 1)
  | [], _, .inl rfl => .inr ⟨rfl, rfl⟩
  | _ :: _, _, .inl rfl => .inl rfl
  | _, _, .inr ⟨rfl, rfl⟩ => .inr ⟨rfl, rfl⟩

theorem Ahead.goTo {s t : Reading} {r q : Text} (h : Ahead s t) (trails : Trails r q) :
    Ahead { s with rest := r } { t with rest := q } :=
  ⟨trails, h.flags, h.opened, h.named, h.byNumber, h.references, h.numberLimit⟩

namespace Read
variable {α β : Type} {x y : Read α} {f g : α → Read β} {s t : Reading}

/-- If both steps come to an end, their results are the same, and one state is still that of the other
with a closing parenthesis. -/
def AgreesAt (s t : Reading) (x y : Read α) : Prop :=
  ∀ a s' b t', x s = some (a, s') → y t = some (b, t') → a = b ∧ Ahead s' t'

def Agrees (x y : Read α) : Prop := ∀ s t, Ahead s t → AgreesAt s t x y

theorem run_bind : (x >>= f) s = (x s).bind fun p => f p.1 p.2 := rfl

theorem AgreesAt.bind (h : AgreesAt s t x y)
    (hf : ∀ a s' t', Ahead s' t' → AgreesAt s' t' (f a) (g a)) : AgreesAt s t (x >>= f) (y >>= g) := by
  intro b s'' b' t'' hs ht
  obtain ⟨⟨a, s'⟩, hx, hs⟩ := Option.bind_eq_some_iff.1 hs
  obtain ⟨⟨a', t'⟩, hy, ht⟩ := Option.bind_eq_some_iff.1 ht
  obtain ⟨rfl, ahead⟩ := h _ _ _ _ hx hy
  exact hf a s' t' ahead _ _ _ _ hs ht

theorem Agrees.bind (h : Agrees x y) (hf : ∀ a, Agrees (f a) (g a)) : Agrees (x >>= f) (y >>= g) :=
  fun s t ahead => (h s t ahead).bind fun a => hf a

theorem Agrees.pure (a : α) : Agrees (pure a : Read α) (Pure.pure a) := by
  rintro s t ahead _ _ _ _ ⟨⟩ ⟨⟩
  exact ⟨rfl, ahead⟩

theorem Agrees.failure : Agrees (failure : Read α) y := fun _ _ _ _ _ _ _ h => nomatch h

theorem Agrees.get_bind {f g : Reading → Read β} (h : ∀ s t, Ahead s t → Agrees (f s) (g t)) :
    Agrees (get >>= f) (get >>= g) := fun s t ahead => h s t ahead s t ahead

theorem Agrees.rest_bind {f g : Text → Read β} (h : ∀ r q, Trails r q → Agrees (f r) (g q)) :
    Agrees (rest >>= f) (rest >>= g) := fun s t ahead => h _ _ ahead.trails s t ahead

theorem Agrees.modify {f g : Reading → Reading} (h : ∀ s t, Ahead s t → Ahead (f s) (g t)) :
    Agrees (modify f) (modify g) := by
  rintro s t ahead _ _ _ _ ⟨⟩ ⟨⟩
  exact ⟨rfl, h s t ahead⟩

theorem agrees_goTo {r q : Text} (trails : Trails r q) : Agrees (goTo r) (goTo q) :=
  .modify fun _ _ ahead => ahead.goTo trails

/-- A step that is no reading, such as the failure of a check. -/
theorem agrees_lift (x : Option α) : Agrees (liftM x) (liftM x) := by
  intro s t ahead a s' b t' hs ht
  obtain ⟨_, hx, e⟩ := Option.bind_eq_some_iff.1 hs
  cases e
  obtain ⟨_, hy, e⟩ := Option.bind_eq_some_iff.1 ht
  cases e
  exact ⟨Option.some.inj (hx.symm.trans hy), ahead⟩

/-- A part that is read in front of the parenthesis as it is read alone. -/
theorem agrees_part {σ : Type} {x y : Option (σ × Text)} {f g : σ × Text → Read α}
    (part : ∀ v r, x = some (v, r) → y = some (v, r ++ [')']))
    (hf : ∀ v r, Agrees (f (v, r)) (g (v, r ++ [')']))) :
    Agrees (liftM x >>= f) (liftM y >>= g) := by
  cases hx : x with
  | none => exact .failure
  | some p => exact part p.1 p.2 hx ▸ hf p.1 p.2

theorem run_blanks (s : Reading) : blanks s =
    (skipBlanks s.flags.extended s.rest.length s.rest).map fun r => ((), { s with rest := r }) := by
  show Option.bind _ _ = _
  cases skipBlanks s.flags.extended s.rest.length s.rest <;> rfl

theorem agrees_blanks : Agrees blanks blanks := by
  intro s t ahead a s' b t' hs ht
  rw [run_blanks] at hs ht
  obtain ⟨r, hr, e⟩ := Option.map_eq_some_iff.1 hs
  cases e
  obtain ⟨q, hq, e⟩ := Option.map_eq_some_iff.1 ht
  cases e
  have skips := skips_skipBlanks s.flags.extended (Nat.le_refl _) (Nat.le_refl _) ahead.trails
  rw [hr, ahead.flags, hq] at skips
  cases skips with
  | both trails => exact ⟨rfl, ahead.goTo trails⟩

theorem run_accept (w : Text) (s : Reading) : accept w s =
    some ((Text.after? w s.rest).isSome, { s with rest := (Text.after? w s.rest).getD s.rest }) := by
  have here : rest s = some (s.rest, s) := rfl
  unfold accept
  rw [run_bind, here, Option.bind_some]
  cases Text.after? w s.rest <;> rfl

theorem run_expect (w : Text) (s : Reading) : expect w s =
    (Text.after? w s.rest).map fun r => ((), { s with rest := r }) := by
  unfold expect
  rw [run_bind, run_accept]
  cases Text.after? w s.rest <;> rfl

theorem agrees_accept {w : Text} (hw : w ≠ []) (hc : ')' ∉ w) : Agrees (accept w) (accept w) := by
  intro s t ahead a s' b t' hs ht
  rw [run_accept] at hs ht
  cases hs
  cases ht
  rcases ahead.trails with strict | ⟨hs, ht⟩
  · rw [strict, Text.after?_concat s.rest hc]
    refine ⟨by rw [Option.isSome_map], ahead.goTo (.inl ?_)⟩
    cases Text.after? w s.rest <;> rfl
  · have none : Text.after? w [] = none := by
      cases w with
      | nil => exact absurd rfl hw
      | cons => rfl
    rw [hs, ht, none]
    exact ⟨rfl, ahead.goTo (.inr ⟨rfl, rfl⟩)⟩

theorem agrees_ifAccept {w : Text} {x x' y y' : Read α} (hw : w ≠ []) (hc : ')' ∉ w)
    (hx : Agrees x x') (hy : Agrees y y') :
    Agrees (accept w >>= fun b => if b = true then x else y)
      (accept w >>= fun b => if b = true then x' else y') := by
  refine (agrees_accept hw hc).bind fun b => ?_
  cases b with
  | true => exact hx
  | false => exact hy

theorem agrees_expect {w : Text} (hw : w ≠ []) : Agrees (expect w) (expect w) := by
  intro s t ahead a s' b t' hs ht
  rw [run_expect] at hs ht
  obtain ⟨r, hr, e⟩ := Option.map_eq_some_iff.1 hs
  cases e
  obtain ⟨q, hq, e⟩ := Option.map_eq_some_iff.1 ht
  cases e
  have read := Text.after?_eq_some.1 hr
  rcases ahead.trails with strict | ⟨empty, -⟩
  · rw [strict, read, List.append_assoc, Text.after?_append] at hq
    cases hq
    exact ⟨rfl, ahead.goTo (.inl rfl)⟩
  · exact absurd (List.append_eq_nil_iff.1 (read.symm.trans empty)).1 hw

theorem run_number? (s : Reading) : number? s =
    if s.rest.takeWhile Char.isDigit = [] then some (none, s)
    else some (some (Nat.ofDigitChars 10 (s.rest.takeWhile Char.isDigit) 0),
      { s with rest := s.rest.drop (s.rest.takeWhile Char.isDigit).length }) := by
  have step : number? s = (if s.rest.takeWhile Char.isDigit = [] then Pure.pure none
      else do
        Read.goTo ((← rest).drop (s.rest.takeWhile Char.isDigit).length)
        return some (Nat.ofDigitChars 10 (s.rest.takeWhile Char.isDigit) 0) : Read (Option Nat)) s := rfl
  rw [step]
  split <;> rfl

theorem agrees_number? : Agrees number? number? := by
  intro s t ahead a s' b t' hs ht
  obtain ⟨digits, trails⟩ := ahead.trails.takeWhile (p := Char.isDigit) rfl
  rw [run_number?] at hs ht
  rw [← digits] at ht
  split at hs <;> rename_i none
  · rw [if_pos none] at ht
    cases hs
    cases ht
    exact ⟨rfl, ahead⟩
  · rw [if_neg none] at ht
    cases hs
    cases ht
    exact ⟨rfl, ahead.goTo trails⟩

theorem agrees_name {closing : Text} (hc : closing ≠ []) : Agrees (name closing) (name closing) := by
  intro s t ahead
  obtain ⟨word, trails⟩ := ahead.trails.takeWhile (p := isNameChar) (by decide +kernel)
  have step (s : Reading) : name closing s = (if s.rest.takeWhile isNameChar = [] then Option.none
      else (do
        Read.goTo (s.rest.drop (s.rest.takeWhile isNameChar).length)
        expect closing
        return s.rest.takeWhile isNameChar : Read Text) s) := by
    split <;> rename_i h
    · exact (congrFun (if_pos h) s).trans rfl
    · exact (congrFun (if_neg h) s).trans rfl
  intro a s' b t' hs ht
  rw [step] at hs ht
  rw [← word] at ht
  split at hs <;> rename_i none
  · cases hs
  · rw [if_neg none] at ht
    refine Agrees.bind (agrees_goTo trails) (fun _ => ?_) s t ahead _ _ _ _ hs ht
    exact (agrees_expect hc).bind fun _ => .pure _

theorem agrees_openGroup (name : Option Text) : Agrees (openGroup name) (openGroup name) := by
  intro s t ahead a s' b t' hs ht
  cases hs
  cases ht
  refine ⟨by rw [ahead.opened], ahead.trails, ahead.flags, ?_, ?_, ahead.byNumber, ahead.references,
    ahead.numberLimit⟩
  · show s.opened + 1 = t.opened + 1
    rw [ahead.opened]
  · show _ ++ s.named = _ ++ t.named
    rw [ahead.opened, ahead.named]

theorem agrees_numbered (n : Nat) : Agrees (numbered n) (numbered n) := by
  refine .get_bind fun s t ahead => ?_
  rw [ahead.opened]
  split
  · exact .failure
  · exact .pure _

theorem agrees_reference (label : Text) : Agrees (reference label) (reference label) := by
  refine .bind (.modify fun s t ahead => ?_) fun _ => .pure _
  exact ⟨ahead.trails, ahead.flags, ahead.opened, ahead.named, ahead.byNumber,
    congrArg (label :: ·) ahead.references, ahead.numberLimit⟩

theorem Agrees.failure_right : Agrees x (Alternative.failure : Read α) :=
  fun _ _ _ _ _ _ _ _ h => nomatch h

/-- Where a check lets both sides on, they go on alike. -/
theorem Agrees.check {p q : Prop} [Decidable p] [Decidable q] {f g : PUnit → Read α}
    (h : Agrees (f ⟨⟩) (g ⟨⟩)) :
    Agrees (if p then Alternative.failure >>= f else f ⟨⟩)
      (if q then Alternative.failure >>= g else g ⟨⟩) := by
  split
  · exact fun _ _ _ _ _ _ _ hs => nomatch hs
  · split
    · exact .failure_right
    · exact h

theorem agrees_numberedReference : Agrees numberedReference numberedReference := by
  refine agrees_number?.bind fun n? => ?_
  cases n? with
  | none => exact .failure
  | some n =>
    refine .get_bind fun s t ahead => ?_
    by_cases small : n < s.numberLimit
    · rw [if_pos small, if_pos (small.trans_le ahead.numberLimit)]
      refine .bind (.modify fun s t ahead => ?_) fun _ => (agrees_numbered n).bind agrees_reference
      exact ⟨ahead.trails, ahead.flags, ahead.opened, ahead.named, rfl, ahead.references,
        ahead.numberLimit⟩
    · rw [if_neg small]
      exact .failure

theorem agrees_namedReference {closing : Text} (hc : closing ≠ []) :
    Agrees (namedReference closing) (namedReference closing) := by
  refine agrees_ifAccept (by simp) (by decide) ?_ ?_
  · refine agrees_number?.bind fun n? => ?_
    cases n? with
    | none => exact .failure
    | some n =>
      refine (agrees_expect hc).bind fun _ => .get_bind fun s t ahead => ?_
      rw [ahead.opened]
      exact .check ((agrees_numbered _).bind agrees_reference)
  · refine (agrees_name hc).bind fun word => .get_bind fun s t ahead => ?_
    rw [ahead.named]
    split
    · exact agrees_reference _
    · split
      · exact (agrees_numbered _).bind agrees_reference
      · exact .failure

theorem agrees_condition? : Agrees condition? condition? := by
  have found {x : Read Regex} (h : Agrees x x) : Agrees (do return some (← x)) (do return some (← x)) :=
    h.bind fun _ => .pure _
  refine agrees_ifAccept (by simp) (by decide) (found (agrees_namedReference (by simp))) ?_
  refine agrees_ifAccept (by simp) (by decide) (found (agrees_namedReference (by simp))) ?_
  refine .rest_bind fun r q trails => ?_
  have same : q.head?.any Char.isDigit = r.head?.any Char.isDigit := by
    rcases trails with rfl | ⟨rfl, rfl⟩
    · cases r <;> rfl
    · rfl
  rw [same]
  split
  · exact found agrees_numberedReference
  · exact .pure _

/-! ### Bounds

Where bounds cannot be read, nothing is read. So they must be read in front of the parenthesis if and
only if they are read alone. -/

/-- The steps come to the same in front of the parenthesis, or nothing is left where one comes to. -/
inductive Alike : Option (α × Reading) → Option (α × Reading) → Prop
  | both {a : α} {s t : Reading} : Ahead s t → t.rest = s.rest ++ [')'] → Alike (some (a, s)) (some (a, t))
  | spent {x y : Option (α × Reading)} : (∀ p ∈ x, p.2.rest = []) → (∀ p ∈ y, p.2.rest = []) → Alike x y

/-- A step that reads nothing where nothing is left. -/
structure Level (x : Read α) : Prop where
  spent : ∀ s, s.rest = [] → ∀ p ∈ x s, p.2.rest = []
  alike : ∀ s t, Ahead s t → t.rest = s.rest ++ [')'] → Alike (x s) (x t)

/-- A step that fails where nothing is left. -/
structure Ends (x : Read α) : Prop where
  spent : ∀ s, s.rest = [] → x s = none
  alike : ∀ s t, Ahead s t → t.rest = s.rest ++ [')'] → (x s = none ↔ x t = none)

theorem Alike.bind_eq_none_iff {x y : Option (α × Reading)} (h : Alike x y) (hf : ∀ a, Ends (f a)) :
    (x.bind fun p => f p.1 p.2) = none ↔ (y.bind fun p => f p.1 p.2) = none := by
  cases h with
  | both ahead strict => exact (hf _).alike _ _ ahead strict
  | spent left right =>
    exact iff_of_true
      (Option.bind_eq_none_iff.2 fun q hq => (hf q.1).spent q.2 (left q hq))
      (Option.bind_eq_none_iff.2 fun q hq => (hf q.1).spent q.2 (right q hq))

theorem Ends.bind (hx : Level x) (hf : ∀ a, Ends (f a)) : Ends (x >>= f) where
  spent s empty := Option.bind_eq_none_iff.2 fun q hq => (hf q.1).spent q.2 (hx.spent s empty q hq)
  alike s t ahead strict := (hx.alike s t ahead strict).bind_eq_none_iff hf

theorem Level.pure (a : α) : Level (Pure.pure a : Read α) where
  spent s empty p hp := by cases hp; exact empty
  alike s t ahead strict := .both ahead strict

theorem Ends.failure : Ends (Alternative.failure : Read α) := ⟨fun _ _ => rfl, fun _ _ _ _ => .rfl⟩

theorem level_accept {w : Text} (hw : w ≠ []) (hc : ')' ∉ w) : Level (accept w) where
  spent s empty p hp := by
    rw [run_accept, empty] at hp
    cases w with
    | nil => exact absurd rfl hw
    | cons => cases hp; rfl
  alike s t ahead strict := by
    rw [run_accept, run_accept, strict, Text.after?_concat s.rest hc, Option.isSome_map]
    have rest : ((Text.after? w s.rest).map (· ++ [')'])).getD (s.rest ++ [')']) =
        (Text.after? w s.rest).getD s.rest ++ [')'] := by
      cases Text.after? w s.rest <;> rfl
    exact .both (ahead.goTo (.inl rest)) rest

theorem level_blanks : Level blanks where
  spent s empty p hp := by
    rw [run_blanks, empty, skipBlanks_nil] at hp
    cases hp
    rfl
  alike s t ahead strict := by
    have skips := skips_skipBlanks s.flags.extended (Nat.le_refl _) (Nat.le_refl _) ahead.trails
    rw [run_blanks, run_blanks]
    rw [show t.flags.extended = s.flags.extended by rw [ahead.flags]]
    generalize skipBlanks s.flags.extended s.rest.length s.rest = r?,
      skipBlanks s.flags.extended t.rest.length t.rest = q? at skips
    cases skips with
    | both trails =>
      rcases trails with strict | ⟨rfl, rfl⟩
      · exact .both (ahead.goTo (.inl strict)) strict
      · exact .spent (by rintro _ ⟨⟩; rfl) (by rintro _ ⟨⟩; rfl)
    | spent h =>
      refine .spent nofun fun p hp => ?_
      obtain ⟨q, hq, e⟩ := Option.map_eq_some_iff.1 hp
      cases e
      exact h q hq

theorem level_number? : Level number? where
  spent s empty p hp := by
    rw [run_number?, empty] at hp
    cases hp
    exact empty
  alike s t ahead strict := by
    rw [run_number?, run_number?, strict, takeWhile_concat rfl, drop_takeWhile_concat]
    split
    · exact .both ahead strict
    · exact .both (ahead.goTo (.inl rfl)) rfl

theorem ends_closing (a : α) : Ends (expect ['\x7d'] >>= fun _ => pure a) := by
  have step (s : Reading) : (expect ['\x7d'] >>= fun _ => (pure a : Read α)) s = none ↔
      Text.after? ['\x7d'] s.rest = none := by
    rw [run_bind, run_expect]
    cases Text.after? ['\x7d'] s.rest with
    | none => exact iff_of_true rfl rfl
    | some r =>
      refine iff_of_false ?_ ?_
      all_goals
        intro h
        cases h
  refine ⟨fun s empty => (step s).2 (by rw [empty]; rfl), fun s t _ strict => ?_⟩
  rw [step, step, strict, Text.after?_concat s.rest (by decide), Option.map_eq_none_iff]

theorem level_opening : Level (expect ['\x7b']) where
  spent s empty p hp := by
    rw [run_expect, empty] at hp
    cases hp
  alike s t ahead strict := by
    rw [run_expect, run_expect, strict, Text.after?_concat s.rest (by decide)]
    cases Text.after? ['\x7b'] s.rest with
    | none => exact .spent nofun nofun
    | some r => exact .both (ahead.goTo (.inl rfl)) rfl

/-- The lower bound, which is zero if it is left out. -/
def lower (f : Nat → Read β) : Read β := do
  match ← rest with
  | ',' :: _ => f 0
  | _ => match ← number? with
    | some n => f n
    | none => failure

theorem lower_eq (f : Nat → Read β) : lower f = (do
    if (← rest).head? = some ',' then f 0
    else match ← number? with
      | some n => f n
      | none => failure) := by
  unfold lower
  congr 1
  funext r
  split
  · exact (if_pos rfl).symm
  · rename_i other
    refine (if_neg fun h => ?_).symm
    obtain ⟨r, rfl⟩ := List.head?_eq_some_iff.1 h
    exact other r rfl

theorem ends_lower {f : Nat → Read β} (hf : ∀ n, Ends (f n)) : Ends (lower f) := by
  have written : Ends (number? >>= fun n? : Option Nat => match n? with
      | some n => f n
      | none => failure) := by
    refine .bind level_number? fun n? => ?_
    cases n? with
    | none => exact .failure
    | some n => exact hf n
  rw [lower_eq]
  have step (s : Reading) {g : Text → Read β} : (rest >>= g) s = g s.rest s := rfl
  refine ⟨fun s empty => ?_, fun s t ahead strict => ?_⟩
  · rw [step, empty]
    exact written.spent s empty
  · have same : t.rest.head? = some ',' ↔ s.rest.head? = some ',' := by
      rw [strict]
      cases s.rest <;> simp
    rw [step, step]
    by_cases omitted : s.rest.head? = some ','
    · rw [if_pos omitted, if_pos (same.2 omitted)]
      exact (hf 0).alike s t ahead strict
    · rw [if_neg omitted, if_neg (mt same.1 omitted)]
      exact written.alike s t ahead strict

/-- The upper bound, which is the lower one if there is no comma, and the end. -/
def upper (lo : Nat) : Read (Nat × Option Nat) := do
  blanks
  let hi ← if ← accept [','] then do
      blanks
      number?
    else pure (some lo)
  blanks
  expect ['\x7d']
  return (lo, hi)

theorem ends_upper (lo : Nat) : Ends (upper lo) := by
  refine .bind level_blanks fun _ => .bind (level_accept (by simp) (by decide)) fun more => ?_
  cases more with
  | true =>
    exact .bind level_blanks fun _ =>
      .bind level_number? fun _ => .bind level_blanks fun _ => ends_closing _
  | false => exact .bind (.pure _) fun _ => .bind level_blanks fun _ => ends_closing _

theorem ends_bounds : Ends bounds?.bounds :=
  .bind level_opening fun _ => .bind level_blanks fun _ => ends_lower ends_upper

theorem agrees_lower {f : Nat → Read β} (hf : ∀ n, Agrees (f n) (f n)) : Agrees (lower f) (lower f) := by
  rw [lower_eq]
  refine .rest_bind fun r q trails => ?_
  have same : q.head? = some ',' ↔ r.head? = some ',' := by
    rcases trails with rfl | ⟨rfl, rfl⟩
    · cases r <;> simp
    · rfl
  by_cases omitted : r.head? = some ','
  · rw [if_pos omitted, if_pos (same.2 omitted)]
    exact hf 0
  · rw [if_neg omitted, if_neg (mt same.1 omitted)]
    refine agrees_number?.bind fun n? => ?_
    cases n? with
    | none => exact .failure
    | some n => exact hf n

theorem agrees_upper (lo : Nat) : Agrees (upper lo) (upper lo) := by
  have last (hi : Option Nat) : Agrees (do
      blanks
      expect ['\x7d']
      return (lo, hi)) (do
      blanks
      expect ['\x7d']
      return (lo, hi)) :=
    agrees_blanks.bind fun _ => (agrees_expect (by simp)).bind fun _ => .pure _
  refine agrees_blanks.bind fun _ => agrees_ifAccept (by simp) (by decide) ?_ ((Agrees.pure _).bind last)
  exact agrees_blanks.bind fun _ => agrees_number?.bind last

theorem agrees_bounds : Agrees bounds?.bounds bounds?.bounds :=
  (agrees_expect (by simp)).bind fun _ => agrees_blanks.bind fun _ => agrees_lower agrees_upper

theorem run_bounds? (s : Reading) : bounds? s =
    some (((bounds?.bounds s).map Prod.fst), ((bounds?.bounds s).map Prod.snd).getD s) := by
  unfold bounds?
  cases bounds?.bounds s <;> rfl

theorem agrees_bounds? : Agrees bounds? bounds? := by
  intro s t ahead a s' b t' hs ht
  have none : bounds?.bounds s = none ↔ bounds?.bounds t = none := by
    rcases ahead.trails with strict | ⟨hs, ht⟩
    · exact ends_bounds.alike s t ahead strict
    · exact iff_of_true (ends_bounds.spent s hs) (ends_bounds.spent t ht)
  rw [run_bounds?] at hs ht
  cases hx : bounds?.bounds s with
  | none =>
    rw [hx] at hs
    rw [none.1 hx] at ht
    cases hs
    cases ht
    exact ⟨rfl, ahead⟩
  | some p =>
    obtain ⟨q, hy⟩ := Option.ne_none_iff_exists'.1 (mt none.2 (hx ▸ Option.some_ne_none p))
    rw [hx] at hs
    rw [hy] at ht
    cases hs
    cases ht
    obtain ⟨same, ahead⟩ := agrees_bounds s t ahead _ _ _ _ hx hy
    exact ⟨congrArg some same, ahead⟩

theorem agrees_repetition? : Agrees repetition? repetition? := by
  refine .rest_bind fun r q trails => ?_
  rcases trails with rfl | ⟨rfl, rfl⟩
  · split
    all_goals try exact (agrees_goTo (.inl rfl)).bind fun _ => .pure _
    · exact agrees_bounds?
    · rename_i optional any some bounds
      cases r with
      | nil => exact .pure _
      | cons c r =>
        split
        all_goals rename_i e
        · exact (optional r (congrArg (· :: r) (List.cons.inj e).1)).elim
        · exact (any r (congrArg (· :: r) (List.cons.inj e).1)).elim
        · exact (some r (congrArg (· :: r) (List.cons.inj e).1)).elim
        · exact (bounds r (congrArg (· :: r) (List.cons.inj e).1)).elim
        · exact .pure _
  · exact .pure _

theorem agrees_flags : ∀ (n m : Nat) (negated any : Bool),
    Agrees (flags n negated any) (flags m negated any)
  | 0, _, _, _ => .failure
  | _ + 1, 0, _, _ => .failure_right
  | n + 1, m + 1, negated, any => by
    refine agrees_blanks.bind fun _ => .rest_bind fun r q trails => ?_
    rcases trails with rfl | ⟨rfl, rfl⟩
    · have drop (f : Flags → Flags) : Agrees
          (do
            modify fun st => { st with rest := st.rest.drop 1, flags := f st.flags }
            flags n negated true)
          (do
            modify fun st => { st with rest := st.rest.drop 1, flags := f st.flags }
            flags m negated true) := by
        refine .bind (.modify fun s t ahead => ?_) fun _ => agrees_flags n m negated true
        exact ⟨ahead.trails.tail, congrArg f ahead.flags, ahead.opened, ahead.named, ahead.byNumber,
          ahead.references, ahead.numberLimit⟩
      split
      · exact drop fun f => { f with ignoreCase := !negated }
      · exact drop fun f => { f with multiLine := !negated }
      · exact drop fun f => { f with dotAll := !negated }
      · exact drop fun f => { f with swapGreed := !negated }
      · exact drop fun f => { f with extended := !negated }
      · cases negated with
        | true => exact .failure
        | false => exact drop id
      · exact .check ((agrees_goTo (.inl rfl)).bind fun _ => agrees_flags n m true any)
      · cases any with
        | true => exact .pure _
        | false => exact .failure
      · cases negated && !any with
        | true => exact .failure
        | false => exact .pure _
      · exact .failure
    · exact .failure

/-! ### Alternatives -/

theorem blanks_closing (hs : s.rest = [')']) : blanks s = some ((), s) := by
  have still : skipBlanks s.flags.extended s.rest.length s.rest = some s.rest := by
    rw [hs]
    cases s.flags.extended <;> rfl
  rw [run_blanks, still]
  rfl

/-- In front of the parenthesis alone there is no piece. -/
theorem piece_closing {n d : Nat} {r : Regex} (hs : s.rest = [')']) (h : piece n d s = some (r, t)) :
    r = .empty ∧ t = s := by
  have still := blanks_closing hs
  obtain ⟨_, flags, opened, named, byNumber, references, limit⟩ := s
  subst hs
  cases n with
  | zero => rw [piece] at h; cases h
  | succ n =>
    rw [piece, run_bind] at h
    obtain ⟨p, hp, h⟩ := Option.bind_eq_some_iff.1 h
    cases n with
    | zero => rw [atom] at hp; cases hp
    | succ n =>
      rw [atom, run_bind, still] at hp
      cases hp
      rw [run_bind, still] at h
      cases h
      exact ⟨rfl, rfl⟩

/-- Two parts of a row; one that matches nothing more is left out. -/
def joined : Regex → Regex → Regex
  | .empty, others => others
  | first, .empty => first
  | first, others => .seq first others

theorem pure_joined (first others : Regex) : (match first, others with
    | .empty, others => return others
    | first, .empty => return first
    | first, others => return .seq first others : Read Regex) = pure (joined first others) := by
  unfold joined
  split <;> rfl

theorem row_succ (n d : Nat) (s : Reading) : row (n + 1) d s =
    if s.rest = [] then some (.empty, s)
    else (piece n d s).bind fun p =>
      if p.2.rest.length = s.rest.length then some (.empty, p.2)
      else (row n d p.2).map fun q => (joined p.1 q.1, q.2) := by
  rw [row]
  have step {β : Type} {f : Text → Read β} (s : Reading) : (rest >>= f) s = f s.rest s := rfl
  rw [step]
  by_cases last : s.rest = []
  · rw [if_pos last, if_pos last]
    rfl
  · rw [if_neg last, if_neg last, run_bind]
    congr 1
    funext p
    rw [step]
    by_cases still : p.2.rest.length = s.rest.length
    · rw [if_pos still, if_pos still]
      rfl
    · rw [if_neg still, if_neg still, run_bind]
      cases row n d p.2 with
      | none => rfl
      | some q => exact congrFun (pure_joined p.1 q.1) q.2

mutual

theorem agrees_alternatives : ∀ n m d e, Agrees (alternatives n d) (alternatives m e)
  | 0, _, _, _ => by rw [alternatives]; exact .failure
  | _ + 1, 0, _, _ => by rw [alternatives.eq_1]; exact .failure_right
  | n + 1, m + 1, d, e => by
    rw [alternatives, alternatives]
    refine (agrees_row n m d e).bind fun first => agrees_blanks.bind fun _ => ?_
    have others := (agrees_otherAlternatives n m d e).bind fun r => .pure (first.alt r)
    refine agrees_ifAccept (by simp) (by decide) others (.get_bind fun s t ahead => ?_)
    rw [ahead.byNumber, ahead.named]
    exact .check (.pure _)

theorem agrees_otherAlternatives : ∀ n m d e, Agrees (otherAlternatives n d) (otherAlternatives m e)
  | 0, _, _, _ => by rw [otherAlternatives]; exact .failure
  | _ + 1, 0, _, _ => by rw [otherAlternatives.eq_1]; exact .failure_right
  | n + 1, m + 1, d, e => by
    rw [otherAlternatives, otherAlternatives]
    refine (agrees_row n m d e).bind fun first => agrees_blanks.bind fun _ => ?_
    have others := (agrees_otherAlternatives n m d e).bind fun r => .pure (first.alt r)
    exact agrees_ifAccept (by simp) (by decide) others (.pure _)

theorem agrees_row : ∀ n m d e, Agrees (row n d) (row m e)
  | 0, _, _, _ => by rw [row]; exact .failure
  | _ + 1, 0, _, _ => by rw [row.eq_1]; exact .failure_right
  | n + 1, m + 1, d, e => by
    intro s t ahead r s' q t' hs ht
    rw [row_succ] at hs ht
    rcases ahead.trails with strict | ⟨empty, empty'⟩
    · have more : t.rest ≠ [] := by simp [strict]
      rw [if_neg more] at ht
      obtain ⟨p, hp, ht⟩ := Option.bind_eq_some_iff.1 ht
      by_cases last : s.rest = []
      · -- in front of the parenthesis alone the piece is empty
        obtain ⟨-, rfl⟩ := piece_closing (by rw [strict, last]; rfl) hp
        rw [if_pos last] at hs
        rw [if_pos rfl] at ht
        cases hs
        cases ht
        exact ⟨rfl, ahead⟩
      · rw [if_neg last] at hs
        obtain ⟨o, ho, hs⟩ := Option.bind_eq_some_iff.1 hs
        obtain ⟨same, ahead'⟩ := agrees_piece n m d e s t ahead _ _ _ _ ho hp
        have still : p.2.rest.length = t.rest.length ↔ o.2.rest.length = s.rest.length := by
          rcases ahead'.trails with strict' | ⟨hs', ht'⟩
          · simp [strict, strict']
          · simp [strict, hs', ht', eq_comm, last]
        by_cases stuck : o.2.rest.length = s.rest.length
        · rw [if_pos stuck] at hs
          rw [if_pos (still.2 stuck)] at ht
          cases hs
          cases ht
          exact ⟨rfl, ahead'⟩
        · rw [if_neg stuck] at hs
          rw [if_neg (mt still.1 stuck)] at ht
          obtain ⟨u, hu, e⟩ := Option.map_eq_some_iff.1 hs
          cases e
          obtain ⟨v, hv, e⟩ := Option.map_eq_some_iff.1 ht
          cases e
          obtain ⟨others, ahead''⟩ := agrees_row n m d _ _ _ ahead' _ _ _ _ hu hv
          exact ⟨by rw [same, others], ahead''⟩
    · rw [if_pos empty] at hs
      rw [if_pos empty'] at ht
      cases hs
      cases ht
      exact ⟨rfl, ahead⟩

theorem agrees_piece : ∀ n m d e, Agrees (piece n d) (piece m e)
  | 0, _, _, _ => by rw [piece]; exact .failure
  | _ + 1, 0, _, _ => by rw [piece.eq_1]; exact .failure_right
  | n + 1, m + 1, d, e => by
    rw [piece, piece]
    refine (agrees_atom n m d e).bind fun r => agrees_blanks.bind fun _ => ?_
    refine agrees_repetition?.bind fun bounds => ?_
    cases bounds with
    | none => exact .pure _
    | some bounds =>
      refine .check (agrees_blanks.bind fun _ => ?_)
      refine (agrees_accept (by simp) (by decide)).bind fun lazily => ?_
      refine .get_bind fun s t ahead => ?_
      rw [ahead.flags]
      exact (agrees_lift _).bind fun r => agrees_ifAccept (by simp) (by decide) (.pure _) (.pure _)

theorem agrees_atom : ∀ n m d e, Agrees (atom n d) (atom m e)
  | 0, _, _, _ => by rw [atom]; exact .failure
  | _ + 1, 0, _, _ => by rw [atom.eq_1]; exact .failure_right
  | n + 1, m + 1, d, e => by
    rw [atom, atom]
    refine agrees_blanks.bind fun _ => .get_bind fun s t ahead => .rest_bind fun r q trails => ?_
    rw [ahead.flags]
    rcases trails with rfl | ⟨rfl, rfl⟩
    · split
      · exact .pure _
      · exact (agrees_goTo (.inl rfl)).bind fun _ => .pure _
      · exact (agrees_goTo (.inl rfl)).bind fun _ => .pure _
      · exact (agrees_goTo (.inl rfl)).bind fun _ => .pure _
      · exact (agrees_goTo (.inl rfl)).bind fun _ => agrees_group n m _ _
      · refine agrees_part (fun v r => escape?_concat) fun v r => ?_
        have go := agrees_goTo (.inl rfl : Trails r (r ++ [')']))
        cases v with
        | number => exact go.bind fun _ => agrees_numberedReference
        | name =>
          have bracketed := (agrees_expect (w := ['<']) (by simp)).bind fun _ =>
            agrees_namedReference (List.cons_ne_nil '>' [])
          exact go.bind fun _ =>
            agrees_ifAccept (by simp) (by decide) (agrees_namedReference (by simp)) bracketed
        | char | set | anchor | keepOut => exact go.bind fun _ => .pure _
      · exact agrees_part (fun v r => charClass?_concat) fun v r =>
          (agrees_goTo (.inl rfl)).bind fun _ => .pure _
      · rename_i c r dot start stop group escape set
        refine (fun x left => ?_ : ∀ x, x = _ → Agrees x _) _ rfl
        split
        all_goals rename_i e
        · cases e
        · exact (dot (List.cons.inj e).1).elim
        · exact (start (List.cons.inj e).1).elim
        · exact (stop (List.cons.inj e).1).elim
        · exact (group (List.cons.inj e).1).elim
        · exact (escape (List.cons.inj e).1).elim
        · exact (set (List.cons.inj e).1).elim
        · obtain ⟨rfl, rfl⟩ := List.cons.inj e
          subst left
          split
          · exact .pure _
          · exact (agrees_goTo (.inl rfl)).bind fun _ => .pure _
    · exact .pure _

theorem agrees_group : ∀ n m d e, Agrees (group n d) (group m e)
  | 0, _, _, _ => by rw [group]; exact .failure
  | _ + 1, 0, _, _ => by rw [group.eq_1]; exact .failure_right
  | n + 1, m + 1, d, e => by
    rw [group, group]
    have within (f : Regex → Regex) : Agrees (do return f (← inner n d)) (do return f (← inner m e)) :=
      (agrees_inner n m d e).bind fun _ => .pure _
    have behind (positive : Bool) :
        Agrees (inner n d >>= fun r => liftM (behind? positive r))
          (inner m e >>= fun r => liftM (behind? positive r)) :=
      (agrees_inner n m d e).bind fun _ => agrees_lift _
    have opening (name : Option Text) :
        Agrees (do
          let label ← openGroup name
          return Regex.group label false (← inner n d)) (do
          let label ← openGroup name
          return Regex.group label false (← inner m e)) :=
      (agrees_openGroup name).bind fun _ => within _
    refine .check (agrees_blanks.bind fun _ => ?_)
    refine agrees_ifAccept (by simp) (by decide) (within _) ?_
    refine agrees_ifAccept (by simp) (by decide) (within _) ?_
    refine agrees_ifAccept (by simp) (by decide) (behind _) ?_
    refine agrees_ifAccept (by simp) (by decide) (behind _) ?_
    refine agrees_ifAccept (by simp) (by decide) (within _) ?_
    refine agrees_ifAccept (by simp) (by decide) (agrees_namedReference (by simp)) ?_
    refine (agrees_accept (by simp) (by decide)).bind fun plain => ?_
    refine (agrees_accept (by simp) (by decide)).bind fun marked => ?_
    cases plain || marked with
    | true => exact (agrees_name (by simp)).bind fun word => opening _
    | false =>
      refine agrees_ifAccept (by simp) (by decide) (agrees_branches n m d e) ?_
      refine agrees_ifAccept (by simp) (by decide) ?_ (opening none)
      refine .get_bind fun s t ahead => (agrees_flags n m false false).bind fun within? => ?_
      cases within? with
      | true =>
        refine (agrees_expect (by simp)).bind fun _ => (agrees_inner n m d e).bind fun _ => ?_
        refine (Agrees.modify fun s' t' ahead' => ?_).bind fun _ => .pure _
        exact ⟨ahead'.trails, ahead.flags, ahead'.opened, ahead'.named, ahead'.byNumber,
          ahead'.references, ahead'.numberLimit⟩
      | false => exact (agrees_expect (by simp)).bind fun _ => .pure _

theorem agrees_branches : ∀ n m d e, Agrees (branches n d) (branches m e)
  | 0, _, _, _ => by rw [branches]; exact .failure
  | _ + 1, 0, _, _ => by rw [branches.eq_1]; exact .failure_right
  | n + 1, m + 1, d, e => by
    rw [branches, branches]
    have behind (condition : Regex) : Agrees (do
        expect [')']
        let before ← rest
        let branches ← alternatives n d
        if (← rest).length = before.length && !condition.isReference then failure
        expect [')']
        return conditional condition branches) (do
        expect [')']
        let before ← rest
        let branches ← alternatives m e
        if (← rest).length = before.length && !condition.isReference then failure
        expect [')']
        return conditional condition branches) := by
      refine (agrees_expect (by simp)).bind fun _ => .rest_bind fun r q _ => ?_
      refine (agrees_alternatives n m d e).bind fun s => .rest_bind fun r' q' _ => ?_
      exact .check ((agrees_expect (by simp)).bind fun _ => .pure _)
    refine agrees_condition?.bind fun reference? => ?_
    cases reference? with
    | some r => exact (Agrees.pure r).bind behind
    | none => exact (agrees_alternatives n m d e).bind behind

theorem agrees_inner : ∀ n m d e, Agrees (inner n d) (inner m e)
  | 0, _, _, _ => by rw [inner]; exact .failure
  | _ + 1, 0, _, _ => by rw [inner.eq_1]; exact .failure_right
  | n + 1, m + 1, d, e => by
    rw [inner, inner]
    exact (agrees_alternatives n m d e).bind fun _ => (agrees_expect (by simp)).bind fun _ => .pure _

end

end Read

end LocalePaths.Regex
