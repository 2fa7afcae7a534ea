import LocalePaths.Proofs.Regex.Enclosed

/-!
# Rows of atoms

A row is read part by part: from one state of reading it is some parts and then what a row is from a later
state (`Regex.Read.Leads`). Quoted text leads to what stands behind it (`Regex.Read.leads_quote`), provided
that everything that means something in an expression is quoted and nothing that gets a meaning by a
backslash (`Regex.Quotes`).
-/

namespace LocalePaths.Regex

/-- The special characters are those that have a meaning of their own, and none that has one behind a
backslash. -/
structure Quotes (special : Char → Bool) : Prop where
  operators : ∀ c ∈ "\\.+*?()|[\x7b^$".toList, special c = true
  others : ∀ c, special c = true → c.isAlphanum = false

/-- No comment and no repetition starts here. -/
structure Quiet (s : Text) : Prop where
  uncommented : Text.after? "(?#".toList s = none
  single : ∀ c ∈ s.head?, c ∉ "?*+\x7b".toList

/-- A text one character after another, and then `r`. -/
def spell (t : Text) (r : Regex) : Regex := t.foldr (fun c r => Read.joined (text [c]) r) r

variable {special : Char → Bool} {c : Char} {s t : Text} {n d : Nat}

theorem quiet_nil : Quiet [] := ⟨rfl, nofun⟩

theorem quiet_cons (h : c ∉ "(?*+\x7b".toList) : Quiet (c :: s) where
  uncommented := by
    refine Option.eq_none_iff_forall_ne_some.2 fun r hr => ?_
    obtain ⟨rfl, -⟩ := List.cons.inj (Text.after?_eq_some.1 hr : c :: s = '(' :: '?' :: '#' :: r)
    exact h (by decide)
  single := by
    rintro _ ⟨⟩ hc
    exact h (List.mem_cons_of_mem '(' hc)

theorem skipBlanks_quiet (h : Quiet s) (n : Nat) : skipBlanks false n s = some s := by
  cases n with
  | zero => rfl
  | succ n =>
    rw [skipBlanks_succ, h.uncommented]
    cases s <;> rfl

theorem mem_operators : ∀ c ∈ "(?*+\x7b".toList, c ∈ "\\.+*?()|[\x7b^$".toList := by
  have all : ("(?*+\x7b".toList.all fun c => "\\.+*?()|[\x7b^$".toList.contains c) = true := by decide
  exact fun c hc => List.contains_iff_mem.1 (List.all_eq_true.1 all c hc)

theorem quote_cons (special : Char → Bool) (c : Char) (t : Text) :
    quote special (c :: t) = (if special c then ['\\', c] else [c]) ++ quote special t :=
  List.flatMap_cons

theorem quiet_quote (h : Quotes special) (hs : Quiet s) (t : Text) : Quiet (quote special t ++ s) := by
  cases t with
  | nil => exact hs
  | cons c t =>
    rw [quote_cons]
    split
    · exact quiet_cons (by decide)
    · rename_i ordinary
      exact quiet_cons fun hc => ordinary (h.operators c (mem_operators c hc))

/-- What can be the name of a group. -/
def Read.IsName (x : Text) : Prop := x ≠ [] ∧ ∀ c ∈ x, isNameChar c = true

namespace Read
variable {u v w : Reading} {r q : Regex} {f g : Regex → Regex}

theorem blanks_quiet (plain : w.flags = .none) (h : Quiet s) :
    blanks { w with rest := s } = some ((), { w with rest := s }) := by
  have still : skipBlanks w.flags.extended s.length s = some s := by
    rw [plain]
    exact skipBlanks_quiet h s.length
  exact (run_blanks _).trans (congrArg (Option.map _) still)

theorem repetition?_quiet (h : Quiet s) :
    repetition? { w with rest := s } = some (none, { w with rest := s }) := by
  have here : rest { w with rest := s } = some (s, { w with rest := s }) := rfl
  have other : ∀ c ∈ s.head?, c ∉ "?*+\x7b".toList := h.single
  rw [repetition?, run_bind, here, Option.bind_some]
  dsimp only
  split
  · exact absurd (by decide) (other '?' rfl)
  · exact absurd (by decide) (other '*' rfl)
  · exact absurd (by decide) (other '+' rfl)
  · exact absurd (by decide) (other '\x7b' rfl)
  · rfl

/-- Without a repetition a piece is its atom. -/
theorem piece_of_atom_quiet (plain : u.flags = .none) (h : Quiet s)
    (atom : Read.atom n d w = some (r, { u with rest := s })) :
    piece (n + 1) d w = some (r, { u with rest := s }) := by
  rw [piece, run_bind, atom, Option.bind_some, run_bind, blanks_quiet plain h, Option.bind_some, run_bind,
    repetition?_quiet h]
  rfl

theorem after?_quiet (h : Quiet s) (hc : c ∈ "?*+\x7b".toList) : Text.after? [c] s = none := by
  refine Option.eq_none_iff_forall_ne_some.2 fun r hr => ?_
  have first : s.head? = some c := by rw [Text.after?_eq_some.1 hr]; rfl
  exact h.single c first hc

/-! ### Atoms -/

/-- A character that is no letter or digit stands for itself behind a backslash. -/
theorem escape?_other (h : c.isAlphanum = false) : escape? false (c :: t) = some (.char c, t) := by
  have other : ∀ e : Char, e.isAlphanum = true → c ≠ e := by
    rintro e he rfl
    exact absurd (h.symm.trans he) (by decide)
  obtain ⟨noLetter, noDigit⟩ := Bool.or_eq_false_iff.1 h
  unfold escape?
  simp only [noDigit, Bool.false_eq_true, if_false]
  split
  -- the letters with a meaning are alphanumeric
  all_goals try exact absurd rfl (other _ (by decide))
  simp only [noLetter, Bool.false_eq_true, if_false]

theorem atom_quoted (plain : w.flags = .none) (h : c.isAlphanum = false) (n d : Nat) (s : Text) :
    atom (n + 1) d { w with rest := '\\' :: c :: s } = some (text [c], { w with rest := s }) := by
  obtain ⟨_, flags, opened, named, byNumber, references, limit⟩ := w
  obtain rfl : flags = .none := plain
  let u : Reading := ⟨'\\' :: c :: s, .none, opened, named, byNumber, references, limit⟩
  have got : (get : Read Reading) u = some (u, u) := rfl
  have here : rest u = some ('\\' :: c :: s, u) := rfl
  have blank : blanks u = some ((), u) := blanks_quiet (w := u) rfl (quiet_cons (by decide))
  have escaped : (liftM (escape? false (c :: s)) : Read (Escape × Text)) u = some ((.char c, s), u) := by
    rw [escape?_other h]
    rfl
  show atom (n + 1) d u = _
  rw [atom, run_bind, blank, Option.bind_some, run_bind, got, Option.bind_some, run_bind, here,
    Option.bind_some]
  exact congrArg (Option.bind · _) escaped

theorem atom_plain (plain : w.flags = .none) (h : c ∉ "\\.+*?()|[\x7b^$".toList) (n d : Nat) (s : Text) :
    atom (n + 1) d { w with rest := c :: s } = some (text [c], { w with rest := s }) := by
  have other : ∀ e ∈ "\\.+*?()|[\x7b^$".toList, c ≠ e := by
    rintro e he rfl
    exact h he
  obtain ⟨_, flags, opened, named, byNumber, references, limit⟩ := w
  obtain rfl : flags = .none := plain
  let u : Reading := ⟨c :: s, .none, opened, named, byNumber, references, limit⟩
  have got : (get : Read Reading) u = some (u, u) := rfl
  have here : rest u = some (c :: s, u) := rfl
  have blank : blanks u = some ((), u) :=
    blanks_quiet (w := u) rfl (quiet_cons (mt (mem_operators c) h))
  show atom (n + 1) d u = _
  rw [atom, run_bind, blank, Option.bind_some, run_bind, got, Option.bind_some, run_bind, here,
    Option.bind_some]
  -- the choice of the reader is applied to the reading, so it is made on its own
  refine (fun x reader => ?_ : ∀ x : Read Regex, x = _ →
    x u = some (text [c], { u with rest := s })) _ rfl
  split at reader
  all_goals rename_i e
  · cases e
  · exact (other '.' (by decide) (List.cons.inj e).1).elim
  · exact (other '^' (by decide) (List.cons.inj e).1).elim
  · exact (other '$' (by decide) (List.cons.inj e).1).elim
  · exact (other '(' (by decide) (List.cons.inj e).1).elim
  · exact (other '\\' (by decide) (List.cons.inj e).1).elim
  · exact (other '[' (by decide) (List.cons.inj e).1).elim
  · obtain ⟨rfl, rfl⟩ := List.cons.inj e
    have one : ¬(c = '+' || c = '*' || c = '?' || c = '|' || c = ')') = true := by
      simp [other '+' (by decide), other '*' (by decide), other '?' (by decide), other '|' (by decide),
        other ')' (by decide)]
    rw [reader, if_neg one]
    rfl

theorem atom_caret (plain : w.flags = .none) (n d : Nat) (s : Text) :
    atom (n + 1) d { w with rest := '^' :: s } = some (anchor .textStart, { w with rest := s }) := by
  obtain ⟨_, _, _, _, _, _, _⟩ := w
  subst plain
  rw [atom]
  rfl

theorem atom_dollar (plain : w.flags = .none) (n d : Nat) (s : Text) :
    atom (n + 1) d { w with rest := '$' :: s } = some (anchor .textEnd, { w with rest := s }) := by
  obtain ⟨_, _, _, _, _, _, _⟩ := w
  subst plain
  rw [atom]
  rfl

theorem atom_dot (plain : w.flags = .none) (n d : Nat) (s : Text) :
    atom (n + 1) d { w with rest := '.' :: s } = some (char .dot, { w with rest := s }) := by
  obtain ⟨_, _, _, _, _, _, _⟩ := w
  subst plain
  rw [atom]
  rfl

theorem atom_closing (plain : w.flags = .none) (n d : Nat) (s : Text) :
    atom (n + 1) d { w with rest := ')' :: s } = some (.empty, { w with rest := ')' :: s }) := by
  obtain ⟨_, _, _, _, _, _, _⟩ := w
  subst plain
  rw [atom]
  rfl

theorem run_name {x : Text} (hx : IsName x) (s : Text) :
    name ['>'] { w with rest := x ++ '>' :: s } = some (x, { w with rest := s }) := by
  have word : (x ++ '>' :: s).takeWhile isNameChar = x := by
    rw [List.takeWhile_append_of_pos hx.2, List.takeWhile_cons_of_neg (by decide +kernel), List.append_nil]
  have here : rest { w with rest := x ++ '>' :: s } = some (x ++ '>' :: s, _) := rfl
  rw [name, run_bind, here, Option.bind_some]
  dsimp only
  rw [word, if_neg hx.1]
  show Option.bind (expect ['>'] { w with rest := (x ++ '>' :: s).drop x.length }) _ = _
  rw [List.drop_left, run_expect]
  rfl

theorem atom_reference (plain : w.flags = .none) {x label : Text} (hx : IsName x)
    (known : w.named.find? (·.1 = x) = some (x, label)) (n d : Nat) (t : Text) :
    atom (n + 1) d { w with rest := "\\k<".toList ++ x ++ '>' :: t } =
      some (.backref label, { w with rest := t, references := label :: w.references }) := by
  obtain ⟨_, _, opened, named, byNumber, references, limit⟩ := w
  subst plain
  let k : Reading := ⟨[], .none, opened, named, byNumber, references, limit⟩
  have unsigned : accept ['-'] { k with rest := x ++ '>' :: t } =
      some (false, { k with rest := x ++ '>' :: t }) := by
    obtain ⟨c, x, rfl⟩ := List.exists_cons_of_ne_nil hx.1
    have other : c ≠ '-' := by
      rintro rfl
      exact absurd (hx.2 '-' (List.mem_cons_self ..)) (by decide +kernel)
    have none : Text.after? ['-'] (c :: x ++ '>' :: t) = none := if_neg (Ne.symm other)
    rw [run_accept]
    show some ((Text.after? ['-'] (c :: x ++ '>' :: t)).isSome, _) = _
    rw [none]
    rfl
  rw [atom]
  show namedReference ['>'] { k with rest := x ++ '>' :: t } = _
  rw [namedReference, run_bind, unsigned, Option.bind_some]
  show (name ['>'] >>= _) { k with rest := x ++ '>' :: t } = _
  rw [run_bind, run_name hx, Option.bind_some]
  have got : (get : Read Reading) { k with rest := t } = some (_, { k with rest := t }) := rfl
  have known : { k with rest := t }.named.find? (·.1 = x) = some (x, label) := known
  rw [run_bind, got, Option.bind_some, known]
  rfl

theorem atom_notSlash (plain : w.flags = .none) (n d : Nat) (s : Text) :
    atom (n + 1) d { w with rest := "[^/]".toList ++ s } = some (.char .notSlash, { w with rest := s }) := by
  obtain ⟨_, _, opened, named, byNumber, references, limit⟩ := w
  subst plain
  rw [atom]
  rfl

/-! ### Rows -/

/-- Reading a row from the first state comes to reading a row from the second one, to which `f` adds what has
been read between them. -/
def Leads (d : Nat) (u v : Reading) (f : Regex → Regex) : Prop :=
  ∀ n, 2 * u.rest.length + 8 ≤ n → ∃ m, 2 * v.rest.length + 8 ≤ m ∧
    row n d u = (row m d v).map fun p => (f p.1, p.2)

theorem Leads.refl (d : Nat) (u : Reading) : Leads d u u id := fun n hn =>
  ⟨n, hn, by cases row n d u <;> rfl⟩

theorem Leads.trans (h : Leads d u v f) (h' : Leads d v w g) : Leads d u w (f ∘ g) := by
  intro n hn
  obtain ⟨m, hm, e⟩ := h n hn
  obtain ⟨k, hk, e'⟩ := h' m hm
  refine ⟨k, hk, ?_⟩
  rw [e, e', Option.map_map]
  rfl

theorem leads_of_piece (shorter : v.rest.length < u.rest.length)
    (h : ∀ n, 2 * u.rest.length + 7 ≤ n → piece n d u = some (r, v)) : Leads d u v (joined r) := by
  intro n hn
  obtain ⟨n, rfl⟩ : ∃ k, n = k + 1 := ⟨n - 1, by omega⟩
  have more : u.rest ≠ [] := List.ne_nil_of_length_pos (Nat.zero_lt_of_lt shorter)
  refine ⟨n, by omega, ?_⟩
  rw [row_succ, if_neg more, h n (by omega), Option.bind_some, if_neg (Nat.ne_of_lt shorter)]

theorem leads_of_atom (plain : v.flags = .none) (quiet : Quiet s) (shorter : s.length < u.rest.length)
    (h : ∀ n, 2 * u.rest.length + 6 ≤ n → atom n d u = some (r, { v with rest := s })) :
    Leads d u { v with rest := s } (joined r) := by
  refine leads_of_piece shorter fun n hn => ?_
  obtain ⟨n, rfl⟩ : ∃ k, n = k + 1 := ⟨n - 1, by omega⟩
  exact piece_of_atom_quiet plain quiet (h n (by omega))

theorem leads_quote (h : Quotes special) (plain : w.flags = .none) (quiet : Quiet s) : ∀ t : Text,
    Leads d { w with rest := quote special t ++ s } { w with rest := s } (spell t)
  | [] => .refl d _
  | c :: t => by
    have later : Quiet (quote special t ++ s) := quiet_quote h quiet t
    have first : Leads d { w with rest := quote special (c :: t) ++ s }
        { w with rest := quote special t ++ s } (joined (text [c])) := by
      refine leads_of_atom plain later ?_ fun n hn => ?_
      · rw [quote_cons]
        simp only [List.length_append]
        split <;> simp only [List.length_cons, List.length_nil] <;> omega
      · obtain ⟨n, rfl⟩ : ∃ k, n = k + 1 := ⟨n - 1, by omega⟩
        rw [quote_cons]
        split
        · exact atom_quoted plain (h.others c ‹_›) n d _
        · exact atom_plain plain (fun hc => ‹¬special c = true› (h.operators c hc)) n d _
    exact first.trans (leads_quote h plain quiet t)

/-- Reading a row is refused, however much fuel there is above what the text needs. -/
def Fails (d : Nat) (u : Reading) : Prop := ∀ n, 2 * u.rest.length + 8 ≤ n → row n d u = none

theorem Leads.fails (h : Leads d u v f) (fails : Fails d v) : Fails d u := by
  intro n hn
  obtain ⟨m, hm, e⟩ := h n hn
  rw [e, fails m hm]
  rfl

theorem fails_of_atom (more : u.rest ≠ []) (h : ∀ n, 2 * u.rest.length + 6 ≤ n → atom n d u = none) :
    Fails d u := by
  intro n hn
  obtain ⟨n, rfl⟩ : ∃ k, n = k + 2 := ⟨n - 2, by omega⟩
  rw [row_succ, if_neg more, piece, run_bind, h n (by omega)]
  rfl

theorem row_nil (n d : Nat) : row (n + 1) d { w with rest := [] } = some (.empty, { w with rest := [] }) := by
  rw [row_succ]
  rfl

theorem row_closing (plain : w.flags = .none) (n d : Nat) (s : Text) :
    row (n + 3) d { w with rest := ')' :: s } = some (.empty, { w with rest := ')' :: s }) := by
  have piece := piece_of_atom_quiet plain (quiet_cons (by decide)) (atom_closing plain n d s)
  rw [row_succ, if_neg (List.cons_ne_nil _ _), piece, Option.bind_some, if_pos rfl]

theorem alternatives_single (plain : v.flags = .none) (unnumbered : v.byNumber = false) (quiet : Quiet s)
    (last : s.head? ≠ some '|') (h : row n d u = some (r, { v with rest := s })) :
    alternatives (n + 1) d u = some (r, { v with rest := s }) := by
  have single : Text.after? ['|'] s = none := by
    refine Option.eq_none_iff_forall_ne_some.2 fun r hr => last ?_
    rw [Text.after?_eq_some.1 hr]
    rfl
  obtain ⟨_, _, _, _, _, _, _⟩ := v
  subst plain unnumbered
  rw [alternatives, run_bind, h, Option.bind_some, run_bind, blanks_quiet rfl quiet, Option.bind_some,
    run_bind, run_accept, single]
  rfl

theorem inner_eq_some : inner (n + 1) d u = some (r, v) ↔
    ∃ w, alternatives n d u = some (r, w) ∧ w.rest = ')' :: v.rest ∧ v = { w with rest := v.rest } := by
  rw [inner, run_bind]
  simp only [Option.bind_eq_some_iff, run_bind, run_expect]
  constructor
  · rintro ⟨⟨q, v⟩, hv, _, he, e⟩
    obtain ⟨w, hw, rfl⟩ := Option.map_eq_some_iff.1 he
    cases e
    exact ⟨v, hv, Text.after?_eq_some.1 hw, rfl⟩
  · rintro ⟨v, hv, closed, e⟩
    refine ⟨(r, v), hv, _, by rw [closed]; rfl, ?_⟩
    exact congrArg (fun u => some (r, u)) e.symm

/-- What leads to a closing parenthesis is all that is in the parentheses. -/
theorem Leads.inner (plain : v.flags = .none) (unnumbered : v.byNumber = false)
    (h : Leads d u { v with rest := ')' :: s } f) (hn : 2 * u.rest.length + 10 ≤ n) :
    Read.inner n d u = some (f .empty, { v with rest := s }) := by
  obtain ⟨n, rfl⟩ : ∃ k, n = k + 2 := ⟨n - 2, by omega⟩
  obtain ⟨m, hm, e⟩ := h n (by omega)
  obtain ⟨m, rfl⟩ : ∃ k, m = k + 3 := ⟨m - 3, by omega⟩
  rw [row_closing plain] at e
  have last : (')' :: s).head? ≠ some '|' := by simp
  exact inner_eq_some.2 ⟨_, alternatives_single plain unnumbered (quiet_cons (by decide)) last e, rfl, rfl⟩

theorem Fails.inner (h : Fails d u) (hn : 2 * u.rest.length + 10 ≤ n) : Read.inner n d u = none := by
  obtain ⟨n, rfl⟩ : ∃ k, n = k + 2 := ⟨n - 2, by omega⟩
  rw [Read.inner, run_bind, alternatives, run_bind, h n (by omega)]
  rfl

/-! ### Groups -/

theorem atom_parenthesis (plain : w.flags = .none) (quiet : Quiet ('(' :: t)) (n d : Nat) :
    atom (n + 1) d { w with rest := '(' :: t } = group n (d + 1) { w with rest := t } := by
  obtain ⟨_, flags, opened, named, byNumber, references, limit⟩ := w
  obtain rfl : flags = .none := plain
  let u : Reading := ⟨'(' :: t, .none, opened, named, byNumber, references, limit⟩
  have blank : blanks u = some ((), u) := blanks_quiet (w := u) rfl quiet
  show atom (n + 1) d u = _
  rw [atom, run_bind, blank]
  rfl

theorem group_deep (hd : nestLimit ≤ d) (n : Nat) (u : Reading) : group n d u = none := by
  cases n with
  | zero =>
    rw [group]
    rfl
  | succ n =>
    rw [group, if_pos hd]
    rfl

theorem group_unnamed (plain : w.flags = .none) (hd : d < nestLimit) (n : Nat) (t : Text) :
    group (n + 2) d { w with rest := '?' :: ':' :: t } =
      (Read.inner (n + 1) d { w with rest := t }).map fun p => (p.1, { p.2 with flags := .none }) := by
  obtain ⟨_, _, opened, named, byNumber, references, limit⟩ := w
  subst plain
  rw [group, if_neg (Nat.not_le.2 hd)]
  show (Read.inner (n + 1) d ⟨t, .none, opened, named, byNumber, references, limit⟩).bind _ = _
  cases Read.inner (n + 1) d ⟨t, .none, opened, named, byNumber, references, limit⟩ <;> rfl

theorem group_named (plain : w.flags = .none) (hd : d < nestLimit) {x : Text} (hx : IsName x) (n : Nat)
    (t : Text) : group (n + 1) d { w with rest := "?P<".toList ++ x ++ '>' :: t } =
      (Read.inner n d { w with
        rest := t
        opened := w.opened + 1
        named := (x, labelOf (w.opened + 1)) :: w.named }).map fun p =>
          (.group (labelOf (w.opened + 1)) false p.1, p.2) := by
  obtain ⟨_, _, opened, named, byNumber, references, limit⟩ := w
  subst plain
  rw [group, if_neg (Nat.not_le.2 hd)]
  show ((name ['>']) ⟨x ++ '>' :: t, .none, opened, named, byNumber, references, limit⟩).bind _ = _
  have word := run_name (w := ⟨[], .none, opened, named, byNumber, references, limit⟩) hx t
  rw [word]
  let k : Reading := ⟨t, .none, opened + 1, (x, labelOf (opened + 1)) :: named, byNumber, references, limit⟩
  show (Read.inner n d k).bind _ = (Read.inner n d k).map _
  cases Read.inner n d k <;> rfl

theorem quiet_unnamed : Quiet ("(?:".toList ++ t) := ⟨rfl, by simp⟩

theorem quiet_named {x : Text} : Quiet ("(?P<".toList ++ x ++ '>' :: t) := ⟨rfl, by simp⟩

theorem atom_unnamed (plain : w.flags = .none) (plain' : v.flags = .none) (unnumbered : v.byNumber = false)
    (hd : d + 1 < nestLimit) (content : Leads (d + 1) { w with rest := t } { v with rest := ')' :: s } f)
    (hn : 2 * t.length + 12 ≤ n) :
    atom n d { w with rest := "(?:".toList ++ t } = some (f .empty, { v with rest := s }) := by
  obtain ⟨n, rfl⟩ : ∃ k, n = k + 3 := ⟨n - 3, by omega⟩
  have inside := content.inner (n := n + 1) plain' unnumbered (by show 2 * t.length + 10 ≤ n + 1; omega)
  have opened := (atom_parenthesis plain quiet_unnamed (n + 2) d).trans (group_unnamed plain hd n t)
  rw [inside] at opened
  exact opened.trans (by rw [← plain']; rfl)

theorem atom_named (plain : w.flags = .none) (plain' : v.flags = .none) (unnumbered : v.byNumber = false)
    {x : Text} (hx : IsName x) (hd : d + 1 < nestLimit)
    (content : Leads (d + 1)
      { w with
        rest := t
        opened := w.opened + 1
        named := (x, labelOf (w.opened + 1)) :: w.named } { v with rest := ')' :: s } f)
    (hn : 2 * t.length + 12 ≤ n) :
    atom n d { w with rest := "(?P<".toList ++ x ++ '>' :: t } =
      some (.group (labelOf (w.opened + 1)) false (f .empty), { v with rest := s }) := by
  obtain ⟨n, rfl⟩ : ∃ k, n = k + 2 := ⟨n - 2, by omega⟩
  have inside := content.inner (n := n) plain' unnumbered (by show 2 * t.length + 10 ≤ n; omega)
  have opened := (atom_parenthesis plain quiet_named (n + 1) d).trans (group_named plain hd hx n t)
  rw [inside] at opened
  exact opened

theorem atom_deep (plain : w.flags = .none) (quiet : Quiet ('(' :: t)) (hd : nestLimit ≤ d + 1)
    (hn : 0 < n) : atom n d { w with rest := '(' :: t } = none := by
  obtain ⟨n, rfl⟩ : ∃ k, n = k + 1 := ⟨n - 1, by omega⟩
  rw [atom_parenthesis plain quiet, group_deep hd]

theorem atom_named_none (plain : w.flags = .none) {x : Text} (hx : IsName x) (hd : d + 1 < nestLimit)
    (content : Fails (d + 1)
      { w with
        rest := t
        opened := w.opened + 1
        named := (x, labelOf (w.opened + 1)) :: w.named }) (hn : 2 * t.length + 12 ≤ n) :
    atom n d { w with rest := "(?P<".toList ++ x ++ '>' :: t } = none := by
  obtain ⟨n, rfl⟩ : ∃ k, n = k + 2 := ⟨n - 2, by omega⟩
  have inside := content.inner (n := n) (by show 2 * t.length + 10 ≤ n; omega)
  have opened := (atom_parenthesis plain quiet_named (n + 1) d).trans (group_named plain hd hx n t)
  rw [inside] at opened
  exact opened

/-! ### Repetitions -/

/-- An atom and a repetition of it, which is preferably seldom if a question mark stands behind the operator. -/
theorem piece_repeated {x : Char} {lo : Nat} {hi : Option Nat} (lazily : Bool)
    (op : (x, lo, hi) ∈ [('?', 0, some 1), ('*', 0, none), ('+', 1, none)]) (plain : v.flags = .none)
    (quiet : Quiet s)
    (atom : Read.atom n d u = some (r, { v with rest := x :: (if lazily then ['?'] else []) ++ s }))
    (able : r.isRepeatable = true) (repeats : repeated r lo hi (!lazily) = some q) :
    piece (n + 1) d u = some (q, { v with rest := s }) := by
  obtain ⟨_, _, opened, named, byNumber, references, limit⟩ := v
  subst plain
  let k : Reading := ⟨[], .none, opened, named, byNumber, references, limit⟩
  let t := (if lazily then ['?'] else []) ++ s
  have operator : blanks { k with rest := x :: t } = some ((), { k with rest := x :: t }) ∧
      repetition? { k with rest := x :: t } = some (some (lo, hi), { k with rest := t }) := by
    simp only [List.mem_cons, Prod.mk.injEq, List.not_mem_nil, or_false] at op
    rcases op with ⟨rfl, rfl, rfl⟩ | ⟨rfl, rfl, rfl⟩ | ⟨rfl, rfl, rfl⟩ <;> exact ⟨rfl, rfl⟩
  have mode : blanks { k with rest := t } = some ((), { k with rest := t }) ∧
      accept ['?'] { k with rest := t } = some (lazily, { k with rest := s }) := by
    cases lazily with
    | true => exact ⟨rfl, rfl⟩
    | false =>
      have none := after?_quiet quiet (c := '?') (by decide)
      refine ⟨blanks_quiet rfl quiet, ?_⟩
      rw [run_accept]
      show some ((Text.after? ['?'] s).isSome, { k with rest := (Text.after? ['?'] s).getD s }) = _
      rw [none]
      rfl
  have last : accept ['+'] { k with rest := s } = some (false, { k with rest := s }) := by
    have none := after?_quiet quiet (c := '+') (by decide)
    rw [run_accept]
    show some ((Text.after? ['+'] s).isSome, { k with rest := (Text.after? ['+'] s).getD s }) = _
    rw [none]
    rfl
  rw [piece, run_bind, atom, Option.bind_some]
  show ((blanks >>= _) : Read Regex) { k with rest := x :: t } = _
  rw [run_bind, operator.1, Option.bind_some, run_bind, operator.2, Option.bind_some]
  dsimp only
  rw [able]
  show ((blanks >>= _) : Read Regex) { k with rest := t } = _
  have got : (get : Read Reading) { k with rest := s } = some (_, { k with rest := s }) := rfl
  have whole : (liftM (repeated r lo hi (lazily == k.flags.swapGreed)) : Read Regex) { k with rest := s } =
      some (q, { k with rest := s }) := by
    rw [show (lazily == k.flags.swapGreed) = !lazily by cases lazily <;> rfl, repeats]
    rfl
  rw [run_bind, mode.1, Option.bind_some, run_bind, mode.2, Option.bind_some, run_bind, got,
    Option.bind_some, run_bind, whole, Option.bind_some, run_bind, last]
  rfl

/-! ### Whole expressions -/

/-- Reading begins with a text. -/
def start (limit : Nat) (t : Text) : Reading := ⟨t, .none, 0, [], false, [], limit⟩

end Read

theorem parse?_eq_some {s : Text} {q : Regex} : parse? s = some q ↔
    ∃ r u, Read.alternatives (2 * s.length + 512) 0 (Read.start (Text.byteLength s / 2) s) = some (r, u) ∧
      u.rest = [] ∧ q = r.markReferenced u.references := by
  have step : parse? s = (Read.alternatives (2 * s.length + 512) 0
      (Read.start (Text.byteLength s / 2) s)).bind fun p =>
        if p.2.rest = [] then some (p.1.markReferenced p.2.references) else none := rfl
  rw [step, Option.bind_eq_some_iff]
  constructor
  · rintro ⟨⟨r, u⟩, h, e⟩
    obtain ⟨done, e⟩ := Option.ite_none_right_eq_some.1 e
    exact ⟨r, u, h, done, (Option.some.inj e).symm⟩
  · rintro ⟨r, u, h, done, rfl⟩
    exact ⟨(r, u), h, if_pos done⟩

theorem Read.leads_caret {s : Text} (quiet : Quiet s) (limit : Nat) :
    Leads 0 (start limit ('^' :: s)) (start limit s) (joined (anchor .textStart)) := by
  refine leads_of_atom (v := start limit []) rfl quiet (Nat.lt_succ_self _) fun n hn => ?_
  obtain ⟨n, rfl⟩ : ∃ k, n = k + 1 := ⟨n - 1, by omega⟩
  exact atom_caret (w := start limit []) rfl n 0 s

/-- What leads from behind `^` to `$` is what is read between the two anchors. -/
theorem parse?_of_leads {s : Text} {v : Reading} {f : Regex → Regex} (plain : v.flags = .none)
    (unnumbered : v.byNumber = false) (quiet : Quiet (s ++ ['$']))
    (h : Read.Leads 0 (Read.start (Text.byteLength ('^' :: s ++ ['$']) / 2) (s ++ ['$']))
      { v with rest := ['$'] } f) :
    parse? ('^' :: s ++ ['$']) =
      some ((Read.joined (anchor .textStart) (f (anchor .textEnd))).markReferenced v.references) := by
  have last : Read.Leads 0 { v with rest := ['$'] } { v with rest := [] } (Read.joined (anchor .textEnd)) := by
    refine Read.leads_of_atom plain quiet_nil Nat.one_pos fun n hn => ?_
    obtain ⟨n, rfl⟩ : ∃ k, n = k + 1 := ⟨n - 1, by omega⟩
    exact Read.atom_dollar plain n 0 []
  obtain ⟨m, hm, row⟩ := ((Read.leads_caret quiet _).trans (h.trans last))
    (2 * ('^' :: s ++ ['$']).length + 511) (Nat.add_le_add_left (by decide) _)
  obtain ⟨m, rfl⟩ : ∃ k, m = k + 1 := ⟨m - 1, by omega⟩
  rw [Read.row_nil] at row
  exact parse?_eq_some.2
    ⟨_, { v with rest := [] }, Read.alternatives_single plain unnumbered quiet_nil nofun row, rfl, rfl⟩

theorem parse?_of_fails {s : Text} (h : Read.Fails 0 (Read.start (Text.byteLength s / 2) s)) :
    parse? s = none := by
  refine Option.eq_none_iff_forall_ne_some.2 fun q hq => ?_
  obtain ⟨r, u, read, -⟩ := parse?_eq_some.1 hq
  have refused := h (2 * s.length + 511) (Nat.add_le_add_left (by decide) _)
  rw [Read.alternatives, Read.run_bind, refused] at read
  cases read

end LocalePaths.Regex
