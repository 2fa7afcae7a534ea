import LocalePaths.Matcher
import LocalePaths.Proofs.Pattern.Grammar
import LocalePaths.Proofs.Pattern.Rendering

/-!
# The text of a pattern that is read

Reading a text loses nothing but the spaces in its variables: the nodes are written as the text without
these spaces (`Token.compact`), and this text is read as the same nodes (`Token.tokens_texts`). What has
been taken for literal text before stays so, because the spaces that are left out stand in variables, which
begin and end with the same characters as before.
-/

namespace LocalePaths

namespace Token
variable {atStart : Bool} {s t u v rest front back x : Text} {k : Token} {place i : Nat}

/-! ### Text without spaces in variables -/

/-- The place is one of the places of a variable in braces. -/
def InVariable (s : Text) (place : Nat) : Prop :=
  ∃ start x t, IsBraced x t ∧ t <+: s.drop start ∧ start ≤ place ∧ place < start + t.length

/-- The length of the variable in braces with which the text starts. -/
def variableLength : Text → Nat
  | '\x7b' :: s => ((name? s).map fun found => s.length + 1 - found.2.length).getD 0
  | _ => 0

theorem lt_variableLength_iff :
    i < variableLength s ↔ ∃ x t, IsBraced x t ∧ t <+: s ∧ i < t.length := by
  constructor
  · intro lt
    unfold variableLength at lt
    split at lt
    · rename_i u
      cases h : name? u with
      | none =>
        rw [h] at lt
        exact absurd lt (Nat.not_lt_zero i)
      | some found =>
        obtain ⟨t, ht, e⟩ := name?_iff_isBraced.1 h
        have length := congrArg List.length e
        rw [List.length_append, List.length_cons] at length
        simp only [h, Option.map_some, Option.getD_some] at lt
        exact ⟨found.1, t, ht, ⟨found.2, e.symm⟩, by omega⟩
    · exact absurd lt (Nat.not_lt_zero i)
  · rintro ⟨x, t, ht, ⟨back, rfl⟩, lt⟩
    obtain ⟨u, rfl, -⟩ := ht.eq_cons
    have read : name? (u ++ back) = some (x, back) := name?_iff_isBraced.2 ⟨_, ht, rfl⟩
    rw [List.length_cons] at lt
    rw [List.cons_append, variableLength, read, Option.map_some, Option.getD_some, List.length_append]
    show i < u.length + back.length + 1 - back.length
    omega

instance : Decidable (InVariable s place) :=
  decidable_of_iff (∃ start, start ≤ place ∧ place - start < variableLength (s.drop start)) <| by
    simp only [lt_variableLength_iff]
    constructor
    · rintro ⟨start, le, x, t, ht, found, lt⟩
      exact ⟨start, x, t, ht, found, le, by omega⟩
    · rintro ⟨start, x, t, ht, found, le, lt⟩
      exact ⟨start, le, x, t, ht, found, by omega⟩

def isKept (s : Text) (c : Char × Nat) : Bool := !(c.1 = ' ' ∧ InVariable s c.2)

/-- The text without the spaces in its variables. -/
def compact (s : Text) : Text := (s.zipIdx.filter (isKept s)).map Prod.fst

/-- The token without spaces. -/
def text : Token → Text
  | char c => [c]
  | star => ['*']
  | starstar ending => '*' :: '*' :: ending
  | name x => '\x7b' :: x ++ ['\x7d']

/-- No variable in braces goes across the place where the texts meet. -/
def Parted (front s : Text) : Prop :=
  ∀ start x t, IsBraced x t → t <+: (front ++ s).drop start → start < front.length →
    start + t.length ≤ front.length

theorem IsBraced.unique {x' t' : Text} (h : IsBraced x t) (h' : IsBraced x' t') (ht : t <+: s)
    (ht' : t' <+: s) : t = t' := by
  obtain ⟨back, rfl⟩ := ht
  obtain ⟨back', e⟩ := ht'
  obtain ⟨u, rfl, -⟩ := h.eq_cons
  have read : name? (u ++ back) = some (x, back) := name?_iff_isBraced.2 ⟨_, h, rfl⟩
  have read' : name? (u ++ back) = some (x', back') := name?_iff_isBraced.2 ⟨_, h', e.symm⟩
  rw [(Prod.mk.inj (Option.some.inj (read.symm.trans read'))).2] at e
  exact (List.append_cancel_right e).symm

theorem ReadAt.parted (h : ReadAt front t back k) (parted : Parted front (t ++ back)) :
    Parted (front ++ t) back := by
  intro start x t' ht found lt
  rw [List.append_assoc] at found
  rw [List.length_append] at lt ⊢
  by_cases before : start < front.length
  · have := parted start x t' ht found before
    omega
  · obtain ⟨i, rfl⟩ := Nat.exists_eq_add_of_le (Nat.not_lt.1 before)
    obtain ⟨rfl, e, -⟩ := (h.occurs i (by omega) (name x)).1 ⟨t', ht, found⟩
    have spelled := h.spelled
    rw [← e] at spelled
    rw [Nat.add_zero, List.drop_left] at found
    rw [ht.unique spelled found (List.prefix_append t back)]
    omega

theorem ReadAt.inVariable_iff (h : ReadAt front t back k) (parted : Parted front (t ++ back))
    (hi : i < t.length) :
    InVariable (front ++ (t ++ back)) (front.length + i) ↔ ∃ x, k = name x := by
  constructor
  · rintro ⟨start, x, t', ht, found, le, lt⟩
    have behind : ¬start < front.length := fun before => by
      have := parted start x t' ht found before
      omega
    obtain ⟨j, rfl⟩ := Nat.exists_eq_add_of_le (Nat.not_lt.1 behind)
    exact ⟨x, ((h.occurs j (by omega) (name x)).1 ⟨t', ht, found⟩).2.1.symm⟩
  · rintro ⟨x, rfl⟩
    refine ⟨front.length, x, t, h.spelled, ?_, Nat.le_add_right .., Nat.add_lt_add_left hi _⟩
    rw [List.drop_left]
    exact List.prefix_append t back

theorem IsBraced.filter (h : IsBraced x t) : t.filter (· ≠ ' ') = (name x).text := by
  obtain ⟨⟨-, word⟩, m, n, rfl⟩ := h
  have kept : ∀ c ∈ x, c ≠ ' ' := by
    rintro c hc rfl
    exact absurd (word ' ' hc) (by decide)
  simpa [text] using kept

theorem filter_zipIdx {p : Char × Nat → Bool} {q : Char → Bool} {n : Nat}
    (h : ∀ c ∈ t.zipIdx n, p c = q c.1) : ((t.zipIdx n).filter p).map Prod.fst = t.filter q := by
  rw [List.filter_congr h]
  show ((t.zipIdx n).filter (q ∘ Prod.fst)).map Prod.fst = _
  rw [← List.filter_map, List.zipIdx_map_fst]

theorem ReadAt.compact (h : ReadAt front t back k) (parted : Parted front (t ++ back)) :
    ((t.zipIdx front.length).filter (isKept (front ++ (t ++ back)))).map Prod.fst = k.text := by
  have inside : ∀ c ∈ t.zipIdx front.length,
      (InVariable (front ++ (t ++ back)) c.2 ↔ ∃ x, k = name x) := by
    intro c hc
    obtain ⟨i, e⟩ := Nat.exists_eq_add_of_le (List.le_snd_of_mem_zipIdx hc)
    have := List.snd_lt_add_of_mem_zipIdx hc
    rw [e]
    exact h.inVariable_iff parted (by omega)
  have spelled := h.spelled
  cases k with
  | name x =>
    rw [← IsBraced.filter spelled]
    refine filter_zipIdx fun c hc => ?_
    simp [isKept, inside c hc]
  | char | star | starstar =>
    have all : ∀ c ∈ t.zipIdx front.length, isKept (front ++ (t ++ back)) c = (fun _ => true) c.1 :=
      fun c hc => by simp [isKept, inside c hc]
    rw [filter_zipIdx (q := fun _ => true) all, List.filter_true]
    first | exact spelled | exact spelled.1

/-- Leaving out the spaces in variables leaves the tokens without spaces. -/
theorem compact_append : ∀ {atStart : Bool} {front s : Text}, (atStart = true ↔ IsLead front) →
    Whole front s → Parted front s →
      ((s.zipIdx front.length).filter (isKept (front ++ s))).map Prod.fst =
        (tokens atStart s).flatMap text := by
  intro atStart front s start whole parted
  cases h : next? atStart s with
  | none =>
    obtain rfl := next?_eq_none h
    rfl
  | some found =>
    obtain ⟨k, back⟩ := found
    have shorter := length_of_next? h
    obtain ⟨t, rfl, read⟩ := exists_readAt h start whole
    have later := compact_append read.spelled.isLead_iff read.whole (read.parted parted)
    rw [List.append_assoc, List.length_append] at later
    rw [tokens_eq h, List.zipIdx_append, List.filter_append, List.map_append, read.compact parted, later,
      List.flatMap_cons]
termination_by _ _ s => s.length

theorem compact_eq (s : Text) : compact s = (ofText s).flatMap text :=
  compact_append (iff_of_true rfl (.inl rfl)) (fun start _ _ => Nat.succ_ne_zero start) nofun

/-! ### Reading the text again -/

theorem exists_spells (h : next? atStart s = some (k, rest)) : ∃ t, k.Spells t ∧ s = t ++ rest := by
  have begins := next?_eq_some.1 h
  cases k with
  | char | star => exact ⟨_, rfl, begins.1⟩
  | starstar ending =>
    obtain ⟨-, u, rfl, read⟩ := begins
    obtain ⟨rfl, ends⟩ := ending?_eq_some.1 read
    exact ⟨_, ⟨rfl, ends.imp_left And.left⟩, rfl⟩
  | name x =>
    obtain ⟨u, rfl, read⟩ := begins
    exact name?_iff_isBraced.1 read

/-- The token without spaces starts with the same character. -/
theorem Spells.head?_eq (h : k.Spells t) : ∃ c u v, t = c :: u ∧ k.text = c :: v := by
  cases k with
  | char | star => exact ⟨_, [], [], h, rfl⟩
  | starstar ending => exact ⟨_, _, _, h.1, rfl⟩
  | name x =>
    obtain ⟨u, rfl, -⟩ := IsBraced.eq_cons h
    exact ⟨_, u, _, rfl, rfl⟩

theorem head?_texts : ((tokens atStart s).flatMap text).head? = s.head? := by
  cases h : next? atStart s with
  | none =>
    obtain rfl := next?_eq_none h
    rfl
  | some found =>
    obtain ⟨k, rest⟩ := found
    obtain ⟨t, spelled, rfl⟩ := exists_spells h
    obtain ⟨c, u, v, rfl, e⟩ := spelled.head?_eq
    rw [tokens_eq h, List.flatMap_cons, e]
    rfl

/-- Characters with which neither a wildcard nor a variable starts stand in the text as well. -/
theorem prefix_of_texts (h : (tokens atStart s).flatMap text = u ++ v) (star_ : '*' ∉ u)
    (brace : '\x7b' ∉ u) : u <+: s := by
  induction u generalizing atStart s with
  | nil => exact List.nil_prefix
  | cons c u ih =>
    have first : s.head? = some c := by
      rw [← head?_texts, h]
      rfl
    obtain ⟨hc, star_⟩ := not_or.1 (mt List.mem_cons.2 star_)
    obtain ⟨hc', brace⟩ := not_or.1 (mt List.mem_cons.2 brace)
    obtain ⟨back, rfl⟩ := List.head?_eq_some_iff.1 first
    have read : next? atStart (c :: back) = some (char c, back) :=
      next?_eq_some.2 ⟨rfl, Ne.symm hc, fun e => absurd e.symm hc'⟩
    rw [tokens_eq read, List.flatMap_cons] at h
    obtain ⟨w, rfl⟩ := ih (List.cons.inj h).2 star_ brace
    exact ⟨w, rfl⟩

theorem isSome_ending? : (ending? s).isSome ↔ s.head? = none ∨ s.head? = some '/' := by
  cases s with
  | nil => simp [ending?]
  | cons c s =>
    unfold ending?
    split <;> simp_all

/-- What follows two stars is an end or a separator only if it was before. -/
theorem ending?_texts {u : Text} (none : ∀ u, back = '*' :: u → ending? u = none)
    (e : (tokens false back).flatMap text = '*' :: u) : ending? u = Option.none := by
  have first : back.head? = some '*' := by
    rw [← @head?_texts false back, e]
    rfl
  obtain ⟨rest, rfl⟩ := List.head?_eq_some_iff.1 first
  have second : next? false ('*' :: rest) = some (star, rest) := rfl
  rw [tokens_eq second, List.flatMap_cons] at e
  obtain rfl : (tokens false rest).flatMap text = u := (List.cons.inj e).2
  rw [← Option.not_isSome_iff_eq_none, isSome_ending?, head?_texts, ← isSome_ending?, none rest rfl]
  nofun

/-- A variable that can be read could have been read before. -/
theorem name?_texts (none : name? back = none) :
    name? ((tokens false back).flatMap text) = Option.none := by
  refine Option.eq_none_iff_forall_ne_some.2 fun found h => ?_
  obtain ⟨t, ht, e⟩ := name?_iff_isBraced.1 h
  obtain ⟨u, rfl, star_, brace, -⟩ := ht.eq_cons
  obtain ⟨w, rfl⟩ := prefix_of_texts (List.cons.inj e).2 star_ brace
  exact nomatch none.symm.trans (name?_iff_isBraced.2 ⟨_, ht, rfl⟩)

/-- A token is read again from its own text, if what follows has changed only in its variables. -/
theorem next?_text (h : next? atStart s = some (k, back)) :
    next? atStart (k.text ++ (tokens k.endsSegment back).flatMap text) =
      some (k, (tokens k.endsSegment back).flatMap text) := by
  have begins := next?_eq_some.1 h
  refine next?_eq_some.2 ?_
  cases k with
  | char c =>
    obtain ⟨-, star_, none⟩ := begins
    refine ⟨rfl, star_, ?_⟩
    rintro rfl
    exact name?_texts (none rfl)
  | star =>
    obtain ⟨-, none⟩ := begins
    exact ⟨rfl, fun u start => ending?_texts fun u => none u start⟩
  | starstar ending =>
    obtain ⟨start, u, -, read⟩ := begins
    obtain ⟨-, ends⟩ := ending?_eq_some.1 read
    refine ⟨start, _, rfl, ending?_eq_some.2 ⟨rfl, ends.imp_left ?_⟩⟩
    rintro ⟨rfl, rfl⟩
    exact ⟨rfl, rfl⟩
  | name x =>
    obtain ⟨u, -, read⟩ := begins
    exact ⟨_, List.append_assoc .., name?_eq_some.2 ⟨isWord_of_name? read, 0, 0, rfl⟩⟩

/-- The text of the tokens without spaces has the same tokens. -/
theorem tokens_texts : ∀ {atStart : Bool} {s : Text},
    tokens atStart ((tokens atStart s).flatMap text) = tokens atStart s := by
  intro atStart s
  cases h : next? atStart s with
  | none =>
    obtain rfl := next?_eq_none h
    rfl
  | some found =>
    obtain ⟨k, back⟩ := found
    have shorter := length_of_next? h
    rw [tokens_eq h, List.flatMap_cons, tokens_eq (next?_text h), tokens_texts]
termination_by _ s => s.length

end Token

namespace Node

theorem flatMap_text_flagAll (seen : List Text) (ns : List Node) :
    (flagAll seen ns).flatMap text = ns.flatMap text := by
  induction ns generalizing seen with
  | nil => rfl
  | cons n ns ih =>
    rw [flagAll, List.flatMap_cons, List.flatMap_cons, ih]
    cases n <;> rfl

end Node

/-- Where nothing is bound, nodes are rendered to their own text. -/
theorem renderNodes_template {s : Scope} (unbound : ∀ x, s.lookup x = none) (d : Nat) (ns : List Node) :
    renderNodes (d + 1) .template s ns = some (.written (ns.flatMap Node.text)) := by
  induction ns with
  | nil => rfl
  | cons n ns ih =>
    have first : renderNode (renderNodes d) .template s n = some (.written n.text) := by
      cases n with
      | literal => rfl
      | star | starstar | «variable» => simp [renderNode, unbound, Rendered.unresolved]
      | android => simp [renderNode, qualifier?, renderBinding, unbound, Rendered.unresolved]
    rw [renderNodes_cons, first, ih]
    rfl

namespace Pattern

theorem flatMap_text_literal? (run : Text) : (literal? run).flatMap Node.text = run :=
  flatMap_literal? rfl run

theorem flatMap_text_ofTokens (id : Nat) (run : Text) (ts : List Token) :
    (ofTokens id run ts).flatMap Node.text = run ++ ts.flatMap Token.text := by
  induction ts generalizing id run with
  | nil => rfl
  | cons k ts ih =>
    cases k with
    | char c =>
      rw [ofTokens, ih, List.append_assoc]
      rfl
    | star | starstar ending =>
      rw [ofTokens, List.flatMap_append, flatMap_text_literal?, List.flatMap_cons, ih]
      rfl
    | name x =>
      rw [ofTokens, List.flatMap_append, flatMap_text_literal?, List.flatMap_cons, ih]
      split
      · rename_i e
        rw [e]
        rfl
      · rfl

theorem text_parse (s : Text) : (parse s).text = Token.compact s :=
  (Node.flatMap_text_flagAll ..).trans ((flatMap_text_ofTokens ..).trans (Token.compact_eq s).symm)

theorem parse_compact (s : Text) : parse (Token.compact s) = parse s := by
  unfold parse
  rw [Token.compact_eq]
  have same : Token.ofText ((Token.ofText s).flatMap Token.text) = Token.ofText s := Token.tokens_texts
  rw [same]

/-- Reading a text loses the spaces in its variables and nothing else: the pattern and its template are
written as the text without these spaces, which is read as the same pattern again, and two texts are read
as the same pattern only if they differ in such spaces. -/
theorem parse_loses_spaces (s : Text) :
    (parse s).text = Token.compact s ∧ (Matcher.of (parse s)).template = Token.compact s ∧
      parse (Token.compact s) = parse s ∧
      ∀ t, parse s = parse t ↔ Token.compact s = Token.compact t := by
  have template : (Matcher.of (parse s)).template = (parse s).text := by
    have nodes : renderNodes (Scope.of .empty).depth .template (.of .empty) (parse s).nodes =
        some (.written (parse s).text) := renderNodes_template (fun x => rfl) 7 _
    have rendered : (parse s).render .template (.of .empty) = some (.written (parse s).text) :=
      render_eq_some.2 ⟨[], _, rfl, nodes, rfl⟩
    show (((parse s).render .template (.of .empty)).map (·.text)).getD [] = _
    rw [rendered]
    rfl
  refine ⟨text_parse s, template.trans (text_parse s), parse_compact s, fun t => ?_⟩
  refine ⟨fun h => ?_, fun h => ?_⟩
  · rw [← text_parse s, ← text_parse t, h]
  · rw [← parse_compact s, ← parse_compact t, h]

example : Token.compact "a /\x7b x \x7d/\x7b y".toList = "a /\x7bx\x7d/\x7b y".toList := by decide

end Pattern

end LocalePaths
