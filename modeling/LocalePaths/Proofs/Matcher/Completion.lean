import LocalePaths.Proofs.Matcher.Layout
import LocalePaths.Proofs.Pattern.Compact
import LocalePaths.Proofs.Pattern.Divided

/-!
# Templates that are completed later

The template of a pattern under an environment of texts can be expanded with further values later on, with the
same result as if the pattern had been expanded with both at once (`Matcher.expand_expandPath`). Between the two
steps the template is text: it is read again as the tokens of the pattern with the values of the environment in
place (`Token.tokens_texts_of_isPlain`), since neither these values nor the characters of the pattern start a
wildcard or a variable.
-/

namespace LocalePaths

namespace Token
variable {atStart : Bool} {front s : Text} {k : Token} {ts us : List Token} {value later : Text → Option Text}
  {mode : Mode}

/-- The token is a character with which nothing else starts, or a variable other than `androidLocale`. -/
def IsPlain : Token → Prop
  | char c => c ≠ '*' ∧ c ≠ '\x7b'
  | name x => IsWord x ∧ x ≠ androidLocale
  | _ => False

theorem ReadAt.isPlain {t back : Text} (h : ReadAt front t back k) (parted : Parted front (t ++ back))
    (wild : '*' ∉ t) (brace : t[0]? = some '\x7b' → InVariable (front ++ (t ++ back)) front.length)
    (noAndroid : k ≠ name androidLocale) : k.IsPlain := by
  have nonempty := List.length_pos_of_ne_nil h.spelled.ne_nil
  have spelled := h.spelled
  cases k with
  | char c =>
    obtain rfl : t = [c] := spelled
    refine ⟨fun e => wild (List.mem_singleton.2 e.symm), ?_⟩
    rintro rfl
    obtain ⟨x, e⟩ := (h.inVariable_iff parted nonempty).1 (brace rfl)
    cases e
  | star =>
    obtain rfl : t = ['*'] := spelled
    exact wild List.mem_cons_self
  | starstar ending =>
    obtain ⟨rfl, -⟩ := spelled
    exact wild List.mem_cons_self
  | name x => exact ⟨(show IsBraced x t from spelled).1, fun e => noAndroid (congrArg name e)⟩

/-- All tokens are plain where no star occurs and every brace that opens belongs to a variable. -/
theorem isPlain_of_mem_tokens : ∀ {atStart : Bool} {front s : Text}, (atStart = true ↔ IsLead front) →
    Whole front s → Parted front s → '*' ∉ s →
      (∀ i, s[i]? = some '\x7b' → InVariable (front ++ s) (front.length + i)) →
      .name androidLocale ∉ tokens atStart s → ∀ k ∈ tokens atStart s, k.IsPlain := by
  intro atStart front s start whole parted wild brace noAndroid
  cases h : next? atStart s with
  | none =>
    obtain rfl := next?_eq_none h
    nofun
  | some found =>
    obtain ⟨k, back⟩ := found
    have shorter := length_of_next? h
    obtain ⟨t, rfl, read⟩ := exists_readAt h start whole
    have nonempty := List.length_pos_of_ne_nil read.spelled.ne_nil
    have wild := not_or.1 (mt List.mem_append.2 wild)
    rw [tokens_eq h] at noAndroid ⊢
    have noAndroid := not_or.1 (mt List.mem_cons.2 noAndroid)
    refine List.forall_mem_cons.2 ⟨read.isPlain parted wild.1 (fun first => ?_) (Ne.symm noAndroid.1), ?_⟩
    · exact brace 0 (by rwa [List.getElem?_append_left nonempty])
    · refine isPlain_of_mem_tokens read.spelled.isLead_iff read.whole (read.parted parted) wild.2
        (fun i hi => ?_) noAndroid.2
      rw [List.append_assoc, List.length_append, Nat.add_assoc]
      exact brace _ (by rwa [List.getElem?_append_right (Nat.le_add_right ..), Nat.add_sub_cancel_left])
termination_by _ _ s => s.length

theorem isPlain_of_mem_ofText (wild : '*' ∉ s) (brace : ∀ i, s[i]? = some '\x7b' → InVariable s i)
    (noAndroid : ∀ place, ¬OccursAt s place (name androidLocale)) : ∀ k ∈ ofText s, k.IsPlain := by
  have parted : Parted [] s := nofun
  refine isPlain_of_mem_tokens (iff_of_true rfl (.inl rfl)) (fun start _ _ => Nat.succ_ne_zero start) parted wild
    (fun i hi => ?_) (mt name_mem_ofText_iff.1 (not_exists.2 noAndroid))
  rw [List.length_nil, Nat.zero_add]
  exact brace i hi

theorem tokens_texts_of_isPlain : ∀ {atStart : Bool} {ts : List Token}, (∀ k ∈ ts, k.IsPlain) →
    tokens atStart (ts.flatMap text) = ts
  | _, [], _ => rfl
  | atStart, k :: ts, plain => by
    obtain ⟨hk, plain⟩ := List.forall_mem_cons.1 plain
    have first : next? atStart (k.text ++ ts.flatMap text) = some (k, ts.flatMap text) := by
      refine next?_eq_some.2 ?_
      cases k with
      | char c => exact ⟨rfl, hk.1, fun e => absurd e hk.2⟩
      | star | starstar => exact hk.elim
      | name x => exact ⟨_, List.append_assoc .., name?_eq_some.2 ⟨hk.1, 0, 0, rfl⟩⟩
    rw [List.flatMap_cons, tokens_eq first, tokens_texts_of_isPlain plain]

/-! ### Values in place -/

/-- The token, or the characters of the value that it names. -/
def fill (value : Text → Option Text) : Token → List Token
  | name x => ((value x).map fun t => t.map char).getD [name x]
  | k => [k]

theorem isPlain_of_mem_fill (plain : ∀ k ∈ ts, k.IsPlain)
    (values : ∀ x t, value x = some t → '*' ∉ t ∧ '\x7b' ∉ t) :
    ∀ k ∈ ts.flatMap (fill value), k.IsPlain := by
  intro k hk
  obtain ⟨k', hk', hk⟩ := List.mem_flatMap.1 hk
  have kept : k = k' → k.IsPlain := fun e => e ▸ plain k' hk'
  cases k' with
  | name x =>
    cases hx : value x with
    | none =>
      rw [fill, hx] at hk
      exact kept (List.mem_singleton.1 hk)
    | some t =>
      rw [fill, hx] at hk
      obtain ⟨c, hc, rfl⟩ := List.mem_map.1 (show k ∈ t.map char from hk)
      obtain ⟨wild, brace⟩ := values x t hx
      exact ⟨fun e => wild (e ▸ hc), fun e => brace (e ▸ hc)⟩
  | char | star | starstar => exact kept (List.mem_singleton.1 hk)

/-- What tokens are rendered to if the values of names are texts. -/
def rendered (value : Text → Option Text) (mode : Mode) : List Token → Rendered
  | [] => .written []
  | name x :: ts =>
    match value x, mode with
    | some t, _ => (rendered value mode ts).prepend t
    | none, .halt => ⟨[], some x⟩
    | none, .template => (rendered value mode ts).prepend (name x).text
  | k :: ts => (rendered value mode ts).prepend k.text

theorem rendered_chars (t : Text) (ts : List Token) :
    rendered value mode (t.map char ++ ts) = (rendered value mode ts).prepend t := by
  induction t with
  | nil => rfl
  | cons c t ih => exact congrArg (Rendered.prepend [c]) ih

theorem rendered_template (value : Text → Option Text) (ts : List Token) :
    rendered value .template ts = .written ((ts.flatMap (fill value)).flatMap text) := by
  induction ts with
  | nil => rfl
  | cons k ts ih =>
    have kept : ∀ t, (rendered value .template ts).prepend t =
        .written (t ++ (ts.flatMap (fill value)).flatMap text) := by
      intro t
      rw [ih]
      rfl
    cases k with
    | name x =>
      unfold rendered
      cases hx : value x with
      | none => simp [fill, hx, kept]
      | some t => simp [fill, hx, kept, List.flatMap_map, text]
    | char | star | starstar => exact (kept _).trans (by simp [fill])

theorem rendered_fill (value later : Text → Option Text) (ts : List Token) :
    rendered later .halt (ts.flatMap (fill value)) = rendered (fun x => (value x).or (later x)) .halt ts := by
  induction ts with
  | nil => rfl
  | cons k ts ih =>
    rw [List.flatMap_cons]
    cases k with
    | name x =>
      cases hx : value x with
      | none => simp [fill, rendered, hx, ih]
      | some t => simp [fill, rendered, hx, rendered_chars, ih]
    | char | star | starstar => exact congrArg (Rendered.prepend _) ih

end Token

/-! ### Rendering by tokens -/

section
variable {s : Scope} {mode : Mode} {d : Nat} {value : Text → Option Text}

theorem renderNodes_literal (t : Text) : renderNodes (d + 1) mode s [.literal t] = some (.written t) := by
  rw [renderNodes_cons]
  exact congrArg (fun u => some (Rendered.written u)) (List.append_nil t)

theorem renderNodes_flagAll (seen : List Text) (ns : List Node) :
    renderNodes (d + 1) mode s (Node.flagAll seen ns) = renderNodes (d + 1) mode s ns := by
  induction ns generalizing seen with
  | nil => rfl
  | cons n ns ih =>
    have first : renderNode (renderNodes d) mode s (n.flag seen) = renderNode (renderNodes d) mode s n := by
      cases n <;> rfl
    rw [Node.flagAll, renderNodes_cons, renderNodes_cons, first, ih]

namespace Pattern

theorem renderNodes_ofTokens_run (id : Nat) (run : Text) (ts : List Token) :
    renderNodes (d + 1) mode s (ofTokens id run ts) =
      (renderNodes (d + 1) mode s (ofTokens id [] ts)).map (Rendered.prepend run) := by
  rw [← renderNodes_split, split_ofTokens_run, renderNodes_letters, renderNodes_split]

theorem renderNodes_ofTokens (values : ∀ x, s.lookup x = (value x).map literal) :
    ∀ {ts : List Token}, (∀ k ∈ ts, k.IsPlain) → ∀ id,
      renderNodes (d + 2) mode s (ofTokens id [] ts) = some (Token.rendered value mode ts)
  | [], _, id => rfl
  | k :: ts, plain, id => by
    obtain ⟨hk, plain⟩ := List.forall_mem_cons.1 plain
    have later := renderNodes_ofTokens values plain id
    cases k with
    | char c => exact (renderNodes_ofTokens_run id [c] ts).trans (congrArg (Option.map _) later)
    | star | starstar => exact hk.elim
    | name x =>
      have node : ofTokens id [] (.name x :: ts) = .variable x false :: ofTokens id [] ts := by
        rw [ofTokens, if_neg hk.2]
        rfl
      rw [node, renderNodes_cons, renderNode, values, later]
      cases hx : value x with
      | some t => simp [Token.rendered, hx, literal, renderNodes_literal, Rendered.written]
      | none => cases mode <;> simp [Token.rendered, hx, Rendered.unresolved, Rendered.written, Token.text, Node.text]

theorem render_parse {t : Text} (values : ∀ x, s.lookup x = (value x).map literal)
    (plain : ∀ k ∈ Token.ofText t, k.IsPlain) :
    (parse t).render mode s = some (Token.rendered value mode (Token.ofText t)) := by
  obtain ⟨d, hd⟩ : ∃ d, s.depth = d + 2 := ⟨s.depth - 2, by have := s.two_le_depth; omega⟩
  have nodes : renderNodes s.depth mode s (parse t).nodes =
      some (Token.rendered value mode (Token.ofText t)) := by
    rw [hd]
    exact (renderNodes_flagAll [] _).trans (renderNodes_ofTokens values plain 1)
  exact render_eq_some.2 ⟨[], _, rfl, nodes, rfl⟩

end Pattern

end

namespace Matcher
variable {m : Matcher} {s : Text} {value : Text → Option Text}

def outcome : Rendered → Except PatternError Text
  | ⟨text, none⟩ => .ok text
  | ⟨_, some name⟩ => .error (.missingBinding name)

section
variable (pattern : m.pattern = .parse s) (plain : ∀ k ∈ Token.ofText s, k.IsPlain)
  (bound : ∀ x, m.env.get? x = (value x).map .literal)
include pattern plain bound

theorem template_of_isPlain : m.template = ((Token.ofText s).flatMap (Token.fill value)).flatMap Token.text := by
  have values : ∀ x, (Scope.of m.env).lookup x = (value x).map .literal := fun x =>
    (Scope.lookup_of m.env x).trans (bound x)
  rw [template, pattern, Pattern.render_parse values plain, Token.rendered_template]
  rfl

theorem expand_of_isPlain (b : Bindings) : m.expand b =
    outcome (Token.rendered (fun x => (value x).or (b.get? x)) .halt (Token.ofText s)) := by
  have values : ∀ x, (m.scopeFor b).lookup x = ((value x).or (b.get? x)).map .literal := by
    intro x
    rw [lookup_scopeFor, bound, Option.map_or]
  rw [expand, pattern, Pattern.render_parse values plain]
  obtain ⟨t, _ | x⟩ := Token.rendered (fun x => (value x).or (b.get? x)) .halt (Token.ofText s) <;> rfl

end

/-- Expanding a template with further values is the same as expanding the pattern with all values at once: the
result is the same text, or that the same name has no value. The pattern has no wildcards, opens braces only for
variables, and does not ask for the qualifier, which the first step would settle without the later locale. -/
theorem expand_expandPath {es : List (Text × Text)} (wild : '*' ∉ s)
    (brace : ∀ i, s[i]? = some '\x7b' → Token.InVariable s i)
    (noAndroid : ∀ place, ¬Token.OccursAt s place (.name androidLocale))
    (values : ∀ e ∈ es, '*' ∉ e.2 ∧ '\x7b' ∉ e.2) (cwd : Text) (b : Bindings) :
    let env := es.map fun e => (e.1, Pattern.parse e.2)
    let completed := (of (.parse (expandPath cwd none s env).value)).expand b
    completed = ((of (.parse s)).withEnv env).expand b ∧
      ((∃ t, completed = .ok t) ∨ ∃ x, completed = .error (.missingBinding x)) := by
  intro env completed
  let texts : Bindings := .ofList es
  let m := (of (.parse s)).withEnv env
  have plain := Token.isPlain_of_mem_ofText wild brace noAndroid
  have literals : env = es.map fun e => (e.1, Pattern.literal e.2) := List.map_congr_left fun e he => by
    rw [Pattern.parse_plain (values e he).1 (values e he).2]
  have bound : ∀ x, m.env.get? x = (texts.get? x).map .literal := fun x => by
    show ((of (.parse s)).withEnv env).env.get? x = _
    rw [literals]
    exact NameMap.get?_insertMany_map (m := .empty) Pattern.literal
  -- the template is read again as the tokens with the values in place
  let filled := (Token.ofText s).flatMap (Token.fill texts.get?)
  have template : (expandPath cwd none s env).value = filled.flatMap Token.text :=
    template_of_isPlain (m := m) rfl plain bound
  have unread : ∀ k ∈ filled, k.IsPlain :=
    Token.isPlain_of_mem_fill plain (NameMap.forall_insertMany nofun values)
  have read : Token.ofText (expandPath cwd none s env).value = filled :=
    (congrArg Token.ofText template).trans (Token.tokens_texts_of_isPlain unread)
  have later : completed = outcome (Token.rendered b.get? .halt filled) := by
    have unbound : ∀ x, NameMap.empty.get? x = ((fun _ => none : Text → Option Text) x).map Pattern.literal :=
      fun _ => rfl
    have second := expand_of_isPlain (m := of (.parse (expandPath cwd none s env).value)) rfl (read ▸ unread)
      unbound b
    rw [read] at second
    exact second
  have once := expand_of_isPlain (m := m) rfl plain bound b
  refine ⟨?_, ?_⟩
  · rw [later, Token.rendered_fill]
    exact once.symm
  · rw [later]
    obtain ⟨t, _ | x⟩ := Token.rendered b.get? .halt filled
    · exact .inl ⟨t, rfl⟩
    · exact .inr ⟨x, rfl⟩

/-- The directory of a locale, in which a base directory is put first. -/
def localeDir : Text := "\x7bl10n_base\x7d/\x7b locale \x7d/\x7bmodule\x7d".toList

def baseDir : Text × Text := ("l10n_base".toList, "../l10n".toList)

/-- Values that are written as they are, though they look like patterns, and one that comes too late. -/
def dirValues : Bindings := .ofList [(localeName, "de".toList), ("module".toList, "\x7bx\x7d*".toList),
  (baseDir.1, ['\x7b'])]

theorem localeDir_expand_expandPath :
    '*' ∉ localeDir ∧ (∀ i, localeDir[i]? = some '\x7b' → Token.InVariable localeDir i) ∧
    (∀ place, ¬Token.OccursAt localeDir place (.name androidLocale)) ∧
    (∀ e ∈ [baseDir], '*' ∉ e.2 ∧ '\x7b' ∉ e.2) ∧
    (of (.parse (expandPath [] none localeDir [(baseDir.1, .parse baseDir.2)]).value)).expand dirValues =
      ((of (.parse localeDir)).withEnv [(baseDir.1, .parse baseDir.2)]).expand dirValues := by
  have wild : '*' ∉ localeDir := by decide +kernel
  have brace : ∀ i, localeDir[i]? = some '\x7b' → Token.InVariable localeDir i := by
    have inside : ∀ i < localeDir.length, localeDir[i]? = some '\x7b' → Token.InVariable localeDir i := by
      decide +kernel
    exact fun i hi => inside i (List.getElem?_eq_some_iff.1 hi).1 hi
  have noAndroid : ∀ place, ¬Token.OccursAt localeDir place (.name androidLocale) := by
    have unread : .name androidLocale ∉ Token.ofText localeDir := by decide +kernel
    exact fun place h => unread (Token.name_mem_ofText_iff.2 ⟨place, h⟩)
  have values : ∀ e ∈ [baseDir], '*' ∉ e.2 ∧ '\x7b' ∉ e.2 := by decide +kernel
  exact ⟨wild, brace, noAndroid, values, (expand_expandPath wild brace noAndroid values [] dirValues).1⟩

example : (expandPath [] none localeDir [(baseDir.1, .parse baseDir.2)]).value =
    "../l10n/\x7blocale\x7d/\x7bmodule\x7d".toList := by decide +kernel

end Matcher

end LocalePaths
