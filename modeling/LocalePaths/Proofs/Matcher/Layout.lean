import LocalePaths.Proofs.Failure
import LocalePaths.Proofs.Matcher.Captures
import LocalePaths.Proofs.Piece.Flat
import LocalePaths.Proofs.Piece.Lead

/-!
# Layouts of one tail

A layout is a pattern that starts with fixed text, in which only the locale is a variable, and goes on
with a tail (`Matcher.Layout`). The paths that match are the fixed text and what the tail generates from
the values, and the values expand to such a path. The tail is the same nodes whatever is in front of it.
So the paths of two layouts of one tail translate into each other (`Matcher.Layout.sub_of_sub`).
-/

namespace LocalePaths

open Piece

namespace Pattern
variable {x : Text} {ks ts : List Token} {id : Nat} {run : Text}

theorem wildcards_ofTokens_run : ∀ (ts : List Token) (run run' : Text),
    Node.wildcards (ofTokens id run ts) = Node.wildcards (ofTokens id run' ts)
  | [], _, _ => rfl
  | .char c :: ts, run, run' => wildcards_ofTokens_run ts (run ++ [c]) (run' ++ [c])
  | .star :: _, _, _ | .starstar _ :: _, _, _ | .name _ :: _, _, _ => by
    simp only [ofTokens, Node.wildcards_append, wildcards_literal?]

theorem wildcards_fixed (fixed : ∀ k ∈ ks, k.IsFixed x) (run : Text) :
    Node.wildcards (ofTokens id run (ks ++ ts)) = Node.wildcards (ofTokens id [] ts) := by
  induction ks generalizing run with
  | nil => exact wildcards_ofTokens_run ts run []
  | cons k ks ih =>
    obtain ⟨hk, hks⟩ := List.forall_mem_cons.1 fixed
    rcases hk with ⟨c, rfl⟩ | rfl
    · exact ih hks (run ++ [c])
    · rw [List.cons_append, ofTokens, Node.wildcards_append, wildcards_literal?, Node.wildcards_cons,
        ih hks []]
      split <;> rfl

theorem ofTokens_plain (s : Text) :
    ∀ run : Text, ofTokens id run (s.map .char) = [.literal (run ++ s)] := by
  induction s with
  | nil => simp [ofTokens]
  | cons c s ih =>
    intro run
    rw [List.map_cons, ofTokens, ih, List.append_assoc]
    rfl

theorem parse_plain {s : Text} (wild : '*' ∉ s) (brace : '\x7b' ∉ s) : parse s = .literal s := by
  have nodes : Token.ofText s = s.map .char := Token.tokens_plain true wild brace
  rw [parse, nodes, ofTokens_plain]
  rfl

end Pattern

namespace Matcher

/-- The pattern is fixed tokens and then the tail `ts`, and no name is bound in it but the locale. -/
structure Layout (m : Matcher) (locale : Text) (ks ts : List Token) : Prop where
  parsed : ∃ s, m.pattern = .parse s ∧ Token.ofText s = ks ++ ts
  fixed : ∀ k ∈ ks, k.IsFixed localeName
  bound : ∀ x v, m.env.get? x = some v → x = localeName ∧ v = .literal locale
  located : .name localeName ∈ ks → m.env.get? localeName = some (.literal locale)
  foreign : ∀ x, .name x ∈ ts → x ≠ localeName ∧ x ≠ androidLocale

/-- The values generate the text from the tail. -/
def Tail (ts : List Token) (b : Bindings) (t : Text) : Prop :=
  Environment.GeneratesAll .empty b.value (Fills b) (Pattern.ofTokens 1 [] ts) t

theorem sub_eq_some_iff {m m' : Matcher} {p r : Text} : m.sub m' p = .ok (some r) ↔
    ∃ b, m.captures p = .ok (some b) ∧ m'.expand b = .ok r := by
  unfold sub
  rw [bind_eq_ok_iff]
  constructor
  · rintro ⟨_ | b, hc, h⟩
    · cases h
    · obtain ⟨_, he, e⟩ := bind_eq_ok_iff.1 h
      cases e
      exact ⟨b, hc, he⟩
  · rintro ⟨b, hc, he⟩
    exact ⟨some b, hc, bind_eq_ok_iff.2 ⟨r, he, rfl⟩⟩

namespace Layout
variable {m m' : Matcher} {locale path t x : Text} {ks ks' ts : List Token} {b : Bindings}
  {source : Option Text} {p : Pattern}

theorem nodes (h : m.Layout locale ks ts) :
    m.pattern.nodes = Node.flagAll [] (Pattern.ofTokens 1 [] (ks ++ ts)) := by
  obtain ⟨s, hs, tokens⟩ := h.parsed
  rw [hs, Pattern.parse, tokens]

theorem rootless (h : m.Layout locale ks ts) : m.pattern.root = none := by
  obtain ⟨s, hs, -⟩ := h.parsed
  rw [hs]
  rfl

theorem formed (h : m.Layout locale ks ts) : m.pattern.Formed := by
  obtain ⟨s, hs, -⟩ := h.parsed
  exact hs ▸ .parse s

theorem formed_env (h : m.Layout locale ks ts) (x : Text) (v : Pattern)
    (hv : m.env.get? x = some v) : v.Formed :=
  (h.bound x v hv).2 ▸ .literal locale

theorem isFlat (h : m.Layout locale ks ts) : m.env.IsFlat := fun x v hv =>
  ⟨locale, (h.bound x v hv).2 ▸ rfl⟩

theorem unbound (h : m.Layout locale ks ts) (hx : x ≠ localeName) : m.env.get? x = none :=
  Option.eq_none_iff_forall_ne_some.2 fun v hv => hx (h.bound x v hv).1

theorem mem_names (h : m.Layout locale ks ts) :
    x ∈ Node.names m.pattern.nodes ↔ .name x ∈ ks ∨ .name x ∈ ts := by
  rw [h.nodes, Node.names_flagAll, Pattern.names_ofTokens, Token.mem_words, List.mem_append]

theorem wildcards (h : m.Layout locale ks ts) :
    Node.wildcards m.pattern.nodes = Node.wildcards (Pattern.ofTokens 1 [] ts) := by
  rw [h.nodes, Node.wildcards_flagAll, Pattern.wildcards_fixed h.fixed]

theorem eq_localeName (h : m.Layout locale ks ts) (hx : .name x ∈ ks) : x = localeName := by
  rcases h.fixed _ hx with ⟨c, e⟩ | e <;> cases e
  rfl

theorem noAndroid (h : m.Layout locale ks ts) : androidLocale ∉ Node.names m.pattern.nodes := by
  rw [h.mem_names]
  rintro (hx | hx)
  · exact absurd (h.eq_localeName hx) (by decide)
  · exact (h.foreign _ hx).2 rfl

theorem eq_literal_of_uses (h : m.Layout locale ks ts) (hp : m.Uses source p) :
    source = none ∧ p = m.pattern ∨ p = .literal locale := by
  cases hp with
  | own => exact .inl ⟨rfl, rfl⟩
  | value _ _ hv => exact .inr (h.bound _ _ hv).2

theorem reversible (h : m.Layout locale ks ts) : m.Reversible where
  rootless := h.rootless
  noAndroid source p hp repeated hn := by
    rcases h.eq_literal_of_uses hp with ⟨-, rfl⟩ | rfl
    · exact h.noAndroid (Node.mem_names.2 ⟨_, hn, rfl⟩)
    · cases List.mem_singleton.1 hn
  unbound id := h.unbound (starName_ne (by decide) id)
  single source source' p p' hp hp' hw hw' := by
    have own : ∀ {source p}, m.Uses source p → p.hasWildcard = true → source = none := by
      intro source p hp hw
      rcases h.eq_literal_of_uses hp with ⟨rfl, -⟩ | rfl
      · rfl
      · cases hw
    rw [own hp hw, own hp' hw']

theorem unrooted (h : m.Layout locale ks ts) : m.unrooted = m := by
  rw [Matcher.unrooted, Pattern.withRoot, ← h.rootless]

/-! ### Paths and values -/

theorem resolves_none (h : m.Layout locale ks ts) (hx : .name x ∈ ts) : m.env.Resolves x none := by
  obtain ⟨other, named⟩ := h.foreign x hx
  have value : m.env.Resolves x ((m.env.get? x).map (·.nodes)) := .binding named
  rwa [h.unbound other] at value

theorem resolves_locale (h : m.Layout locale ks ts) (hx : .name localeName ∈ ks) :
    m.env.Resolves localeName (some [.literal locale]) := by
  have value : m.env.Resolves localeName ((m.env.get? localeName).map (·.nodes)) :=
    .binding (by decide)
  rwa [h.located hx] at value

/-- A path that matches is the fixed text and what the tail generates from the values. -/
theorem tail_of_captures (h : m.Layout locale ks ts) (hc : m.captures path = .ok (some b)) :
    ∃ t, path = Token.fixedText locale ks ++ t ∧ Tail ts b t := by
  obtain ⟨root, body, hr, rfl, hg⟩ :=
    generatesAll_of_captures h.formed h.formed_env (h.unrooted ▸ h.reversible) hc
  obtain rfl := Option.some.inj (hr.symm.trans (rootText_of_rootless h.rootless _))
  rw [h.nodes, Environment.generatesAll_flagAll] at hg
  have var : .name localeName ∈ ks → ∀ t,
      m.env.Generates b.value (Fills b) (.variable localeName false) t → t = locale := by
    intro hx t ht
    obtain ⟨rfl, ⟨free, -⟩ | ⟨ns, value, ht⟩⟩ := (Environment.generates_variable rfl).1 ht
    · cases free.unique (h.resolves_locale hx)
    · cases value.unique (h.resolves_locale hx)
      exact Environment.generatesAll_literal.1 ht
  obtain ⟨t, rfl, ht⟩ := Pattern.fixedText_of_generates (by decide) var h.fixed hg
  refine ⟨t, rfl, Environment.GeneratesAll.congr ht (fun x hx => ?_) fun _ _ hw => hw⟩
  rw [Pattern.names_ofTokens, Token.mem_words] at hx
  exact ⟨h.resolves_none hx, .binding (h.foreign x hx).2, rfl⟩

/-- What variables generate: the locale where it is bound, else their values. -/
def texts (m : Matcher) (locale : Text) (b : Bindings) (x : Text) : Text :=
  if (m.env.get? x).isSome then locale else b.value x

theorem generatesAll_of_tail (h : m.Layout locale ks ts) (ht : Tail ts b t) :
    m.env.GeneratesAll (texts m locale b) (Fills b) m.pattern.nodes
      (Token.fixedText locale ks ++ t) := by
  rw [h.nodes, Environment.generatesAll_flagAll]
  refine Pattern.generates_fixedText (by decide) (fun hx => ?_) h.fixed
    (ht.congr (fun x hx => ?_) fun _ _ hw => hw)
  · refine (Environment.generates_variable rfl).2 ⟨?_, .inr ⟨_, h.resolves_locale hx, ?_⟩⟩
    all_goals simp [texts, h.located hx, Environment.generatesAll_literal]
  · rw [Pattern.names_ofTokens, Token.mem_words] at hx
    refine ⟨.binding (h.foreign x hx).2, h.resolves_none hx, ?_⟩
    rw [texts, h.unbound (h.foreign x hx).1]
    rfl

/-- The values from which the tail generates a text expand to the fixed text and this text. -/
theorem expand_of_tail (h : m.Layout locale ks ts) (ht : Tail ts b t) :
    m.expand b = .ok (Token.fixedText locale ks ++ t) := by
  have used := usesNodes h.formed h.formed_env
  have free : ∀ x, m.env.Resolves x none → m.env.get? x = none → texts m locale b x ≠ [] →
      b.get? x = some (texts m locale b x) := by
    intro x _ hx
    rw [texts, hx]
    exact Bindings.get?_of_value_ne_nil
  have written := writes_scopeFor h.reversible.direct free used
    ((h.generatesAll_of_tail ht).mono fun _ _ hw => hw.2)
  have expanded := expand_of_writes (rootText_of_rootless h.rootless _) written
  exact expanded

/-! ### Two layouts -/

theorem isApart_iff (h : m.Layout locale ks ts) :
    Node.IsApart m.pattern.nodes ↔ Node.IsApart (Pattern.ofTokens 1 [] ts) := by
  unfold Node.IsApart
  simp only [h.mem_names, h.wildcards, Pattern.names_ofTokens, Token.mem_words]
  constructor
  · exact fun apart x hx => apart x (.inr hx)
  · rintro apart x (hx | hx) id hi
    · rw [h.eq_localeName hx]
      exact (starName_ne (by decide) id).symm
    · exact apart x hx id hi

theorem usablePieces_iff (h : m.Layout locale ks ts) :
    (∃ ps, m.usablePieces = .ok ps) ↔ Node.IsApart (Pattern.ofTokens 1 [] ts) :=
  (usablePieces_iff_isApart h.formed.wellFormed (fun x v hv => (h.formed_env x v hv).wellFormed) h.isFlat
    h.rootless).trans h.isApart_iff

/-- A path of one layout that is the translation of a path of another translates back to it, unless
matching gives up. -/
theorem sub_of_sub {p r : Text} (h : m.Layout locale ks ts) (h' : m'.Layout locale ks' ts)
    (hs : m.sub m' p = .ok (some r)) (decided : m'.sub m r ≠ .error (.undecided r)) :
    m'.sub m r = .ok (some p) := by
  obtain ⟨b, hc, he⟩ := sub_eq_some_iff.1 hs
  obtain ⟨t, rfl, ht⟩ := h.tail_of_captures hc
  cases he.symm.trans (h'.expand_of_tail ht)
  -- the other layout matches the path as well, though perhaps with other values
  obtain ⟨ps, _, hu, -⟩ := reads_of_captures hc
  obtain ⟨ps', hu'⟩ := h'.usablePieces_iff.2 (h.usablePieces_iff.1 ⟨ps, hu⟩)
  have generates : m'.Generates (Token.fixedText locale ks' ++ t) :=
    ⟨[], texts m' locale b, _, rootText_of_rootless h'.rootless _, rfl,
      (h'.generatesAll_of_tail ht).mono fun _ _ hw => hw.1⟩
  obtain ⟨b', hc'⟩ := captures_of_generates h'.formed h'.formed_env hu' generates fun gaveUp =>
    decided (bind_eq_error_iff.2 (.inl gaveUp))
  obtain ⟨t', same, ht'⟩ := h'.tail_of_captures hc'
  obtain rfl := List.append_cancel_left same
  exact sub_eq_some_iff.2 ⟨b', hc', h.expand_of_tail ht'⟩

end Layout

end Matcher

end LocalePaths
