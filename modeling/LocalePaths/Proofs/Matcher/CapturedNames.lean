import LocalePaths.Proofs.Piece.Flat

/-!
# The names that are captured

Without an environment, what is captured are the wildcards and the variables of the pattern, and a locale
that is read off the Android qualifier if no variable captures it. If a variable has the name of a
wildcard, nothing is captured: the first such name is refused, whatever the path is
(`Matcher.captures_parse`).
-/

namespace LocalePaths

namespace Pattern
variable {p : Pattern} {x : Text} {id : Nat}

/-- A variable has the name of the wildcard with this number. -/
def Clashes (p : Pattern) (id : Nat) : Prop :=
  1 ≤ id ∧ id ≤ (Node.wildcards p.nodes).length ∧ starName id ∈ p.variableNames

theorem mem_variableNames (wf : p.WellFormed) : x ∈ p.variableNames ↔ x ∈ Node.names p.nodes :=
  Node.mem_unflagged_iff wf.flagged

theorem mem_wildcards (wf : p.WellFormed) :
    id ∈ Node.wildcards p.nodes ↔ 1 ≤ id ∧ id ≤ (Node.wildcards p.nodes).length := by
  conv_lhs => rw [wf.numbered, List.mem_range'_1]
  omega

theorem clashes_iff (wf : p.WellFormed) :
    p.Clashes id ↔ id ∈ Node.wildcards p.nodes ∧ starName id ∈ Node.names p.nodes := by
  rw [Clashes, mem_wildcards wf, mem_variableNames wf, and_assoc]

theorem isApart_iff_forall_not_clashes (wf : p.WellFormed) :
    Node.IsApart p.nodes ↔ ∀ id, ¬p.Clashes id := by
  simp only [clashes_iff wf, not_and]
  constructor
  · exact fun apart id wild named => apart _ named id wild rfl
  · rintro free x named id wild rfl
    exact free id wild named

end Pattern

namespace Matcher
variable {p : Pattern} {m : Matcher} {path x : Text} {b : Bindings} {ps : List Piece}

theorem answers_of_unusable {e : PatternError} (h : m.usablePieces = .error e) (path : Text) :
    m.captures path = .error e ∧ m.isMatch path = .error e := by
  rw [captures_eq, isMatch_eq, h]
  exact ⟨rfl, rfl⟩

theorem ne_duplicateBinding_of_usable (h : m.usablePieces = .ok ps) (path x : Text) :
    m.captures path ≠ .error (.duplicateBinding x) ∧ m.isMatch path ≠ .error (.duplicateBinding x) := by
  rw [captures_eq, isMatch_eq, h]
  dsimp only
  cases (Piece.whole ps).search path <;> simp

theorem usablePieces_of (wf : p.WellFormed) (unrooted : p.root = none) :
    ∃ ps, (Piece.groupsOf ps).map Piece.bindingName = Node.openings p.nodes ∧
      (Matcher.of p).usablePieces = (firstRepeated? [] (Node.openings p.nodes)).elim (.ok ps)
        fun x => .error (.duplicateBinding x) :=
  usablePieces_of_isFlat (m := .of p) wf (fun _ _ h => nomatch h) (fun _ _ h => nomatch h) unrooted

/-- If there is a clash, the one that is complete first is reported for every path. -/
theorem duplicateBinding_of_clashes (wf : p.WellFormed) (unrooted : p.root = none) {i : Nat}
    (clash : p.Clashes i) : ∃ id, p.Clashes id ∧ (∀ j, p.Clashes j → p.clashPlace id ≤ p.clashPlace j) ∧
      ∀ path, (Matcher.of p).captures path = .error (.duplicateBinding (starName id)) ∧
        (Matcher.of p).isMatch path = .error (.duplicateBinding (starName id)) := by
  obtain ⟨ps, -, usable⟩ := usablePieces_of wf unrooted
  cases first : firstRepeated? [] (Node.openings p.nodes) with
  | none =>
    have apart := wf.nodup_openings_iff.1 (firstRepeated?_eq_none_iff.1 first)
    exact absurd clash ((Pattern.isApart_iff_forall_not_clashes wf).1 apart i)
  | some x =>
    obtain ⟨front, back, split, nodup, -, again⟩ := exists_of_firstRepeated? first
    obtain ⟨id, wild, rfl, named, least⟩ :=
      Pattern.exists_firstClash wf split nodup (again.resolve_right List.not_mem_nil)
    refine ⟨id, (Pattern.clashes_iff wf).2 ⟨wild, named⟩, fun j hj => ?_, fun path => ?_⟩
    · obtain ⟨wild, named⟩ := (Pattern.clashes_iff wf).1 hj
      exact least j wild named
    · rw [first] at usable
      exact answers_of_unusable usable path

theorem ne_duplicateBinding_of_not_clashes (wf : p.WellFormed) (unrooted : p.root = none)
    (free : ∀ id, ¬p.Clashes id) (path x : Text) :
    (Matcher.of p).captures path ≠ .error (.duplicateBinding x) ∧
      (Matcher.of p).isMatch path ≠ .error (.duplicateBinding x) := by
  obtain ⟨ps, -, usable⟩ := usablePieces_of wf unrooted
  have apart := (Pattern.isApart_iff_forall_not_clashes wf).2 free
  rw [firstRepeated?_eq_none_iff.2 (wf.nodup_openings_iff.2 apart)] at usable
  exact ne_duplicateBinding_of_usable usable path x

/-- The values are those of the names that are opened, before a locale is added. -/
theorem exists_values (wf : p.WellFormed) (unrooted : p.root = none)
    (h : (Matcher.of p).captures path = .ok (some b)) : ∃ values : Bindings, addLocale values = b ∧
      ∀ x, (values.get? x).isSome ↔ x ∈ Node.openings p.nodes := by
  obtain ⟨ps, c, usable, -, rfl⟩ := captures_eq_some_iff.1 h
  obtain ⟨qs, names, usable'⟩ := usablePieces_of wf unrooted
  have distinct := (usablePieces_eq_ok usable).2
  obtain rfl : ps = qs := by
    rw [usable] at usable'
    cases first : firstRepeated? [] (Node.openings p.nodes) with
    | none =>
      rw [first] at usable'
      exact Except.ok.inj usable'
    | some x =>
      rw [first] at usable'
      cases usable'
  refine ⟨_, rfl, fun x => ?_⟩
  rw [← names]
  constructor
  · intro found
    by_contra absent
    rw [get?_valuesOf_eq_none absent] at found
    cases found
  · intro hx
    obtain ⟨g, hg, rfl⟩ := List.mem_map.1 hx
    rw [get?_valuesOf distinct hg]
    rfl

theorem mem_names_addLocale (values : Bindings) (x : Text) : x ∈ (addLocale values).names ↔
    (values.get? x).isSome ∨ x = localeName ∧ (values.get? androidLocale).isSome := by
  have contained : (addLocale values).contains x = ((addLocale values).get? x).isSome := rfl
  rw [← NameMap.contains_iff, contained, get?_addLocale_eq, Option.isSome_or, Bool.or_eq_true]
  refine or_congr_right ?_
  by_cases hx : x = localeName <;> simp [hx]

/-- What is captured are the wildcards, the variables, and a locale if there is a qualifier only. -/
theorem names_of_captures (wf : p.WellFormed) (unrooted : p.root = none)
    (h : (Matcher.of p).captures path = .ok (some b)) :
    (∀ x, x ∈ b.names ↔ (∃ id, 1 ≤ id ∧ id ≤ (Node.wildcards p.nodes).length ∧ x = starName id) ∨
      x ∈ p.variableNames ∨
        x = localeName ∧ androidLocale ∈ p.variableNames ∧ localeName ∉ p.variableNames) ∧
      (androidLocale ∈ p.variableNames → localeName ∉ p.variableNames → ∃ code,
        b.get? androidLocale = some code ∧ b.get? localeName = some (Qualifier.toTag code)) := by
  obtain ⟨values, rfl, found⟩ := exists_values wf unrooted h
  have opened (x : Text) : (values.get? x).isSome ↔
      (∃ id, 1 ≤ id ∧ id ≤ (Node.wildcards p.nodes).length ∧ x = starName id) ∨ x ∈ p.variableNames := by
    rw [found, Node.mem_openings wf.flagged, Pattern.mem_variableNames wf]
    refine or_congr_left (exists_congr fun id => ?_)
    rw [Pattern.mem_wildcards wf, and_assoc, eq_comm]
  have named {x : Text} (other : x.head? ≠ some 's') : (values.get? x).isSome ↔ x ∈ p.variableNames := by
    refine (opened x).trans (or_iff_right ?_)
    rintro ⟨id, -, -, e⟩
    exact starName_ne other id e.symm
  have locale := named (x := localeName) (by decide)
  have android := named (x := androidLocale) (by decide)
  constructor
  · intro x
    rw [mem_names_addLocale, android, opened, or_assoc]
    refine or_congr_right ?_
    by_cases hx : x = localeName
    · subst hx
      tauto
    · simp [hx]
  · intro coded foreign
    obtain ⟨code, hcode⟩ := Option.isSome_iff_exists.1 (android.2 coded)
    have free : values.get? localeName = none := by
      rw [← Option.not_isSome_iff_eq_none]
      exact mt locale.1 foreign
    exact ⟨code, get?_addLocale hcode, get?_addLocale_localeName free hcode⟩

/-- What is captured by the pattern of a text. If variables have names of wildcards, the name whose second
group opens first is refused for every path; otherwise no name is refused. The names that are captured are
those of the wildcards and of the variables, and `locale` if there is an Android qualifier without it. -/
theorem captures_parse (s : Text) :
    (∀ i, (Pattern.parse s).Clashes i → ∃ id, (Pattern.parse s).Clashes id ∧
      (∀ j, (Pattern.parse s).Clashes j →
        (Pattern.parse s).clashPlace id ≤ (Pattern.parse s).clashPlace j) ∧
      ∀ path, (Matcher.of (.parse s)).captures path = .error (.duplicateBinding (starName id)) ∧
        (Matcher.of (.parse s)).isMatch path = .error (.duplicateBinding (starName id))) ∧
    ((∀ id, ¬(Pattern.parse s).Clashes id) → ∀ path x,
      (Matcher.of (.parse s)).captures path ≠ .error (.duplicateBinding x) ∧
        (Matcher.of (.parse s)).isMatch path ≠ .error (.duplicateBinding x)) ∧
    ∀ path b, (Matcher.of (.parse s)).captures path = .ok (some b) →
      (∀ x, x ∈ b.names ↔
        (∃ id, 1 ≤ id ∧ id ≤ (Node.wildcards (Pattern.parse s).nodes).length ∧ x = starName id) ∨
        x ∈ (Pattern.parse s).variableNames ∨
        x = localeName ∧ androidLocale ∈ (Pattern.parse s).variableNames ∧
          localeName ∉ (Pattern.parse s).variableNames) ∧
      (androidLocale ∈ (Pattern.parse s).variableNames → localeName ∉ (Pattern.parse s).variableNames →
        ∃ code, b.get? androidLocale = some code ∧ b.get? localeName = some (Qualifier.toTag code)) := by
  have wf := Pattern.wellFormed_parse s
  refine ⟨fun i clash => ?_, fun free path x => ?_, fun path b captured => ?_⟩
  · exact duplicateBinding_of_clashes wf rfl clash
  · exact ne_duplicateBinding_of_not_clashes wf rfl free path x
  · exact names_of_captures wf rfl captured

/-- Both wildcards have namesakes. The group of the second variable `s1` opens before that of the second
wildcard. -/
def shadowed : Text := "{s2}*{s1}*".toList

def coded : Text := "values-{android_locale}/*".toList

theorem shadowed_coded_captures :
    (Matcher.of (.parse shadowed)).isMatch "a/b".toList = .error (.duplicateBinding "s1".toList) ∧
    (∀ path x, (Matcher.of (.parse coded)).isMatch path ≠ .error (.duplicateBinding x)) ∧
    ∃ b, (Matcher.of (.parse coded)).captures "values-de-rAT/a".toList = .ok (some b) ∧
      "s1".toList ∈ b.names ∧ "s2".toList ∉ b.names ∧ b.get? localeName = some "de-AT".toList := by
  refine ⟨?_, fun path x => ?_, ?_⟩
  · have one : (Pattern.parse shadowed).Clashes 1 := ⟨by decide, by decide +kernel, by decide +kernel⟩
    obtain ⟨id, ⟨low, high, -⟩, least, refused⟩ := (captures_parse shadowed).1 1 one
    have two : (Node.wildcards (Pattern.parse shadowed).nodes).length = 2 := by decide +kernel
    obtain rfl | rfl : id = 1 ∨ id = 2 := by omega
    · exact (refused _).2
    · exact absurd (least 1 one) (by decide +kernel)
  · have one : (Node.wildcards (Pattern.parse coded).nodes).length = 1 := by decide +kernel
    refine ((captures_parse coded).2.1 ?_ path x).2
    rintro id ⟨low, high, named⟩
    obtain rfl : id = 1 := by omega
    exact absurd named (by decide +kernel)
  · have captured : (Matcher.of (.parse coded)).captures "values-de-rAT/a".toList =
        .ok (some (.ofList [(androidLocale, "de-rAT".toList), ("s1".toList, ['a']),
          (localeName, "de-AT".toList)])) := by decide +kernel
    obtain ⟨names, locale⟩ := (captures_parse coded).2.2 _ _ captured
    refine ⟨_, captured, (names _).2 (.inl ⟨1, by decide, by decide +kernel, rfl⟩), ?_, ?_⟩
    · rw [names]
      rintro (⟨id, low, high, e⟩ | named | ⟨e, -⟩)
      · have one : (Node.wildcards (Pattern.parse coded).nodes).length = 1 := by decide +kernel
        obtain rfl : id = 1 := by omega
        exact absurd e (by decide +kernel)
      · exact absurd named (by decide +kernel)
      · exact absurd e (by decide)
    · obtain ⟨code, android, tag⟩ := locale (by decide +kernel) (by decide +kernel)
      obtain rfl : "de-rAT".toList = code :=
        Option.some.inj (Eq.trans (by decide +kernel) android)
      exact tag.trans (by decide +kernel)

end Matcher

end LocalePaths
