import LocalePaths.Proofs.Failure
import LocalePaths.Proofs.Matcher.Language
import LocalePaths.Proofs.NameMap
import LocalePaths.Proofs.Piece.Written

/-!
# The regular expression of a matcher

The regular expression that a matcher writes is well formed, whatever its patterns bind and however
often they lead back to themselves, and all literal text in it stands for itself. How deep its groups
nest can be seen from the text, and only text with groups that nest too deep is refused
(`Matcher.regexSource_wellFormed`). A search for what is written gives the answers of the matcher
(`Matcher.answers_of_regexSource`), so it finds the paths that the pattern generates
(`Matcher.search?_regexSource`).
-/

namespace LocalePaths

namespace Piece
variable {env : Environment} {o o' : List Text} {ns : List Node} {ps : List Piece} {root : Text}

/-- The expression of a root and a translation is well formed. -/
theorem TranslatesAll.wellFormed (h : TranslatesAll env [] ns ps o') :
    Lexeme.WellFormed (wholeLexemes (.text root :: ps)) := by
  have balanced : Lexeme.level 0 (wholeLexemes (.text root :: ps)) = some 0 :=
    level_lexemesOf (.text root :: ps)
  have refers : Lexeme.Refers [] (wholeLexemes (.text root :: ps)) := by
    have : Lexeme.Refers [] (lexemesOf ps ++ [.symbol '$']) := h.refers trivial
    simpa [wholeLexemes, Lexeme.Refers, lexemesOf, lexemes] using this
  have openings : Lexeme.openings (wholeLexemes (.text root :: ps)) = groupsOf ps := by
    simp [wholeLexemes, Lexeme.openings, Lexeme.openings_append, lexemesOf, lexemes,
      openings_lexemesOf]
  exact Lexeme.wellFormed_of_refers balanced (openings ▸ h.nodup) refers

/-- The groups of an expression nest as deep as its pieces. -/
theorem nesting_wholeLexemes (ps : List Piece) : Lexeme.nesting 0 (wholeLexemes ps) = depths ps := by
  have : Lexeme.nesting 0 (lexemesOf ps ++ [.symbol '$']) = max (0 + depths ps) 0 :=
    nesting_lexemesOf ps
  simpa [wholeLexemes, Lexeme.nesting] using this

end Piece

namespace Matcher
variable {m : Matcher} {path : Text} {ps : List Piece}

/-- Only pieces that nest too deep are refused for it. -/
theorem nestLimit_le_depths {t : Text} (h : m.pieces? = some ps)
    (refused : m.usablePieces = .error (.tooDeep t)) : Regex.nestLimit ≤ Piece.depths ps := by
  unfold usablePieces at refused
  simp only [h] at refused
  split at refused
  · assumption
  · split at refused <;> cases refused

theorem usablePieces_of_captures {t : Text} (h : m.captures path = .error (.tooDeep t)) :
    m.usablePieces = .error (.tooDeep t) := by
  rcases bind_eq_error_iff.1 h with h | ⟨ps, -, h⟩
  · exact h
  · split at h <;> cases h

theorem usablePieces_of_isMatch {t : Text} (h : m.isMatch path = .error (.tooDeep t)) :
    m.usablePieces = .error (.tooDeep t) := by
  rcases bind_eq_error_iff.1 h with h | ⟨ps, -, h⟩
  · exact h
  · split at h <;> cases h

/-- The regular expression that a matcher writes can be read back as its root and its pieces, in which
all literal text stands for itself. It is well formed, and it is not refused for the depth of its groups
if they nest less deep than the limit. -/
theorem regexSource_wellFormed (hp : m.pattern.Formed) (he : ∀ x v, m.env.get? x = some v → v.Formed)
    (h : m.pieces?.isSome) :
    ∃ root ps opened ls, m.pattern.rootText (.of m.env) = some root ∧
      Piece.TranslatesAll m.env [] m.pattern.nodes ps opened ∧
      ls = .symbol '^' :: root.map .char ++ Piece.lexemesOf ps ++ [.symbol '$'] ∧
      Lexeme.ofText? m.regexSource = some ls ∧ Lexeme.WellFormed ls ∧
      (Lexeme.nesting 0 ls < Regex.nestLimit → ∀ path t,
        m.captures path ≠ .error (.tooDeep t) ∧ m.isMatch path ≠ .error (.tooDeep t)) := by
  obtain ⟨all, hall⟩ := Option.isSome_iff_exists.1 h
  have wfe : m.env.WellFormed := fun x v hv => (he x v hv).wellFormed
  obtain ⟨root, ps, o', hr, rfl, ht⟩ := translatesAll_of_pieces? hp.wellFormed wfe hall
  have source : m.regexSource = Piece.wholeSource (.text root :: ps) := by
    rw [regexSource, hall]
    rfl
  have legible : ∀ l ∈ Piece.wholeLexemes (.text root :: ps), l.IsLegible := by
    have nodes := ht.isLegible he hp.isWorded
    simp only [Piece.wholeLexemes, Piece.lexemesOf, Piece.lexemes, List.cons_append,
      List.forall_mem_cons, List.forall_mem_append]
    exact ⟨by simp [Lexeme.IsLegible], ⟨Piece.isLegible_map_char root, nodes⟩,
      by simp [Lexeme.IsLegible], List.forall_mem_nil _⟩
  have readBack : Lexeme.ofText? m.regexSource = some (Piece.wholeLexemes (.text root :: ps)) := by
    rw [source, Piece.wholeSource_eq]
    exact Lexeme.ofText?_flatMap legible
  refine ⟨root, ps, o', _, hr, ht, rfl, readBack, ht.wellFormed, fun shallow path t => ?_⟩
  have depth : Piece.depths (.text root :: ps) < Regex.nestLimit :=
    (Piece.nesting_wholeLexemes _).symm.trans_lt shallow
  have usable : m.usablePieces ≠ .error (.tooDeep t) := fun refused =>
    absurd depth (Nat.not_lt.2 (nestLimit_le_depths hall refused))
  exact ⟨fun e => usable (usablePieces_of_captures e), fun e => usable (usablePieces_of_isMatch e)⟩

/-- A matcher whose bindings lead back to each other, with a wildcard in its pattern and in a value. -/
def crossed : Matcher :=
  ((Matcher.of (.parse "{a}/*.x/{b}/{a}".toList)).withEnv
    [("a".toList, .parse "{b}*".toList), ("b".toList, .parse "{a}.y".toList)]).withRoot [] "/r+".toList

theorem crossed_regexSource : String.ofList crossed.regexSource =
      "^/r\\+/(?P<v_a>(?P<v_b>\\k<v_a>\\.y)(?P<s1>[^/]*))/(?:[^/]*)\\.x/\\k<v_b>/\\k<v_a>$" ∧
    ∃ ls, Lexeme.ofText? crossed.regexSource = some ls ∧ Lexeme.WellFormed ls ∧
      crossed.isMatch "/r+/a".toList ≠ .error (.tooDeep crossed.pattern.text) := by
  have pattern : crossed.pattern.Formed := (Pattern.Formed.parse _).withRoot _
  have formed : ∀ x v, crossed.env.get? x = some v → v.Formed := by
    refine NameMap.forall_insertMany (fun x v hv => ?_) ?_
    · cases hv
    · exact List.forall_mem_cons.2 ⟨.parse _, List.forall_mem_singleton.2 (.parse _)⟩
  have written : crossed.pieces?.isSome := by decide +kernel
  obtain ⟨-, -, -, ls, -, -, -, hls, wf, answered⟩ := regexSource_wellFormed pattern formed written
  have shallow : (Lexeme.ofText? crossed.regexSource).map (Lexeme.nesting 0) = some 2 := by
    decide +kernel
  rw [hls] at shallow
  have nesting : Lexeme.nesting 0 ls = 2 := Option.some.inj shallow
  refine ⟨by decide +kernel, ls, hls, wf, (answered ?_ _ _).2⟩
  rw [nesting]
  decide

/-! ### Searching for what is written -/

/-- The values of groups that go by their numbers. -/
def valuesByNumber (groups : List Text) (captures : Captures) : Bindings :=
  NameMap.ofList (groups.zipIdx.map fun (g, i) =>
    (Piece.bindingName g, (captures.get? (Regex.Read.labelOf (i + 1))).getD []))

theorem valuesByNumber_relabel {f : Text → Text} (hf : Function.Injective f) {groups : List Text}
    (numbered : Piece.Numbered f groups.reverse) (c : Cursor) :
    valuesByNumber groups (c.relabel f).captures = valuesOf groups c.captures := by
  have values := numbered.map_zipIdx fun g label =>
    (Piece.bindingName g, ((c.relabel f).captures.get? label).getD [])
  rw [List.reverse_reverse] at values
  unfold valuesByNumber valuesOf
  rw [values]
  simp only [Cursor.get?_relabel hf]

theorem translatesAll_wholeSource (hp : m.pattern.Formed) (he : ∀ x v, m.env.get? x = some v → v.Formed)
    (h : m.pieces? = some ps) : m.regexSource = Piece.wholeSource ps ∧
      ∃ ns o, Piece.TranslatesAll m.env [] ns ps o ∧ ∀ n ∈ ns, n.IsWorded := by
  have wfe : m.env.WellFormed := fun x v hv => (he x v hv).wellFormed
  obtain ⟨root, ps, o, -, rfl, ht⟩ := translatesAll_of_pieces? hp.wellFormed wfe h
  refine ⟨by rw [regexSource, h]; rfl, .literal root :: m.pattern.nodes, o, .cons .literal ht, ?_⟩
  exact List.forall_mem_cons.2 ⟨nofun, hp.isWorded⟩

/-- The regular expression that a matcher writes is refused exactly if the matcher refuses it for its depth. -/
theorem parse?_regexSource_eq_none (hp : m.pattern.Formed)
    (he : ∀ x v, m.env.get? x = some v → v.Formed) (h : m.pieces? = some ps) :
    Regex.parse? m.regexSource = none ↔ m.usablePieces = .error (.tooDeep m.pattern.text) := by
  obtain ⟨source, ns, o, ht, words⟩ := translatesAll_wholeSource hp he h
  rw [source, ht.parse?_wholeSource_eq_none he words]
  constructor
  · intro deep
    unfold usablePieces
    simp only [h, if_pos deep]
  · exact nestLimit_le_depths h

/-- A search for the regular expression that is written gives the answers of the matcher. The values are those
of its groups, which go by their numbers. -/
theorem answers_of_regexSource (hp : m.pattern.Formed) (he : ∀ x v, m.env.get? x = some v → v.Formed)
    (usable : m.usablePieces = .ok ps) :
    ∃ r, Regex.parse? m.regexSource = some r ∧ ∀ path,
      m.isMatch path = ((r.search? path).elim (.error (.undecided path)) .ok) ∧
      m.captures path = match r.search path with
        | .found c => .ok (some (addLocale (valuesByNumber (Piece.groupsOf ps) c.captures)))
        | .failed => .ok none
        | .gaveUp => .error (.undecided path) := by
  obtain ⟨written, shallow, -⟩ := usablePieces_eq_ok_iff.1 usable
  obtain ⟨source, ns, o, ht, words⟩ := translatesAll_wholeSource hp he written
  obtain ⟨f, r, hf, numbered, read, renames⟩ := ht.parse?_wholeSource he words shallow
  refine ⟨r, source ▸ read, fun path => ?_⟩
  rw [isMatch_eq, captures_eq, usable, Regex.search?, renames.search path]
  cases found : (Piece.whole ps).search path with
  | found c => simp [found, Verdict.map, valuesByNumber_relabel hf numbered]
  | failed => simp [found, Verdict.map]
  | gaveUp => simp [found, Verdict.map]

/-- The regular expression that is written matches exactly the paths that the pattern generates. -/
theorem search?_regexSource (hp : m.pattern.Formed) (he : ∀ x v, m.env.get? x = some v → v.Formed)
    (usable : m.usablePieces = .ok ps) : ∃ r, Regex.parse? m.regexSource = some r ∧
      ∀ path answer, r.search? path = some answer → (answer = true ↔ m.Generates path) := by
  obtain ⟨r, read, answers⟩ := answers_of_regexSource hp he usable
  refine ⟨r, read, fun path answer found => ?_⟩
  have isMatch : m.isMatch path = .ok answer := by rw [(answers path).1, found]; rfl
  obtain ⟨qs, hu, reads⟩ := isMatch_iff_reads isMatch
  rw [reads]
  exact reads_iff_generates hp.wellFormed (fun x v hv => (he x v hv).wellFormed) hu

end Matcher

end LocalePaths
