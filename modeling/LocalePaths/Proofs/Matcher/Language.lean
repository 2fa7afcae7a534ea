import LocalePaths.Proofs.Piece.Generation

/-!
# The language of a matcher

A path matches exactly if it is generated by the pattern: there is one text for each variable, the
same at all its occurrences and generated in turn by what the variable stands for, and the path is
the root followed by the texts of the nodes (`Matcher.isMatch_iff_generates`).
-/

namespace LocalePaths

open Piece Relation

namespace Matcher
variable {m : Matcher} {path : Text} {ps : List Piece}

/-- The path is the root of the pattern and a text that its nodes generate. -/
def Generates (m : Matcher) (path : Text) : Prop :=
  ∃ root r body, m.pattern.rootText (.of m.env) = some root ∧ path = root ++ body ∧
    m.env.GeneratesAll r Node.Spans m.pattern.nodes body

theorem reads_iff_generates (hp : m.pattern.WellFormed) (he : m.env.WellFormed)
    (h : m.usablePieces = .ok ps) : (∃ cs, ReadsAll ps [] path cs) ↔ m.Generates path := by
  obtain ⟨root, qs, o', hr, rfl, ht⟩ := translatesAll_of_usablePieces hp he h
  constructor
  · rintro ⟨cs, _, body, _, rfl, ⟨rfl, rfl⟩, hb⟩
    refine ⟨_, fun x => (cs.get? (groupName x)).getD [], body, hr, rfl, ?_⟩
    exact (generatesAll_of_reads (fun _ _ _ _ h _ => h) ht False.elim hb known_nil agrees_captures).1
  · rintro ⟨root', r, body, hr', rfl, hb⟩
    obtain rfl : root = root' := Option.some.inj (hr.symm.trans hr')
    have start : Captured r [] [] [] := fun _ => nofun
    have closed : ∀ y ∈ ([] : List Text), ∀ n ∈ m.pattern.nodes, ∀ x, n.variableName = some x →
        TransGen m.env.OccursIn x y := nofun
    obtain ⟨cs, hb, -⟩ := readsAll_of_generates ht hb closed start
    exact ⟨cs, root, body, [], rfl, ⟨rfl, rfl⟩, hb⟩

/-- Where matching gives an answer, the paths that match are exactly those that the pattern
generates. -/
theorem isMatch_iff_generates (hp : m.pattern.Formed)
    (he : ∀ x v, m.env.get? x = some v → v.Formed) {answer : Bool}
    (h : m.isMatch path = .ok answer) : answer = true ↔ m.Generates path := by
  obtain ⟨ps, hu, reads⟩ := isMatch_iff_reads h
  rw [reads]
  exact reads_iff_generates hp.wellFormed (fun x v hv => (he x v hv).wellFormed) hu

def nested : Matcher := (Matcher.of (.parse "{a}/{android_locale}/**/{a}".toList)).withEnv
  [("a".toList, .parse "x{b}".toList), (localeName, .parse "de-AT".toList)]

theorem nested_env_formed (x : Text) (v : Pattern) (h : nested.env.get? x = some v) : v.Formed := by
  simp only [nested, Matcher.withEnv, Matcher.of, NameMap.insertMany, List.foldl_cons,
    List.foldl_nil, NameMap.get?_insert, NameMap.get?_empty] at h
  split at h
  · exact Option.some.inj h ▸ .parse _
  · split at h
    · exact Option.some.inj h ▸ .parse _
    · cases h

theorem nested_generates : nested.Generates "xq/de-rAT/k/xq".toList ∧
    ¬nested.Generates "xq/de-rAT/k/xr".toList :=
  ⟨(isMatch_iff_generates (.parse _) nested_env_formed (by decide +kernel)).1 rfl,
    fun h => Bool.false_ne_true
      ((isMatch_iff_generates (.parse _) nested_env_formed (by decide +kernel)).2 h)⟩

end Matcher

end LocalePaths
