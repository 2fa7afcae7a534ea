import LocalePaths.Proofs.Matcher.Shared
import LocalePaths.Proofs.Regex.Forward

/-!
# A root is a prefix

The root of a pattern is put as text in front of its pieces, which look forward only. So a matcher under
a root matches the root followed by what the matcher alone matches, with the same values, and a root
that is left out changes nothing (`Matcher.captures_withRoot`).
-/

namespace LocalePaths

namespace Piece
variable {t path : Text} {ps : List Piece} {d : Cursor}

/-- The expression that matches the rest of a text as `ps` do. -/
def toEnd (ps : List Piece) : Regex := .seq (regexes ps) (.anchor .textEnd)

theorem looksForward_toEnd (ps : List Piece) : (toEnd ps).LooksForward :=
  ⟨looksForward_regexes ps, fun _ _ _ => rfl⟩

theorem search_whole_eq_found :
    (whole ps).search path = .found d ↔ (toEnd ps).matchAt (.start path) = .found d := by
  have anchored : whole ps = Regex.anchored (toEnd ps) := rfl
  rw [anchored, Regex.search_anchored, Regex.matchAt_anchored]

theorem search_text_cons : (whole (text t :: ps)).search path = .found d ↔
    (Regex.seq (.text t) (toEnd ps)).matchAt (.start path) = .found d := by
  have regrouped : (toEnd (text t :: ps)).matchAt (.start path) =
      (Regex.seq (.text t) (toEnd ps)).matchAt (.start path) :=
    Regex.matchAt_seq_assoc (q := .text t) (s := .anchor .textEnd) trivial (isPlain_regexes ps) trivial _
  rw [search_whole_eq_found, regrouped]

/-- Text in front of pieces is matched as it stands, and the pieces match what is behind it as they do
without the text. -/
theorem search_text_cons_eq_found : (whole (text t :: ps)).search path = .found d ↔
    ∃ rest c, path = t ++ rest ∧ (whole (text [] :: ps)).search rest = .found c ∧ c.after t = d := by
  have forward := looksForward_toEnd ps
  have alone (rest : Text) (c : Cursor) : (whole (text [] :: ps)).search rest = .found c ↔
      (toEnd ps).matchAt (.start rest) = .found c := by
    rw [search_text_cons, Regex.matchAt_seq_text forward.isPlain]
    rfl
  simp only [search_text_cons, alone]
  constructor
  · intro found
    have front : t <+: path := by
      rw [Regex.matchAt_seq_text forward.isPlain] at found
      split at found
      · exact List.isPrefixOf_iff_prefix.1 ‹_›
      · cases found
    obtain ⟨rest, rfl⟩ := front
    rw [Regex.matchAt_text_append forward, Verdict.map_eq_found] at found
    obtain ⟨c, found, moved⟩ := found
    exact ⟨rest, c, rfl, found, moved⟩
  · rintro ⟨rest, c, rfl, found, moved⟩
    rw [Regex.matchAt_text_append forward, Verdict.map_eq_found]
    exact ⟨c, found, moved⟩

end Piece

open Piece

namespace Matcher
variable {m m' : Matcher} {path cwd root t : Text} {b : Bindings} {ps : List Piece} {opened : List Text}

/-- The text of the first node as far as the environment determines it. -/
def leadText? (m : Matcher) : Option Text :=
  (renderNodes (Scope.of m.env).depth .halt (.of m.env) (m.pattern.nodes.take 1)).map (·.text)

theorem pieces?_eq (m : Matcher) : m.pieces? = (m.pattern.rootText (.of m.env)).bind fun front =>
    (ofNodes (Scope.of m.env).depth (.of m.env) [] m.pattern.nodes).map fun r => text front :: r.1 := by
  simp only [Option.map_eq_bind]
  rfl

theorem rootText_withRoot (m : Matcher) (cwd root : Text) :
    (m.withRoot cwd root).pattern.rootText (.of m.env) = m.leadText?.map fun lead =>
      if lead.head? = some '/' then [] else Path.rootDirectory cwd root := by
  unfold leadText?
  rw [Option.map_map]
  rfl

/-- Under a root the pieces are the same behind the root, which is left out if the first node starts
with a separator. -/
theorem pieces?_withRoot (unrooted : m.pattern.root = none)
    (h : (m.withRoot cwd root).pieces? = some ps) : ∃ lead qs, m.leadText? = some lead ∧
      m.pieces? = some (.text [] :: qs) ∧
      ps = .text (if lead.head? = some '/' then [] else Path.rootDirectory cwd root) :: qs := by
  rw [pieces?_eq, Option.bind_eq_some_iff] at h
  obtain ⟨front, hfront, h⟩ := h
  obtain ⟨lead, hlead, rfl⟩ := Option.map_eq_some_iff.1 ((rootText_withRoot m cwd root).symm.trans hfront)
  obtain ⟨⟨qs, opened⟩, hqs, rfl⟩ := Option.map_eq_some_iff.1 h
  refine ⟨lead, qs, hlead, ?_, rfl⟩
  rw [pieces?_eq, rootText_of_rootless unrooted, Option.bind_some]
  exact congrArg (Option.map _) hqs

/-- With the root in front of the pieces, a matcher matches behind the root as it does without it. -/
theorem captures_of_pieces (hm : m.pieces? = some (.text [] :: ps))
    (hm' : m'.pieces? = some (.text t :: ps)) : m'.captures path = .ok (some b) ↔
      ∃ rest, path = t ++ rest ∧ m.captures rest = .ok (some b) := by
  simp only [captures_eq_some_iff, usablePieces_eq_ok_iff, hm, hm']
  constructor
  · rintro ⟨_, d, ⟨⟨⟩, shallow, distinct⟩, found, rfl⟩
    obtain ⟨rest, c, rfl, alone, rfl⟩ := search_text_cons_eq_found.1 found
    exact ⟨rest, rfl, _, c, ⟨rfl, shallow, distinct⟩, alone, rfl⟩
  · rintro ⟨rest, rfl, _, c, ⟨⟨⟩, shallow, distinct⟩, found, rfl⟩
    exact ⟨_, c.after t, ⟨rfl, shallow, distinct⟩,
      search_text_cons_eq_found.2 ⟨rest, c, rfl, found, rfl⟩, rfl⟩

/-- A root is a prefix to all paths that match and changes none of the values, unless the first node
starts with a separator; then it changes nothing. -/
theorem captures_withRoot (unrooted : m.pattern.root = none)
    (writes : (m.withRoot cwd root).pieces? ≠ none) : ∃ lead, m.leadText? = some lead ∧
      (lead.head? = some '/' → ∀ path, (m.withRoot cwd root).captures path = m.captures path) ∧
      (lead.head? ≠ some '/' → ∀ path b, (m.withRoot cwd root).captures path = .ok (some b) ↔
        ∃ rest, path = Path.rootDirectory cwd root ++ rest ∧ m.captures rest = .ok (some b)) := by
  obtain ⟨ps, hm'⟩ := Option.ne_none_iff_exists'.1 writes
  obtain ⟨lead, qs, hlead, hm, rfl⟩ := pieces?_withRoot unrooted hm'
  refine ⟨lead, hlead, fun slash path => ?_, fun inside path b => ?_⟩
  · rw [if_pos slash, ← hm] at hm'
    have usable : (m.withRoot cwd root).usablePieces = m.usablePieces := by
      unfold usablePieces
      rw [hm']
      rfl
    rw [captures_eq, captures_eq, usable]
  · rw [if_neg inside] at hm'
    exact captures_of_pieces hm hm'

/-- A tray is bound to a relative path, a shelf to an absolute one. -/
def tray : Matcher := withOne "{base}/*.ftl".toList "base".toList "l10n/{locale}".toList

theorem tray_captures_withRoot :
    (tray.withRoot ['/'] "/r".toList).captures "/r/l10n/de/a.ftl".toList =
      .ok (some (.ofList [("base".toList, "l10n/de".toList), (localeName, "de".toList),
        ("s1".toList, ['a'])])) ∧
    (shelf.withRoot ['/'] "/r".toList).captures "/l10n/de/a.ftl".toList =
      shelf.captures "/l10n/de/a.ftl".toList := by
  have root : Path.rootDirectory ['/'] "/r".toList = "/r/".toList := by decide +kernel
  constructor
  · have writes : (tray.withRoot ['/'] "/r".toList).pieces? ≠ none :=
      Option.isSome_iff_ne_none.1 (by decide +kernel)
    obtain ⟨lead, text, -, behind⟩ := captures_withRoot rfl writes
    have relative : tray.leadText? = some "l10n/".toList := by decide +kernel
    obtain rfl := Option.some.inj (text.symm.trans relative)
    refine (behind (by decide) _ _).2 ⟨"l10n/de/a.ftl".toList, ?_, by decide +kernel⟩
    rw [root]
    rfl
  · have writes : (shelf.withRoot ['/'] "/r".toList).pieces? ≠ none :=
      Option.isSome_iff_ne_none.1 (by decide +kernel)
    obtain ⟨lead, text, same, -⟩ := captures_withRoot rfl writes
    have absolute : shelf.leadText? = some "/l10n/".toList := by decide +kernel
    obtain rfl := Option.some.inj (text.symm.trans absolute)
    exact same (by decide) _

end Matcher

end LocalePaths
