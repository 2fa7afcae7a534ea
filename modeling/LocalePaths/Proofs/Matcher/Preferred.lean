import LocalePaths.Proofs.Matcher.Shared
import LocalePaths.Proofs.Piece.Preference

/-!
# Captures are the preferred decomposition

A path matches exactly if it can be taken apart into texts of the nodes of the pattern, and what is captured
are the texts of the preferred one of all decompositions (`Matcher.captures_preferred`).
-/

namespace LocalePaths

open Piece Portion

namespace Matcher
variable {m : Matcher} {path : Text} {ps : List Piece}

/-- The portions are a way to take the path apart into the root and the texts of the nodes. -/
def Decomposition (m : Matcher) (path : Text) (ds : List Portion) : Prop :=
  ∃ root, m.pattern.rootText (.of m.env) = some root ∧
    m.env.DecomposesAll [] (.literal root :: m.pattern.nodes) path ds

/-- All ways to read a path are listed with its decompositions, the preferred one first. -/
theorem exists_decompositions (hp : m.pattern.Formed) (he : ∀ x v, m.env.get? x = some v → v.Formed)
    (hu : m.usablePieces = .ok ps) (path : Text) : ∃ ranks : List (List Portion × Cursor),
      ranks.map Prod.snd = wholeOutcomes ps path ∧
      (∀ e ∈ ranks, m.Decomposition path e.1 ∧ Tracks m.env (groupsOf ps) [] e.2.captures e.1) ∧
      (∀ ds, m.Decomposition path ds → ∃ e ∈ ranks, e.1 = ds) ∧
      ranks.Pairwise fun d e => Earlier d.1 e.1 := by
  obtain ⟨root, qs, o, hr, rfl, ht⟩ :=
    translatesAll_of_usablePieces hp.wellFormed (fun x v hv => (he x v hv).wellFormed) hu
  have ht : TranslatesAll m.env [] (.literal root :: m.pattern.nodes) (.text root :: qs) o :=
    .cons .literal ht
  obtain ⟨ranks, h⟩ : ∃ ranks, Ranks (m.env.DecomposesAll [] (.literal root :: m.pattern.nodes))
      (Tracks m.env o []) (.start path) ((regexes _).outcomes (.start path)) ranks :=
    exists_ranksAll ht nofun tracks_nil
  have groups : ∀ g, g ∈ o ↔ g ∈ groupsOf (.text root :: qs) := fun g =>
    ht.mem_iff.trans (or_iff_left List.not_mem_nil)
  refine ⟨ranks.filter fun e => e.2.rest.isEmpty, ?_, ?_, ?_, h.sorted.filter _⟩
  · rw [wholeOutcomes, ← h.outcomes, List.filter_map]
    rfl
  · intro e he
    obtain ⟨he, last⟩ := List.mem_filter.1 he
    obtain ⟨u, hu, hD, hI⟩ := h.sound e he
    have read : path = u := by
      rw [List.isEmpty_iff.1 last, List.append_nil] at hu
      exact hu
    exact ⟨⟨root, hr, read ▸ hD⟩, { hI with opened := fun g => (groups g).symm.trans (hI.opened g) }⟩
  · rintro ds ⟨root', hr', hD⟩
    cases hr.symm.trans hr'
    obtain ⟨e, he, same, last⟩ := h.complete path [] ds (List.append_nil path).symm hD
    exact ⟨e, List.mem_filter.2 ⟨he, List.isEmpty_iff.2 last⟩, same⟩

/-- Slots with the same name have the same group, so that the first portion with the name is the first one
of its slot. -/
theorem valueOf_eq_textAt {ds : List Portion} {slot : Slot}
    (same : ∀ d ∈ ds, d.slot.name = slot.name → d.slot = slot) : valueOf ds slot.name = textAt ds slot := by
  unfold valueOf textAt
  congr 1
  refine List.find?_congr fun d hd => decide_eq_decide.2 ⟨same d hd, fun e => by rw [e]⟩

/-- The value of a group is the text of the first portion with its name. -/
theorem get?_valuesOf_of_tracks {cs : Captures} {ds : List Portion} {groups : List Text}
    (distinct : firstRepeated? [] (groups.map bindingName) = none) (h : Tracks m.env groups [] cs ds)
    (name : Text) : (valuesOf groups cs).get? name = valueOf ds name := by
  have opened : ∀ d ∈ ds, d.slot.group ∈ groups := fun d hd =>
    (h.opened _).2 ⟨d.slot, rfl, .inl (isSome_textAt.2 ⟨d, hd, rfl⟩)⟩
  by_cases taken : ∃ d ∈ ds, d.slot.name = name
  · obtain ⟨d, hd, rfl⟩ := taken
    have nodup := (nodup_of_firstRepeated? distinct).1
    have same : ∀ e ∈ ds, e.slot.name = d.slot.name → e.slot = d.slot := fun e he names => by
      rw [← e.slot.bindingName_group, ← d.slot.bindingName_group] at names
      exact Slot.group_injective (List.inj_on_of_nodup_map nodup (opened e he) (opened d hd) names)
    obtain ⟨t, ht⟩ := Option.isSome_iff_exists.1 (isSome_textAt.2 ⟨d, hd, rfl⟩)
    have captured : (cs.get? d.slot.group).getD [] = (textAt ds d.slot).getD [] := by
      cases d.slot with
      | wildcard id => exact h.wildcards id
      | named x => exact congrArg (·.getD []) (h.named x)
    rw [valueOf_eq_textAt same, ← d.slot.bindingName_group, get?_valuesOf distinct (opened d hd), captured, ht]
    rfl
  · have none : valueOf ds name = none := by
      simpa [valueOf] using taken
    rw [none]
    refine get?_valuesOf_eq_none fun hn => taken ?_
    obtain ⟨g, hg, rfl⟩ := List.mem_map.1 hn
    obtain ⟨s, rfl, here | ⟨_, no, _⟩⟩ := (h.opened g).1 hg
    · obtain ⟨d, hd, rfl⟩ := isSome_textAt.1 here
      exact ⟨d, hd, d.slot.bindingName_group.symm⟩
    · cases no

/-- Whether a path matches, with captures or without, is whether it has a decomposition. The values that are
captured are the texts of the preferred one, in which every choice is the best one after those before it,
and the locale of a captured qualifier if there is no other locale. -/
theorem captures_preferred (hp : m.pattern.Formed) (he : ∀ x v, m.env.get? x = some v → v.Formed)
    {answer : Bool} {found : Option Bindings} (h : m.isMatch path = .ok answer)
    (h' : m.captures path = .ok found) :
    (answer = true ↔ found.isSome) ∧ (found.isSome ↔ ∃ ds, m.Decomposition path ds) ∧
    ∀ b, found = some b → ∃ ds, m.Decomposition path ds ∧
      (∀ es, m.Decomposition path es → es = ds ∨ Earlier ds es) ∧
      ∀ name, b.get? name = (valueOf ds name).or
        (if name = localeName then (valueOf ds androidLocale).map Qualifier.toTag else none) := by
  rw [isMatch_eq] at h
  rw [captures_eq] at h'
  cases hu : m.usablePieces with
  | error e =>
    rw [hu] at h
    cases h
  | ok ps =>
    simp only [hu] at h h'
    obtain ⟨ranks, outcomes, sound, complete, sorted⟩ := exists_decompositions hp he hu path
    have first := search_whole ps path
    rw [← outcomes] at first
    cases hs : (whole ps).search path with
    | gaveUp =>
      rw [hs] at h
      cases h
    | failed =>
      simp only [hs] at h h' first
      cases h
      cases h'
      have none : ∀ ds, ¬m.Decomposition path ds := fun ds hD => by
        obtain ⟨e, he, -⟩ := complete ds hD
        rw [List.map_eq_nil_iff.1 first] at he
        cases he
      exact ⟨by simp, by simpa using none, nofun⟩
    | found c =>
      simp only [hs] at h h' first
      cases h
      cases h'
      cases ranks with
      | nil => cases first
      | cons e ranks =>
        obtain rfl : e.2 = c := Option.some.inj first
        obtain ⟨hD, tracks⟩ := sound e List.mem_cons_self
        refine ⟨by simp, ⟨fun _ => ⟨e.1, hD⟩, fun _ => rfl⟩, fun b hb => ⟨e.1, hD, fun es hes => ?_, ?_⟩⟩
        · obtain ⟨e', he', rfl⟩ := complete es hes
          rcases List.mem_cons.1 he' with rfl | he'
          · exact .inl rfl
          · exact .inr ((List.pairwise_cons.1 sorted).1 e' he')
        · intro name
          have values := get?_valuesOf_of_tracks (usablePieces_eq_ok hu).2 tracks
          cases hb
          rw [get?_addLocale_eq, values, values]

/-- The base is as short as it can be and its wildcard takes all of its segment, though the `**` could take it
as well. The name occurs twice and is as short as possible. -/
def archive : Matcher := withOne "{base}/**/{name}*{name}.ftl".toList "base".toList "{l10n}/*".toList

/-- The `**` has the number of the wildcard of the base, and is not captured. -/
def archived : Bindings :=
  .ofList [("base".toList, "l10n/de".toList), ("l10n".toList, "l10n".toList), ("name".toList, ['c']),
    ("s1".toList, "de".toList), ("s2".toList, ['d'])]

theorem archive_captures : archive.isMatch "l10n/de/a/b/cdc.ftl".toList = .ok true ∧
    archive.captures "l10n/de/a/b/cdc.ftl".toList = .ok (some archived) ∧
    ∃ ds, archive.Decomposition "l10n/de/a/b/cdc.ftl".toList ds ∧
      (∀ es, archive.Decomposition "l10n/de/a/b/cdc.ftl".toList es → es = ds ∨ Earlier ds es) ∧
      ∀ name, archived.get? name = (valueOf ds name).or
        (if name = localeName then (valueOf ds androidLocale).map Qualifier.toTag else none) := by
  have matched : archive.isMatch "l10n/de/a/b/cdc.ftl".toList = .ok true := by decide +kernel
  have captured : archive.captures "l10n/de/a/b/cdc.ftl".toList = .ok (some archived) := by decide +kernel
  obtain ⟨-, -, preferred⟩ := captures_preferred (.parse _) formed_withOne matched captured
  exact ⟨matched, captured, preferred archived rfl⟩

end Matcher

end LocalePaths
