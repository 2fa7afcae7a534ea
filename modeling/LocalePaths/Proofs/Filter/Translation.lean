import LocalePaths.Filter.PathGroup
import LocalePaths.Proofs.Matcher.Layout

/-!
# Localized files and their references

A path group whose localized files and references are in two trees with the same tail translates the
paths of one tree to those of the other and back, without loss
(`PathGroup.referencePath_eq_iff_l10nPath_eq`).
-/

namespace LocalePaths

namespace PathGroup
variable {g : PathGroup} {m : Matcher} {front back tail locale p r : Text}

theorem localized_get? (he : g.l10n.env = .empty) (x : Text) : (g.localized locale).env.get? x =
    if x = localeName then some (.parse locale) else none := by
  simp only [localized, Matcher.withEnv, he, NameMap.insertMany, List.foldl_cons, List.foldl_nil,
    NameMap.get?_insert, NameMap.get?_empty]

/-- The localized files of one locale are a layout with the locale in place. -/
theorem layout_localized (hp : g.l10n.pattern = .parse (front ++ tail)) (he : g.l10n.env = .empty)
    (lead : Token.IsLead front) (fixed : ∀ k ∈ Token.ofText front, k.IsFixed localeName)
    (plain : '*' ∉ locale ∧ '\x7b' ∉ locale)
    (foreign : .name localeName ∉ Token.ofText tail ∧ .name androidLocale ∉ Token.ofText tail) :
    (g.localized locale).Layout locale (Token.ofText front) (Token.ofText tail) where
  parsed := ⟨front ++ tail, hp, Token.ofText_append lead tail⟩
  fixed := fixed
  bound x v hv := by
    rw [localized_get? he, Pattern.parse_plain plain.1 plain.2] at hv
    split at hv
    · rename_i hx
      exact ⟨hx, (Option.some.inj hv).symm⟩
    · cases hv
  located _ := by rw [localized_get? he, if_pos rfl, Pattern.parse_plain plain.1 plain.2]
  foreign x hx := ⟨fun e => foreign.1 (e ▸ hx), fun e => foreign.2 (e ▸ hx)⟩

theorem layout_reference (hp : m.pattern = .parse (back ++ tail)) (he : m.env = .empty)
    (lead : Token.IsLead back) (plain : '*' ∉ back ∧ '\x7b' ∉ back)
    (foreign : .name localeName ∉ Token.ofText tail ∧ .name androidLocale ∉ Token.ofText tail) :
    m.Layout locale (Token.ofText back) (Token.ofText tail) := by
  have chars : Token.ofText back = back.map .char := Token.tokens_plain true plain.1 plain.2
  refine ⟨⟨back ++ tail, hp, Token.ofText_append lead tail⟩, fun k hk => ?_, fun x v hv => ?_,
    fun hx => ?_, fun x hx => ⟨fun e => foreign.1 (e ▸ hx), fun e => foreign.2 (e ▸ hx)⟩⟩
  · rw [chars] at hk
    obtain ⟨c, -, rfl⟩ := List.mem_map.1 hk
    exact .inl ⟨c, rfl⟩
  · rw [he] at hv
    cases hv
  · rw [chars] at hx
    obtain ⟨c, -, e⟩ := List.mem_map.1 hx
    cases e

/-- The path of a reference is that of a localized file exactly if it is the other way around, for trees
that are laid out alike behind some leading directories, those of the localized files with the locale
among them. Matching must not give up on either path. -/
theorem referencePath_eq_iff_l10nPath_eq (hl : g.l10n.pattern = .parse (front ++ tail))
    (hle : g.l10n.env = .empty) (hm : g.reference = some m) (hr : m.pattern = .parse (back ++ tail))
    (hre : m.env = .empty) (leadFront : Token.IsLead front) (leadBack : Token.IsLead back)
    (fixedFront : ∀ k ∈ Token.ofText front, k.IsFixed localeName)
    (plainBack : '*' ∉ back ∧ '\x7b' ∉ back) (plainLocale : '*' ∉ locale ∧ '\x7b' ∉ locale)
    (foreign : .name localeName ∉ Token.ofText tail ∧ .name androidLocale ∉ Token.ofText tail)
    (decided : g.referencePath locale p ≠ .error (.undecided p))
    (decided' : g.l10nPath locale r ≠ .error (.undecided r)) :
    g.referencePath locale p = .ok (some r) ↔ g.l10nPath locale r = .ok (some p) := by
  have localized := layout_localized hl hle leadFront fixedFront plainLocale foreign
  have reference : m.Layout locale _ _ := layout_reference hr hre leadBack plainBack foreign
  simp only [referencePath, l10nPath, hm] at decided decided' ⊢
  exact ⟨fun h => localized.sub_of_sub reference h decided',
    fun h => reference.sub_of_sub localized h decided⟩

def trees : PathGroup where
  l10n := .of (.parse "l10n/{locale}/**/{file}.ftl".toList)
  reference := some (.of (.parse "en/**/{file}.ftl".toList))
  locales := none
  tests := none
  module := none

theorem trees_l10nPath :
    trees.referencePath "de".toList "l10n/de/a/b/x.y.ftl".toList = .ok (some "en/a/b/x.y.ftl".toList) ∧
      trees.l10nPath "de".toList "en/a/b/x.y.ftl".toList = .ok (some "l10n/de/a/b/x.y.ftl".toList) := by
  have localized : trees.l10n.pattern = .parse ("l10n/{locale}/".toList ++ "**/{file}.ftl".toList) := rfl
  have reference : (Matcher.of (.parse "en/**/{file}.ftl".toList)).pattern =
      .parse ("en/".toList ++ "**/{file}.ftl".toList) := rfl
  have there : trees.referencePath "de".toList "l10n/de/a/b/x.y.ftl".toList =
      .ok (some "en/a/b/x.y.ftl".toList) := by decide +kernel
  refine ⟨there, (referencePath_eq_iff_l10nPath_eq localized rfl rfl reference rfl (.inr rfl) (.inr rfl)
    ?_ ?_ ?_ ?_ ?_ ?_).1 there⟩
  all_goals decide +kernel

end PathGroup

end LocalePaths
