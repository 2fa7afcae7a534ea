import LocalePaths.Proofs.Encoding.Order
import LocalePaths.Proofs.Filter.Order
import LocalePaths.Proofs.Filter.Preorder

/-!
# The list of all locales

All locales of a configuration are those that are named in its include tree, in the order of their
encodings (`ProjectConfig.ListsLocales`). That is so after any history, whatever has been asked before,
and also once the locales are set, for the configuration alone or for all that it includes.
-/

namespace LocalePaths

/-- The settings name the locale, themselves or for a path group. -/
def Settings.Names (s : Settings) (locale : Text) : Prop :=
  (∃ ls, s.locales = some ls ∧ locale ∈ ls) ∨ ∃ g ∈ s.groups, ∃ ls, g.locales = some ls ∧ locale ∈ ls

theorem mem_getD_iff {ls : Option (List Text)} {t : Text} :
    t ∈ ls.getD [] ↔ ∃ l, ls = some l ∧ t ∈ l := by
  cases ls <;> simp

theorem Settings.mem_declaredLocales {s : Settings} {locale : Text} :
    locale ∈ s.declaredLocales ↔ s.Names locale := by
  rw [declaredLocales, List.mem_append, List.mem_flatMap, mem_getD_iff]
  simp only [mem_getD_iff]
  rfl

theorem pairwise_sortedSet (ts : List Text) : (sortedSet ts).Pairwise (· < ·) :=
  List.pairwise_map.2 (NameMap.sorted _)

namespace ProjectConfig
variable {c : ProjectConfig}

/-- All locales of the configuration are in the order of their encodings, and they are those that are
named in the include tree. -/
structure ListsLocales (c : ProjectConfig) : Prop where
  ordered : c.allLocales.Pairwise fun l l' => Utf8.encode l < Utf8.encode l'
  mem_iff : ∀ locale, locale ∈ c.allLocales ↔ ∃ d ∈ c.configs, d.own.Names locale

theorem Fresh.listsLocales (h : c.Fresh) : c.ListsLocales := by
  refine ⟨?_, fun locale => ?_⟩
  · rw [h.allLocales]
    exact (pairwise_sortedSet _).imp Utf8.encode_lt_encode_iff.2
  · rw [h.allLocales, declaredLocales, mem_sortedSet, List.mem_flatMap]
    simp only [Settings.mem_declaredLocales]

/-- After any history, also one that sets locales, the configurations are listed in pre-order, in the list
as well as from a stack, and all locales are those that are named in them. When the locales are set deeply
every listed configuration has the given ones, and is otherwise as before with all that it excludes. -/
theorem inPreorder_listsLocales (h : c.Reachable) (later : List Step) :
    let d := stepAll later c
    (d.InPreorder d.configs ∧ visit [d] = d.configs) ∧ d.ListsLocales ∧
      ∀ locales, (d.setLocales locales true).ListsLocales ∧
        (d.setLocales locales true).configs.map (fun e => (e.own, e.excludes)) =
          d.configs.map fun e => ({ e.own with locales := some locales }.invalidate, e.excludes) := by
  intro d
  have fresh : d.Fresh := (stepAll_spec later h.fresh).1
  refine ⟨⟨configs_inPreorder d, ?_⟩, fresh.listsLocales, fun locales => ⟨?_, ?_⟩⟩
  · rw [visit_eq, configsOf, configsOf, List.append_nil]
  · exact (fresh.setLocales locales true).listsLocales
  · exact configs_setLocalesDeep locales d

/-- Two includes, one of which includes another configuration, and an exclude; all locales have been asked
for. -/
def regions : ProjectConfig :=
  let named (locale : Text) : Step := .setLocales [locale] false
  run (some "a".toList) [named "fr".toList,
    .addPaths none [⟨"{locale}/*".toList, none, some ["sr".toList, "ar".toList], none, none⟩],
    .addChild (some "b".toList) [named "it".toList, .addChild (some "c".toList) [named "de".toList]],
    .addChild (some "d".toList) [named "it".toList], .exclude (some "x".toList) [named "nl".toList],
    .allLocales []]

theorem regions_listsLocales :
    regions.configs.map (fun d => d.own.path) =
        [some "a".toList, some "b".toList, some "c".toList, some "d".toList] ∧
      (regions.setLocales ["zh".toList] false).allLocales =
        ["ar".toList, "de".toList, "it".toList, "sr".toList, "zh".toList] ∧
      ¬(∃ d ∈ regions.configs, d.own.Names "nl".toList) ∧
      (regions.setLocales ["nl".toList] true).configs.map (fun d => d.own.locales) =
        List.replicate 4 (some ["nl".toList]) := by
  have reachable : regions.Reachable := ⟨_, _, [], rfl⟩
  obtain ⟨-, lists, deep⟩ := inPreorder_listsLocales reachable []
  refine ⟨by decide +kernel, by decide +kernel, ?_, ?_⟩
  · refine mt (lists.mem_iff _).2 ?_
    decide +kernel
  · have same := congrArg (List.map fun e => e.1.locales) (deep ["nl".toList]).2
    rw [List.map_map, List.map_map] at same
    exact same.trans (by decide +kernel)

end ProjectConfig

end LocalePaths
