import LocalePaths.Matcher
import LocalePaths.Proofs.NameMap

/-!
# The values of groups

The groups of usable pieces bind different names, so that each name has the value of its group
(`Matcher.get?_valuesOf`). The locale that is added afterwards takes no value away
(`Matcher.get?_addLocale`).
-/

namespace LocalePaths

namespace Piece

@[simp] theorem bindingName_groupName (x : Text) : bindingName (groupName x) = x := rfl

end Piece

namespace Matcher
variable {b : Bindings} {groups : List Text} {cs : Captures} {g x t : Text}

theorem lookup_scopeFor (m : Matcher) (b : Bindings) (x : Text) :
    (m.scopeFor b).lookup x = (m.env.get? x).or ((b.get? x).map .literal) := by
  simp [scopeFor, Scope.lookup, Scope.layered, Bindings.toEnvironment]

theorem nodup_of_firstRepeated? : ∀ {ns seen : List Text}, firstRepeated? seen ns = none →
    ns.Nodup ∧ ∀ n ∈ ns, n ∉ seen
  | [], _, _ => ⟨List.nodup_nil, nofun⟩
  | n :: ns, seen, h => by
    unfold firstRepeated? at h
    split at h
    · cases h
    · rename_i hn
      obtain ⟨nodup, fresh⟩ := nodup_of_firstRepeated? h
      refine ⟨List.nodup_cons.2 ⟨fun hm => fresh n hm List.mem_cons_self, nodup⟩, ?_⟩
      exact List.forall_mem_cons.2
        ⟨by simpa using hn, fun m hm hs => fresh m hm (List.mem_cons_of_mem _ hs)⟩

theorem firstRepeated?_of_nodup : ∀ {ns seen : List Text}, ns.Nodup → (∀ n ∈ ns, n ∉ seen) →
    firstRepeated? seen ns = none
  | [], _, _, _ => rfl
  | n :: ns, seen, nodup, fresh => by
    obtain ⟨first, nodup⟩ := List.nodup_cons.1 nodup
    obtain ⟨unseen, fresh⟩ := List.forall_mem_cons.1 fresh
    rw [firstRepeated?, if_neg (by simpa using unseen)]
    refine firstRepeated?_of_nodup nodup fun k hk hs => ?_
    rcases List.mem_cons.1 hs with rfl | hs
    · exact first hk
    · exact fresh k hk hs

theorem firstRepeated?_eq_none_iff {ns : List Text} : firstRepeated? [] ns = none ↔ ns.Nodup :=
  ⟨fun h => (nodup_of_firstRepeated? h).1, fun h => firstRepeated?_of_nodup h fun _ _ => List.not_mem_nil⟩

/-- The names before the first one that is repeated are different. -/
theorem exists_of_firstRepeated? : ∀ {ns seen : List Text}, firstRepeated? seen ns = some x →
    ∃ front back, ns = front ++ x :: back ∧ front.Nodup ∧ (∀ y ∈ front, y ∉ seen) ∧ (x ∈ front ∨ x ∈ seen)
  | n :: ns, seen, h => by
    unfold firstRepeated? at h
    split at h
    · rename_i old
      obtain rfl := Option.some.inj h
      exact ⟨[], ns, rfl, List.nodup_nil, nofun, .inr (List.contains_iff_mem.1 old)⟩
    · rename_i new
      obtain ⟨front, back, rfl, nodup, fresh, again⟩ := exists_of_firstRepeated? h
      have other : n ∉ front := fun hn => fresh n hn List.mem_cons_self
      refine ⟨n :: front, back, rfl, List.nodup_cons.2 ⟨other, nodup⟩, ?_, ?_⟩
      · exact List.forall_mem_cons.2
          ⟨by simpa using new, fun y hy hs => fresh y hy (List.mem_cons_of_mem n hs)⟩
      · rcases again with again | again
        · exact .inl (List.mem_cons_of_mem n again)
        · rcases List.mem_cons.1 again with rfl | again
          · exact .inl List.mem_cons_self
          · exact .inr again

/-- The value of a group is what it has captured, or the empty text. -/
theorem get?_valuesOf (h : firstRepeated? [] (groups.map Piece.bindingName) = none) (hg : g ∈ groups) :
    (valuesOf groups cs).get? (Piece.bindingName g) = some ((cs.get? g).getD []) := by
  refine NameMap.get?_insertMany_of_mem ?_ (List.mem_map.2 ⟨g, hg, rfl⟩)
  rw [List.map_map]
  exact (nodup_of_firstRepeated? h).1

theorem get?_valuesOf_eq_none (h : x ∉ groups.map Piece.bindingName) :
    (valuesOf groups cs).get? x = none := by
  refine (NameMap.get?_insertMany_of_not_mem ?_).trans (NameMap.get?_empty x)
  rwa [List.map_map]

theorem get?_addLocale (h : b.get? x = some t) : (addLocale b).get? x = some t := by
  unfold addLocale
  split
  · rename_i code hl _
    have : x ≠ localeName := fun e => by rw [e, hl] at h; cases h
    rw [NameMap.get?_insert, if_neg this, h]
  · exact h

/-- The locale that is added is the one that the qualifier stands for. -/
theorem get?_addLocale_localeName (hl : b.get? localeName = none) (ha : b.get? androidLocale = some t) :
    (addLocale b).get? localeName = some (Qualifier.toTag t) := by
  unfold addLocale
  rw [hl, ha]
  exact (NameMap.get?_insert ..).trans (if_pos rfl)

theorem get?_addLocale_eq (b : Bindings) (x : Text) : (addLocale b).get? x =
    (b.get? x).or (if x = localeName then (b.get? androidLocale).map Qualifier.toTag else none) := by
  by_cases e : x = localeName
  · subst e
    rw [if_pos rfl]
    cases hl : b.get? localeName with
    | some t => rw [get?_addLocale hl, Option.some_or]
    | none =>
      cases ha : b.get? androidLocale with
      | some code => rw [get?_addLocale_localeName hl ha, Option.none_or, Option.map_some]
      | none =>
        unfold addLocale
        rw [hl, ha]
        exact hl
  · rw [if_neg e, Option.or_none]
    unfold addLocale
    split
    · rw [NameMap.get?_insert, if_neg e]
    · rfl

end Matcher

end LocalePaths
