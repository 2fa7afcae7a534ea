import LocalePaths.NameMap
import Mathlib.Data.List.Nodup

/-!
# Looking names up

What is found in a map is one of its pairs (`NameMap.mem_of_find`), and of pairs with different names
that are set at once every one is found (`NameMap.get?_insertMany_of_mem`). Of two maps that are merged the second wins (`NameMap.get?_merge`).
-/

namespace LocalePaths

namespace NameMap
variable {α : Type} {m : NameMap α} {es : List (Text × α)} {name : Text} {value : α}

theorem get?_insertMany_of_not_mem (h : name ∉ es.map (·.1)) :
    (m.insertMany es).get? name = m.get? name := by
  induction es generalizing m with
  | nil => rfl
  | cons e es ih =>
    have h := not_or.1 (mt List.mem_cons.2 h)
    show ((m.insert e.1 e.2).insertMany es).get? name = _
    rw [ih h.2, get?_insert, if_neg h.1]

theorem get?_insertMany_of_mem (nodup : (es.map (·.1)).Nodup) (h : (name, value) ∈ es) :
    (m.insertMany es).get? name = some value := by
  induction es generalizing m with
  | nil => cases h
  | cons e es ih =>
    obtain ⟨fresh, nodup⟩ := List.nodup_cons.1 nodup
    show ((m.insert e.1 e.2).insertMany es).get? name = _
    rcases List.mem_cons.1 h with rfl | h
    · rw [get?_insertMany_of_not_mem fresh, get?_insert, if_pos rfl]
    · exact ih nodup h

/-- What holds of the values of a map and of values that are set holds of all values afterwards. -/
theorem forall_insertMany {P : α → Prop} (old : ∀ x v, m.get? x = some v → P v)
    (new : ∀ e ∈ es, P e.2) : ∀ x v, (m.insertMany es).get? x = some v → P v := by
  induction es generalizing m with
  | nil => exact old
  | cons e es ih =>
    obtain ⟨he, new⟩ := List.forall_mem_cons.1 new
    refine ih (m := m.insert e.1 e.2) (fun x v hv => ?_) new
    rw [get?_insert] at hv
    split at hv
    · exact Option.some.inj hv ▸ he
    · exact old x v hv

/-- What is set is looked up in the same way after the values have been mapped. -/
theorem get?_insertMany_map {β : Type} (f : α → β) :
    ((m.map f).insertMany (es.map fun e => (e.1, f e.2))).get? name =
      ((m.insertMany es).get? name).map f := by
  have step : ∀ (m : NameMap α) (e : Text × α), (m.insert e.1 e.2).map f = (m.map f).insert e.1 (f e.2) := by
    intro m e
    refine ext_get? fun n => ?_
    rw [get?_map, get?_insert, get?_insert, get?_map]
    split <;> rfl
  induction es generalizing m with
  | nil => exact get?_map f m name
  | cons e es ih =>
    show (((m.map f).insert e.1 (f e.2)).insertMany _).get? name = _
    rw [← step, ih]
    rfl

theorem mem_of_find : ∀ {es : List (Text × α)}, find name es = some value → (name, value) ∈ es
  | [], h => nomatch h
  | e :: es, h => by
    rw [find_cons] at h
    split at h
    · rename_i e'
      cases h
      exact List.mem_cons.2 (.inl (by rw [e']))
    · exact List.mem_cons_of_mem _ (mem_of_find h)

/-- Pairs with other names can be left out. -/
theorem find_filter {keep : Text × α → Bool} : ∀ {es : List (Text × α)},
    (∀ e ∈ es, e.1 = name → keep e) → find name (es.filter keep) = find name es
  | [], _ => rfl
  | e :: es, h => by
    obtain ⟨he, hes⟩ := List.forall_mem_cons.1 h
    cases kept : keep e with
    | true => rw [List.filter_cons_of_pos kept, find_cons, find_cons, find_filter hes]
    | false =>
      have other : ¬name = e.1 := fun e' => by simp [he e'.symm] at kept
      rw [List.filter_cons_of_neg (by simp [kept]), find_cons, if_neg other, find_filter hes]

theorem mem_names (h : m.get? name = some value) : name ∈ m.names :=
  List.mem_map.2 ⟨_, mem_of_find h, rfl⟩

theorem isSome_find : ∀ {es : List (Text × α)}, (find name es).isSome ↔ name ∈ es.map (·.1)
  | [] => by simp
  | e :: es => by
    rw [find_cons, List.map_cons, List.mem_cons, ← isSome_find]
    split <;> simp [*]

theorem contains_iff : m.contains name ↔ name ∈ m.names := isSome_find

theorem nodup_names (m : NameMap α) : (m.entries.map (·.1)).Nodup :=
  List.pairwise_map.2 (m.sorted.imp ne_of_lt)

/-- Of two values for a name in merged maps the one of the second map stays. -/
theorem get?_merge (m other : NameMap α) (name : Text) :
    (m.merge other).get? name = (other.get? name).or (m.get? name) := by
  cases h : other.get? name with
  | some value => exact get?_insertMany_of_mem other.nodup_names (mem_of_find h)
  | none =>
    refine get?_insertMany_of_not_mem fun hm => ?_
    have found := contains_iff.2 hm
    rw [contains, h] at found
    cases found

end NameMap

end LocalePaths
