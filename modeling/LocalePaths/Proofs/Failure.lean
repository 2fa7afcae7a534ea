/-!
# Computations that may fail

A sequence of computations fails with the first failure in it (`bind_eq_error_iff`), and succeeds if
all of them do (`bind_eq_ok_iff`). Searches in a list do not depend on when its elements are mapped.

Two computations that look at the same things in different orders can fail at different ones. Still they
are `Compatible`: unless one of them fails they have the same result.
-/

namespace LocalePaths

variable {α β ε : Type} {x : Except ε α} {f : α → Except ε β} {e : ε}

theorem bind_eq_ok_iff {b : β} : x >>= f = .ok b ↔ ∃ a, x = .ok a ∧ f a = .ok b := by
  cases x with
  | error e =>
    constructor
    · intro h
      cases h
    · rintro ⟨a, h, -⟩
      cases h
  | ok a =>
    constructor
    · intro h
      exact ⟨a, rfl, h⟩
    · rintro ⟨a', h, h'⟩
      cases h
      exact h'

theorem bind_eq_error_iff : x >>= f = .error e ↔ x = .error e ∨ ∃ a, x = .ok a ∧ f a = .error e := by
  cases x with
  | error e' =>
    constructor
    · intro h
      cases h
      exact .inl rfl
    · rintro (h | ⟨a, h, -⟩)
      · cases h
        rfl
      · cases h
  | ok a =>
    constructor
    · intro h
      exact .inr ⟨a, rfl, h⟩
    · rintro (h | ⟨a', h, h'⟩)
      · cases h
      · cases h
        exact h'

theorem mapError_ok {ε' : Type} (k : ε → ε') (a : α) :
    (.ok a : Except ε α).mapError k = .ok a := rfl

theorem mapError_eq_ok_iff {ε' : Type} {k : ε → ε'} {a : α} : x.mapError k = .ok a ↔ x = .ok a := by
  cases x with
  | error e => exact iff_of_false nofun nofun
  | ok b => rw [mapError_ok, Except.ok.injEq, Except.ok.injEq]

theorem anyM_map (p : β → Except ε Bool) (f : α → β) (l : List α) :
    (l.map f).anyM p = l.anyM fun a => p (f a) := by
  induction l with
  | nil => rfl
  | cons a l ih => simp only [List.map_cons, List.anyM, ih]

theorem findM?_map (p : β → Except ε Bool) (f : α → β) (l : List α) :
    (l.map f).findM? p = Option.map f <$> l.findM? fun a => p (f a) := by
  induction l with
  | nil => rfl
  | cons a l ih =>
    simp only [List.map_cons, List.findM?, ih]
    cases p (f a) with
    | error e => rfl
    | ok found => cases found <;> rfl

/-- A search passes over the elements that it rejects. -/
theorem findM?_filter {p : α → Except ε Bool} {keep : α → Bool} {l : List α}
    (h : ∀ a ∈ l, keep a = false → p a = .ok false) : (l.filter keep).findM? p = l.findM? p := by
  induction l with
  | nil => rfl
  | cons a l ih =>
    obtain ⟨first, later⟩ := List.forall_mem_cons.1 h
    rw [List.filter_cons]
    cases kept : keep a with
    | true =>
      show (a :: l.filter keep).findM? p = _
      simp only [List.findM?, ih later]
    | false =>
      show (l.filter keep).findM? p = _
      simp only [List.findM?, first kept, ih later]
      rfl

theorem exists_of_mapM_eq_ok {g : α → Except ε β} {l : List α} {bs : List β} (h : l.mapM g = .ok bs) :
    ∀ b ∈ bs, ∃ a ∈ l, g a = .ok b := by
  induction l generalizing bs with
  | nil =>
    cases h
    exact nofun
  | cons a l ih =>
    rw [List.mapM_cons] at h
    obtain ⟨b, hb, h⟩ := bind_eq_ok_iff.1 h
    obtain ⟨later, hl, e⟩ := bind_eq_ok_iff.1 h
    cases e
    refine List.forall_mem_cons.2 ⟨⟨a, List.mem_cons_self, hb⟩, fun b hb => ?_⟩
    obtain ⟨a, ha, e⟩ := ih hl b hb
    exact ⟨a, List.mem_cons_of_mem _ ha, e⟩

theorem exists_mapM_eq_ok {g : α → Except ε β} {l : List α} (h : ∀ a ∈ l, ∃ b, g a = .ok b) :
    ∃ bs, l.mapM g = .ok bs := by
  induction l with
  | nil => exact ⟨[], rfl⟩
  | cons a l ih =>
    obtain ⟨⟨b, hb⟩, rest⟩ := List.forall_mem_cons.1 h
    obtain ⟨bs, hbs⟩ := ih rest
    rw [List.mapM_cons, hb, hbs]
    exact ⟨b :: bs, rfl⟩

/-- What is seen of the results can be seen of the elements that they are for. -/
theorem map_of_mapM_eq_ok {γ : Type} {g : α → Except ε β} {k : β → γ} {k' : α → γ} {l : List α}
    {bs : List β} (h : l.mapM g = .ok bs) (seen : ∀ a b, g a = .ok b → k b = k' a) :
    bs.map k = l.map k' := by
  induction l generalizing bs with
  | nil =>
    cases h
    rfl
  | cons a l ih =>
    rw [List.mapM_cons] at h
    obtain ⟨b, hb, h⟩ := bind_eq_ok_iff.1 h
    obtain ⟨later, hl, e⟩ := bind_eq_ok_iff.1 h
    cases e
    rw [List.map_cons, List.map_cons, seen a b hb, ih hl]

theorem mapM_flatMap {γ : Type} (g : β → Except ε γ) (k : α → List β) (l : List α) :
    (l.flatMap k).mapM g = List.flatten <$> l.mapM fun a => (k a).mapM g := by
  induction l with
  | nil => rfl
  | cons a l ih =>
    rw [List.flatMap_cons, List.mapM_append, List.mapM_cons, ih]
    cases (k a).mapM g with
    | error e => rfl
    | ok cs => cases l.mapM fun a => (k a).mapM g <;> rfl

/-! ### A search in any order -/

theorem exists_of_anyM_eq_true {p : α → Except ε Bool} {l : List α} (h : l.anyM p = .ok true) :
    ∃ a ∈ l, p a = .ok true := by
  induction l with
  | nil => cases h
  | cons a l ih =>
    obtain ⟨found, ha, h⟩ := bind_eq_ok_iff.1 h
    cases found with
    | true => exact ⟨a, List.mem_cons_self, ha⟩
    | false =>
      obtain ⟨b, hb, e⟩ := ih h
      exact ⟨b, List.mem_cons_of_mem a hb, e⟩

theorem forall_of_anyM_eq_false {p : α → Except ε Bool} {l : List α} (h : l.anyM p = .ok false) :
    ∀ a ∈ l, p a = .ok false := by
  induction l with
  | nil => exact nofun
  | cons a l ih =>
    obtain ⟨found, ha, h⟩ := bind_eq_ok_iff.1 h
    cases found with
    | true => cases h
    | false => exact List.forall_mem_cons.2 ⟨ha, ih h⟩

/-- Unless one of them fails, two computations have the same result. -/
def Compatible (x y : Except ε α) : Prop := ∀ ⦃a b⦄, x = .ok a → y = .ok b → a = b

namespace Compatible
variable {y : Except ε α} {g : α → Except ε β}

theorem refl (x : Except ε α) : Compatible x x := fun _ _ h h' => Except.ok.inj (h.symm.trans h')

theorem bind (h : Compatible x y) (hf : ∀ a, Compatible (f a) (g a)) :
    Compatible (x >>= f) (y >>= g) := by
  intro c d hc hd
  obtain ⟨a, ha, hc⟩ := bind_eq_ok_iff.1 hc
  obtain ⟨b, hb, hd⟩ := bind_eq_ok_iff.1 hd
  obtain rfl := h ha hb
  exact hf a hc hd

theorem map (h : Compatible x y) (k : α → β) : Compatible (k <$> x) (k <$> y) := by
  rw [map_eq_pure_bind, map_eq_pure_bind]
  exact h.bind fun a => refl _

theorem mapError {ε' : Type} (h : Compatible x y) (k : ε → ε') :
    Compatible (x.mapError k) (y.mapError k) := by
  intro a b ha hb
  exact h (mapError_eq_ok_iff.1 ha) (mapError_eq_ok_iff.1 hb)

/-- Two searches are compatible if each element of one list has a counterpart in the other. -/
theorem anyM {p : α → Except ε Bool} {p' : β → Except ε Bool} {l : List α} {m : List β}
    (left : ∀ a ∈ l, ∃ b ∈ m, Compatible (p a) (p' b))
    (right : ∀ b ∈ m, ∃ a ∈ l, Compatible (p a) (p' b)) : Compatible (l.anyM p) (m.anyM p') := by
  intro found found' h h'
  cases found with
  | true =>
    obtain ⟨a, ha, e⟩ := exists_of_anyM_eq_true h
    obtain ⟨b, hb, agree⟩ := left a ha
    cases found' with
    | true => rfl
    | false => exact agree e (forall_of_anyM_eq_false h' b hb)
  | false =>
    cases found' with
    | false => rfl
    | true =>
      obtain ⟨b, hb, e⟩ := exists_of_anyM_eq_true h'
      obtain ⟨a, ha, agree⟩ := right b hb
      exact agree (forall_of_anyM_eq_false h a ha) e

end Compatible

end LocalePaths
