import LocalePaths.Text

/-!
# Maps from names

Finite maps whose keys are texts, kept in the order of the keys, so that two maps with the same
values at all names are equal (`NameMap.ext_get?`).
-/

namespace LocalePaths

/-- A finite map from names, listed in the order of the names. -/
structure NameMap (α : Type) where
  entries : List (Text × α)
  sorted : entries.Pairwise (fun a b => a.1 < b.1)
  deriving DecidableEq

namespace NameMap

variable {α β : Type}

/-- Puts a value in its place among entries in order; it replaces one of the same name. -/
def insertEntry (name : Text) (value : α) : List (Text × α) → List (Text × α)
  | [] => [(name, value)]
  | e :: es =>
    if name < e.1 then (name, value) :: e :: es
    else if name = e.1 then (name, value) :: es
    else e :: insertEntry name value es

theorem lt_of_not_lt {a b : Text} (h : ¬a < b) (hne : a ≠ b) : b < a := by
  rcases Decidable.em (b < a) with h' | h'
  · exact h'
  · exact absurd (List.le_antisymm (List.not_lt.1 h') (List.not_lt.1 h)) hne

theorem ne_of_lt {a b : Text} (h : a < b) : a ≠ b :=
  fun e => List.lt_irrefl a (by rw [← e] at h; exact h)

theorem mem_insertEntry {name : Text} {value : α} {e : Text × α} :
    ∀ {es : List (Text × α)}, e ∈ insertEntry name value es → e = (name, value) ∨ e ∈ es
  | [] => by simp [insertEntry]
  | d :: es => by
    unfold insertEntry
    split
    · simp
    · split
      · intro h
        rcases List.mem_cons.1 h with rfl | h
        · exact Or.inl rfl
        · exact Or.inr (List.mem_cons_of_mem _ h)
      · intro h
        rcases List.mem_cons.1 h with rfl | h
        · exact Or.inr (List.mem_cons_self ..)
        · rcases mem_insertEntry h with h | h
          · exact Or.inl h
          · exact Or.inr (List.mem_cons_of_mem _ h)

theorem sorted_insertEntry (name : Text) (value : α) :
    ∀ {es : List (Text × α)}, es.Pairwise (fun a b => a.1 < b.1) →
      (insertEntry name value es).Pairwise (fun a b => a.1 < b.1)
  | [], _ => by simp [insertEntry]
  | d :: es, h => by
    obtain ⟨hd, hes⟩ := List.pairwise_cons.1 h
    unfold insertEntry
    split
    · rename_i hlt
      refine List.pairwise_cons.2 ⟨fun e he => ?_, h⟩
      rcases List.mem_cons.1 he with rfl | he
      · exact hlt
      · exact List.lt_trans hlt (hd e he)
    · split
      · rename_i heq
        exact List.pairwise_cons.2 ⟨fun e he => heq ▸ hd e he, hes⟩
      · rename_i hlt hne
        refine List.pairwise_cons.2 ⟨fun e he => ?_, sorted_insertEntry name value hes⟩
        rcases mem_insertEntry he with rfl | he
        · exact lt_of_not_lt hlt hne
        · exact hd e he

def empty : NameMap α := ⟨[], List.Pairwise.nil⟩

instance : EmptyCollection (NameMap α) := ⟨empty⟩

instance : Inhabited (NameMap α) := ⟨empty⟩

/-- The first value for a name in a list of pairs. -/
def find (name : Text) : List (Text × α) → Option α
  | [] => none
  | e :: es => if name = e.1 then some e.2 else find name es

def get? (m : NameMap α) (name : Text) : Option α := find name m.entries

def contains (m : NameMap α) (name : Text) : Bool := (m.get? name).isSome

def insert (m : NameMap α) (name : Text) (value : α) : NameMap α :=
  ⟨insertEntry name value m.entries, sorted_insertEntry name value m.sorted⟩

/-- Sets many values; of two for one name the later one stays. -/
def insertMany (m : NameMap α) (es : List (Text × α)) : NameMap α :=
  es.foldl (fun m e => m.insert e.1 e.2) m

/-- The map of a list of pairs; of two for one name the later one stays. -/
def ofList (es : List (Text × α)) : NameMap α := empty.insertMany es

/-- The values of both maps; at names of both those of `other`. -/
def merge (m other : NameMap α) : NameMap α := m.insertMany other.entries

def size (m : NameMap α) : Nat := m.entries.length

def names (m : NameMap α) : List Text := m.entries.map (·.1)

def map (f : α → β) (m : NameMap α) : NameMap β where
  entries := m.entries.map fun e => (e.1, f e.2)
  sorted := List.pairwise_map.2 m.sorted

@[simp] theorem find_nil (n : Text) : find n ([] : List (Text × α)) = none := rfl

theorem find_cons (n : Text) (e : Text × α) (es : List (Text × α)) :
    find n (e :: es) = if n = e.1 then some e.2 else find n es := rfl

theorem find_insertEntry (name : Text) (value : α) (n : Text) :
    ∀ es : List (Text × α),
      find n (insertEntry name value es) = if n = name then some value else find n es
  | [] => rfl
  | d :: es => by
    unfold insertEntry
    split
    · rw [find_cons]
    · split
      · rename_i heq
        rw [find_cons, find_cons, ← heq]
        split <;> rfl
      · rename_i hne
        rw [find_cons, find_cons, find_insertEntry name value n es]
        by_cases h : n = name
        · simp [h, hne]
        · simp [h]

@[simp] theorem get?_empty (n : Text) : (empty : NameMap α).get? n = none := rfl

@[simp] theorem get?_insert (m : NameMap α) (name n : Text) (value : α) :
    (m.insert name value).get? n = if n = name then some value else m.get? n :=
  find_insertEntry name value n m.entries

theorem find_map (f : α → β) (n : Text) : ∀ es : List (Text × α),
    find n (es.map fun e => (e.1, f e.2)) = (find n es).map f
  | [] => rfl
  | d :: es => by
    rw [List.map_cons, find_cons, find_cons, find_map f n es]
    split <;> rfl

@[simp] theorem get?_map (f : α → β) (m : NameMap α) (n : Text) :
    (m.map f).get? n = (m.get? n).map f :=
  find_map f n m.entries

theorem find_eq_none_of_lt {n : Text} : ∀ {es : List (Text × α)}, (∀ e ∈ es, n < e.1) →
    find n es = none
  | [], _ => rfl
  | d :: es, h => by
    rw [find_cons, if_neg (ne_of_lt (h d (List.mem_cons_self ..)))]
    exact find_eq_none_of_lt fun e he => h e (List.mem_cons_of_mem _ he)

theorem entries_ext : ∀ {es fs : List (Text × α)},
    es.Pairwise (fun a b => a.1 < b.1) → fs.Pairwise (fun a b => a.1 < b.1) →
    (∀ n, find n es = find n fs) → es = fs
  | [], [], _, _, _ => rfl
  | [], f :: fs, _, _, h => by simpa [find_cons] using h f.1
  | e :: es, [], _, _, h => by simpa [find_cons] using h e.1
  | e :: es, f :: fs, he, hf, h => by
    obtain ⟨he₁, he⟩ := List.pairwise_cons.1 he
    obtain ⟨hf₁, hf⟩ := List.pairwise_cons.1 hf
    have hle : ∀ {a b : Text × α} {as bs : List (Text × α)}, (∀ x ∈ as, a.1 < x.1) →
        (∀ n, find n (a :: as) = find n (b :: bs)) → ¬b.1 < a.1 := by
      intro a b as bs ha hab hlt
      have h₁ : find b.1 (a :: as) = none := find_eq_none_of_lt fun x hx => by
        rcases List.mem_cons.1 hx with rfl | hx
        · exact hlt
        · exact List.lt_trans hlt (ha x hx)
      rw [hab] at h₁
      simp [find_cons] at h₁
    have hkey : e.1 = f.1 := by
      rcases Decidable.em (e.1 = f.1) with hk | hk
      · exact hk
      · exact absurd (lt_of_not_lt (hle he₁ h) (Ne.symm hk)) (hle hf₁ fun n => (h n).symm)
    have hval : e.2 = f.2 := by simpa [find_cons, hkey] using h e.1
    have hrest : es = fs := entries_ext he hf fun n => by
      rcases Decidable.em (n = e.1) with hn | hn
      · rw [hn, find_eq_none_of_lt he₁, hkey, find_eq_none_of_lt hf₁]
      · have hn' : n ≠ f.1 := hkey ▸ hn
        simpa [find_cons, hn, hn'] using h n
    rw [hrest, show e = f from Prod.ext hkey hval]

theorem ext_get? {m m' : NameMap α} (h : ∀ n, m.get? n = m'.get? n) : m = m' := by
  obtain ⟨es, hes⟩ := m
  obtain ⟨fs, hfs⟩ := m'
  have : es = fs := entries_ext hes hfs h
  subst this
  rfl

end NameMap

/-- The texts in order, each once. -/
def sortedSet (ts : List Text) : List Text := (NameMap.ofList (ts.map fun t => (t, ()))).names

end LocalePaths
