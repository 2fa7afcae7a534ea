import LocalePaths.Proofs.Path.Composition

/-!
# Root directories

A root directory is `/`, or `/` and names with a separator behind each (`Path.IsRoot`). That is a canonical
absolute path with a separator at its end (`Path.isRoot_slashed`). A path that is made absolute has the
canonical form already, so that neither the second normalization nor the separator that is there already
changes anything: the root directory of a root directory is that directory (`Path.rootDirectory_of_isRoot`),
whatever the current directory is.
-/

namespace LocalePaths.Path

variable {cwd path dir root front back : Text} {names : List Text}

/-! ### Joining several paths -/

/-- A relative path is put behind what the other path leads with. -/
theorem join_eq_append (h : isAbsolute back = false) (front : Text) :
    join front back = join front [] ++ back := by
  have onto (back : Text) (h : isAbsolute back = false) :
      join front back = if front = [] then back
        else if front.getLast? = some '/' then front ++ back else front ++ '/' :: back := by
    simp [join, h]
  rw [onto back h, onto [] rfl]
  split
  · rfl
  · split
    · rw [List.append_nil]
    · rw [List.append_assoc, List.singleton_append]

theorem join_nil_append (front : Text) (h : back ≠ []) : join (front ++ back) [] = front ++ join back [] := by
  have filled : front ++ back ≠ [] := List.append_ne_nil_of_right_ne_nil front h
  simp only [join, isAbsolute, h, filled, List.getLast?_append_of_ne_nil front h, Bool.false_eq_true, or_self,
    if_false]
  split <;> rw [List.append_assoc]

theorem join_join_nil (front : Text) : join (join front []) [] = join front [] := by
  by_cases empty : front = []
  · rw [empty]
    rfl
  · by_cases last : front.getLast? = some '/' <;> simp [join, isAbsolute, empty, last]

theorem isAbsolute_join (h : isAbsolute front = true) (back : Text) :
    isAbsolute (join front back) = true := by
  cases relative : isAbsolute back with
  | true => rw [join_of_isAbsolute relative, relative]
  | false => exact (join_relative relative front).1.trans h

/-- Paths can be joined from either end. -/
theorem join_assoc (front middle back : Text) :
    join (join front middle) back = join front (join middle back) := by
  cases hback : isAbsolute back with
  | true => rw [join_of_isAbsolute hback, join_of_isAbsolute hback, join_of_isAbsolute hback]
  | false =>
    cases hmiddle : isAbsolute middle with
    | true => rw [join_of_isAbsolute hmiddle, join_of_isAbsolute (isAbsolute_join hmiddle back)]
    | false =>
      have relative : isAbsolute (join middle back) = false := (join_relative hback middle).1.trans hmiddle
      rw [join_eq_append hback, join_eq_append relative, join_eq_append hback middle, ← List.append_assoc]
      refine congrArg (· ++ back) ?_
      -- an empty path in the middle adds only a separator, and that only once
      by_cases empty : middle = []
      · rw [empty, join_join_nil]
        exact (List.append_nil _).symm
      · rw [join_eq_append hmiddle, join_nil_append _ empty]

/-! ### Absolute paths -/

theorem absolute_eq (cwd path : Text) : absolute cwd path = normalize (join cwd path) := by
  unfold absolute
  split
  · rename_i own
    rw [join_of_isAbsolute own]
  · rfl

theorem canonical_of_isAbsolute (h : isAbsolute path = true) : Canonical true (normalize path) :=
  h ▸ canonical_of_normalize path

theorem canonical_absolute (h : isAbsolute cwd = true) (path : Text) :
    Canonical true (absolute cwd path) := by
  rw [absolute_eq]
  exact canonical_of_isAbsolute (isAbsolute_join h path)

theorem isAbsolute_absolute (h : isAbsolute cwd = true) (path : Text) :
    isAbsolute (absolute cwd path) = true :=
  isAbsolute_of_canonical (canonical_absolute h path)

theorem absolute?_some (cwd path : Text) : absolute? (some cwd) path = some (absolute cwd path) := by
  unfold absolute? absolute
  split <;> rfl

theorem absolute?_of_isAbsolute (h : isAbsolute path = true) (dir : Option Text) :
    absolute? dir path = some (normalize path) := if_pos h

/-- What has been made absolute is absolute if the current directory is. -/
theorem isAbsolute_of_absolute? {dir : Option Text} {root : Text}
    (located : ∀ cwd, dir = some cwd → isAbsolute cwd = true) (h : absolute? dir path = some root) :
    isAbsolute root = true := by
  cases dir with
  | some cwd =>
    rw [absolute?_some] at h
    cases h
    exact isAbsolute_absolute (located cwd rfl) path
  | none =>
    unfold absolute? at h
    split at h
    · rename_i absolute
      cases h
      exact (isAbsolute_normalize path).trans absolute
    · cases h

theorem absolute_of_canonical (h : Canonical true dir) (cwd : Text) : absolute cwd dir = dir := by
  rw [absolute, if_pos (isAbsolute_of_canonical h), normalize_of_canonical h]

/-! ### Root directories -/

/-- A separator, and names that are followed by a separator each. -/
inductive IsRoot : Text → Prop
  | row (names : List Text) (proper : ∀ n ∈ names, IsName n) :
    IsRoot ('/' :: names.flatMap fun n => n ++ ['/'])

/-- The directory with a separator at its end. -/
def slashed (dir : Text) : Text := if dir = ['/'] then dir else dir ++ ['/']

theorem intercalate_slash (h : names ≠ []) :
    ['/'].intercalate names ++ ['/'] = names.flatMap fun n => n ++ ['/'] := by
  induction names with
  | nil => exact absurd rfl h
  | cons n names ih =>
    cases names with
    | nil => rw [List.intercalate_singleton, List.flatMap_singleton]
    | cons n' names =>
      rw [List.intercalate_cons_cons, List.append_assoc, ih (List.cons_ne_nil n' names)]
      rfl

theorem intercalate_names_ne_nil (proper : ∀ n ∈ names, IsName n) (h : names ≠ []) :
    ['/'].intercalate names ≠ [] :=
  (isAbsolute_intercalate (fun n hn => ⟨(proper n hn).nonempty, (proper n hn).single⟩) h).2

/-- A row of names ends as the last of them does. -/
theorem getLast?_intercalate (proper : ∀ n ∈ names, IsName n) :
    (['/'].intercalate names).getLast? ≠ some '/' := by
  induction names with
  | nil => exact nofun
  | cons n names ih =>
    obtain ⟨first, proper⟩ := List.forall_mem_cons.1 proper
    cases names with
    | nil =>
      rw [List.intercalate_singleton]
      exact fun last => first.single (List.mem_of_getLast? last)
    | cons n' names =>
      have filled := intercalate_names_ne_nil proper (List.cons_ne_nil n' names)
      rw [List.intercalate_cons_cons, List.getLast?_append_of_ne_nil _ filled]
      exact ih proper

/-- Only the topmost directory has a separator at its end in the canonical form. -/
theorem getLast?_of_canonical (h : Canonical true dir) : dir.getLast? = some '/' ↔ dir = ['/'] := by
  refine ⟨fun last => ?_, fun top => top ▸ rfl⟩
  cases h with
  | absolute names proper =>
    by_cases none : names = []
    · rw [none]
      rfl
    · rw [List.getLast?_cons_of_ne_nil (intercalate_names_ne_nil proper none)] at last
      exact absurd last (getLast?_intercalate proper)

theorem slashed_names (proper : ∀ n ∈ names, IsName n) :
    slashed ('/' :: ['/'].intercalate names) = '/' :: names.flatMap fun n => n ++ ['/'] := by
  by_cases none : names = []
  · rw [none]
    rfl
  · have filled := intercalate_names_ne_nil proper none
    rw [slashed, if_neg fun top => filled (List.cons.inj top).2, List.cons_append, intercalate_slash none]

theorem isRoot_slashed (h : Canonical true dir) : IsRoot (slashed dir) := by
  cases h with
  | absolute names proper =>
    rw [slashed_names proper]
    exact .row names proper

theorem exists_slashed (h : IsRoot root) : ∃ dir, Canonical true dir ∧ slashed dir = root := by
  cases h with
  | row names proper => exact ⟨_, .absolute names proper, slashed_names proper⟩

/-- A separator at the end of a directory makes no difference to its absolute form. -/
theorem absolute_slashed (h : isAbsolute dir = true) (cwd : Text) :
    absolute cwd (slashed dir) = absolute cwd dir := by
  unfold slashed
  split
  · rfl
  · have filled : dir ≠ [] := fun empty => nomatch empty ▸ h
    have lead : isAbsolute (dir ++ ['/']) = isAbsolute dir := isAbsolute_append filled ['/']
    rw [absolute, absolute, lead, if_pos h, if_pos h]
    refine normalize_congr lead ?_
    rw [lead]
    exact walk_slashes (isAbsolute dir) [] dir 1

theorem rootDirectory_ne_nil (cwd root : Text) : rootDirectory cwd root ≠ [] := by
  unfold rootDirectory
  dsimp only
  split
  · rename_i ends
    intro empty
    rw [empty] at ends
    cases ends
  · exact List.append_ne_nil_of_right_ne_nil _ (List.cons_ne_nil _ _)

theorem rootDirectory_eq (h : Canonical true (absolute cwd path)) :
    rootDirectory cwd path = slashed (absolute cwd path) := by
  simp only [rootDirectory, slashed, getLast?_of_canonical h]

theorem rootDirectory_of_canonical (h : Canonical true dir) (cwd : Text) :
    rootDirectory cwd dir = slashed dir := by
  have same := absolute_of_canonical h cwd
  rw [rootDirectory_eq (same.symm ▸ h), same]

theorem isRoot_rootDirectory (h : isAbsolute cwd = true) (path : Text) : IsRoot (rootDirectory cwd path) := by
  have canonical := canonical_absolute h path
  rw [rootDirectory_eq canonical]
  exact isRoot_slashed canonical

/-- A root directory is the root directory of itself, wherever it is asked for. -/
theorem rootDirectory_of_isRoot (h : IsRoot root) (cwd : Text) : rootDirectory cwd root = root := by
  obtain ⟨dir, canonical, rfl⟩ := exists_slashed h
  have same := absolute_slashed (isAbsolute_of_canonical canonical) cwd
  have again : rootDirectory cwd (slashed dir) = rootDirectory cwd dir := by
    rw [rootDirectory, rootDirectory, same]
  rw [again, rootDirectory_of_canonical canonical]

end LocalePaths.Path
