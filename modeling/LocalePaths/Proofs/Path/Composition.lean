import LocalePaths.Proofs.Path.Canonical
import Mathlib.Data.List.TakeWhile

/-!
# Normalizing the parts of a path

Paths can be normalized before they are joined, and a path can be taken apart into its directory and the
name in it, without a difference to the canonical form of the whole (`Path.normalize_join`).

The reason is that a canonical path leads from every place to where the path itself leads
(`Path.walk_normalize`): what is left of its segments does to any stack what all of them do
(`Path.Resolved.foldl_push`). An absolute path is read from the root only, where nothing is above.
-/

namespace LocalePaths.Path

open Token (IsLead)

variable {a b : Bool} {s path front back : Text} {stack left : List Text}

/-! ### What a canonical path does to a stack -/

/-- What is left after one more segment does what that segment does after what was left before. An
absolute path is read from the root. -/
theorem Resolved.foldl_push (h : Resolved a left) (hs : '/' ∉ s)
    (root : a = true → b = true ∧ stack = []) :
    (Path.push a left s).reverse.foldl (Path.push b) stack =
      Path.push b (left.reverse.foldl (Path.push b) stack) s := by
  have pushed (s : Text) : (s :: left).reverse.foldl (Path.push b) stack =
      Path.push b (left.reverse.foldl (Path.push b) stack) s := by
    rw [List.reverse_cons, List.foldl_append]
    rfl
  rcases segment_cases hs with skipped | rfl | name
  · rw [skipped, skipped]
  · cases h with
    | name first rest =>
      -- the name is taken back on both sides
      rw [push_parent_name first, List.reverse_cons, List.foldl_append]
      exact ((congrArg (Path.push b · parent) (push_name first b _)).trans (push_parent_name first b _)).symm
    | ups n top =>
      cases a with
      | true =>
        obtain rfl := top rfl
        obtain ⟨rfl, rfl⟩ := root rfl
        rfl
      | false =>
        rw [push_parent_ups, List.replicate_succ]
        exact pushed parent
  · rw [push_name name]
    exact pushed s

theorem foldl_resolved (root : isAbsolute path = true → b = true ∧ stack = []) :
    (resolved path).foldl (push b) stack = walk b stack path := by
  have read : ∀ ss : List Text, (∀ s ∈ ss, '/' ∉ s) → ∀ left, Resolved (isAbsolute path) left →
      (ss.foldl (push (isAbsolute path)) left).reverse.foldl (push b) stack =
        ss.foldl (push b) (left.reverse.foldl (push b) stack) := by
    intro ss plain
    induction ss with
    | nil => exact fun _ _ => rfl
    | cons s ss ih =>
      obtain ⟨hs, hss⟩ := List.forall_mem_cons.1 plain
      intro left h
      rw [List.foldl_cons, ih hss _ (h.push hs), h.foldl_push hs root, List.foldl_cons]
  exact read _ (not_mem_segments path) [] (.ups 0 fun _ => rfl)

theorem walk_normalize (root : isAbsolute path = true → b = true ∧ stack = []) :
    walk b stack (normalize path) = walk b stack path := by
  have plain : ∀ s ∈ resolved path, '/' ∉ s := fun s hs =>
    ((resolved_walk path).filled s (List.mem_reverse.1 hs)).2
  have joined : walk b stack (['/'].intercalate (resolved path)) = walk b stack path :=
    (walk_intercalate plain b stack).trans (foldl_resolved root)
  rw [← joined, normalize]
  split
  · exact congrArg (List.foldl (push b) · _) (push_nil b stack)
  · split
    · rename_i empty
      rw [empty]
      exact (push_here b stack).trans (push_nil b stack).symm
    · rfl

/-! ### Joining -/

theorem walk_slashes (a : Bool) (stack : List Text) (front : Text) (n : Nat) :
    walk a stack (front ++ List.replicate n '/') = walk a stack front := by
  induction n with
  | zero => rw [List.replicate_zero, List.append_nil]
  | succ n ih =>
    rw [List.replicate_succ', ← List.append_assoc, walk_slash, ih]
    exact push_nil a _

/-- What stands before a separator is read first. -/
theorem walk_append (lead : IsLead front) (a : Bool) (stack : List Text) (back : Text) :
    walk a stack (front ++ back) = walk a (walk a stack front) back := by
  rcases lead with rfl | last
  · exact congrArg (walk a · back) (push_nil a stack).symm
  · obtain ⟨front, rfl⟩ := List.getLast?_eq_some_iff.1 last
    have same : walk a stack (front ++ ['/']) = walk a stack front := walk_slashes a stack front 1
    rw [List.append_assoc, List.singleton_append, walk_slash, same]

theorem isAbsolute_append_relative (h : isAbsolute back = false) (front : Text) :
    isAbsolute (front ++ back) = isAbsolute front := by
  cases front with
  | nil => exact h
  | cons c front => exact isAbsolute_append (List.cons_ne_nil c front) back

theorem join_of_isAbsolute (h : isAbsolute back = true) (front : Text) : join front back = back :=
  if_pos (.inl h)

/-- A relative path is read after the one that it is joined to. -/
theorem join_relative (h : isAbsolute back = false) (front : Text) :
    isAbsolute (join front back) = isAbsolute front ∧
      ∀ a stack, walk a stack (join front back) = walk a (walk a stack front) back := by
  unfold join
  split
  · rename_i alone
    obtain rfl : front = [] := alone.resolve_left (by simp [h])
    exact ⟨h, fun a stack => walk_append (.inl rfl) a stack back⟩
  · rename_i under
    have filled : front ≠ [] := fun empty => under (.inr empty)
    split
    · rename_i last
      exact ⟨isAbsolute_append filled back, fun a stack => walk_append (.inr last) a stack back⟩
    · exact ⟨isAbsolute_append filled _, fun a stack => walk_slash a stack front back⟩

theorem normalize_join_normalize (front back : Text) :
    normalize (join (normalize front) (normalize back)) = normalize (join front back) := by
  have leadBack := isAbsolute_normalize back
  cases h : isAbsolute back with
  | true => rw [join_of_isAbsolute h, join_of_isAbsolute (leadBack.trans h), normalize_normalize]
  | false =>
    obtain ⟨lead, read⟩ := join_relative h front
    obtain ⟨lead', read'⟩ := join_relative (leadBack.trans h) (normalize front)
    refine normalize_congr (lead'.trans ((isAbsolute_normalize front).trans lead.symm)) ?_
    rw [lead', lead, isAbsolute_normalize, read, read', walk_normalize fun top => ⟨top, rfl⟩]
    exact walk_normalize fun top => absurd (top.symm.trans h) nofun

/-! ### Directory and name -/

theorem head_append_fileName (path : Text) : head path ++ fileName path = path := by
  rw [head, fileName, ← List.reverse_append, List.takeWhile_append_dropWhile, List.reverse_reverse]

theorem not_mem_fileName (path : Text) : '/' ∉ fileName path := fun h => by
  simpa using List.mem_takeWhile_imp (List.mem_reverse.1 h)

theorem isLead_head (path : Text) : IsLead (head path) := by
  have last := List.head?_dropWhile_not (fun c => decide (c ≠ '/')) path.reverse
  unfold head IsLead
  rw [List.getLast?_reverse]
  cases h : path.reverse.dropWhile fun c => decide (c ≠ '/') with
  | nil => exact .inl rfl
  | cons c rest =>
    rw [h] at last
    exact .inr (congrArg some (by simpa using last))

/-- The directory is what stands before the name, apart from separators at its end. -/
theorem directory_spec (path : Text) : isAbsolute (directory path) = isAbsolute (head path) ∧
    ∀ a stack, walk a stack (directory path) = walk a stack (head path) := by
  unfold directory
  split
  · exact ⟨rfl, fun _ _ => rfl⟩
  · rename_i other
    have slashes : ∃ n, (head path).reverse.takeWhile (· = '/') = List.replicate n '/' :=
      ⟨_, List.eq_replicate_iff.2 ⟨rfl, fun c hc => by simpa using List.mem_takeWhile_imp hc⟩⟩
    obtain ⟨n, slashes⟩ := slashes
    have split : head path = ((head path).reverse.dropWhile (· = '/')).reverse ++ List.replicate n '/' := by
      rw [← List.reverse_replicate, ← slashes, ← List.reverse_append, List.takeWhile_append_dropWhile,
        List.reverse_reverse]
    have filled : ((head path).reverse.dropWhile (· = '/')).reverse ≠ [] := by
      simpa [List.dropWhile_eq_nil_iff] using other
    refine ⟨?_, fun a stack => ?_⟩
    · conv_rhs => rw [split]
      exact (isAbsolute_append filled _).symm
    · conv_rhs => rw [split]
      exact (walk_slashes a stack _ n).symm

theorem normalize_join_fileName (path : Text) :
    normalize (join (directory path) (fileName path)) = normalize path := by
  have single := isAbsolute_of_not_mem (not_mem_fileName path)
  obtain ⟨lead, read⟩ := join_relative single (directory path)
  obtain ⟨leadDir, readDir⟩ := directory_spec path
  have whole := isAbsolute_append_relative single (head path)
  have first := walk_append (isLead_head path) (isAbsolute path) [] (fileName path)
  rw [head_append_fileName] at whole first
  have lead : isAbsolute (join (directory path) (fileName path)) = isAbsolute path :=
    lead.trans (leadDir.trans whole.symm)
  refine normalize_congr lead ?_
  rw [lead, read, readDir, first]

/-- The parts of a path can be normalized before they are joined, and a path can be split before the name
at its end: the canonical form of the whole stays the same. -/
theorem normalize_join (front back path : Text) :
    normalize (join front back) = normalize (join (normalize front) (normalize back)) ∧
      (path = head path ++ fileName path ∧ IsLead (head path) ∧ '/' ∉ fileName path) ∧
        normalize (join (directory path) (fileName path)) = normalize path :=
  ⟨(normalize_join_normalize front back).symm,
    ⟨(head_append_fileName path).symm, isLead_head path, not_mem_fileName path⟩,
    normalize_join_fileName path⟩

end LocalePaths.Path
