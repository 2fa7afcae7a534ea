import LocalePaths.Proofs.Pattern.Segments

/-!
# The canonical form of a path

An absolute path in canonical form has names only; a relative one may go up before the first name, and
one that leads nowhere is `.` (`Path.Canonical`). Normalizing gives this form, and the paths that it
leaves as they are are those that have it already (`Path.canonical_normalize`).

What is kept while segments are read is `Path.Resolved`: the names that were read last are on top of the
stack, and below them is only what goes up, which an absolute path does not have.
-/

namespace LocalePaths.Path

variable {a : Bool} {s path front : Text} {ss stack names : List Text}

/-- A segment that goes down to a file or a directory. -/
structure IsName (s : Text) : Prop where
  nonempty : s ≠ []
  not_here : s ≠ ['.']
  not_parent : s ≠ parent
  single : '/' ∉ s

/-- The canonical form of an absolute path, or of a relative one. -/
inductive Canonical : Bool → Text → Prop
  | absolute (names : List Text) (proper : ∀ n ∈ names, IsName n) :
    Canonical true ('/' :: ['/'].intercalate names)
  | relative (ups : Nat) (names : List Text) (proper : ∀ n ∈ names, IsName n)
    (nonempty : List.replicate ups parent ++ names ≠ []) :
    Canonical false (['/'].intercalate (List.replicate ups parent ++ names))
  | here : Canonical false ['.']

/-! ### Segments -/

theorem isAbsolute_iff : isAbsolute path = true ↔ path.head? = some '/' := by
  cases path with
  | nil => exact iff_of_false nofun nofun
  | cons c path =>
    unfold isAbsolute
    split <;> simp_all

theorem isAbsolute_append (h : front ≠ []) (back : Text) :
    isAbsolute (front ++ back) = isAbsolute front := by
  rw [Bool.eq_iff_iff, isAbsolute_iff, isAbsolute_iff, List.head?_append_of_ne_nil front h]

theorem isAbsolute_of_not_mem (h : '/' ∉ path) : isAbsolute path = false :=
  Bool.eq_false_iff.2 fun lead => h (List.mem_of_head? (isAbsolute_iff.1 lead))

theorem segments_append_slash (front back : Text) :
    segments (front ++ '/' :: back) = segments front ++ segments back := by
  induction front using segments_induction with
  | single front h => rw [segments_slash h, segments_single h, List.singleton_append]
  | slash first front h ih =>
    rw [List.append_assoc, List.cons_append, segments_slash h, ih, segments_slash h, List.cons_append]

theorem not_mem_segments (path : Text) : ∀ s ∈ segments path, '/' ∉ s := by
  induction path using segments_induction with
  | single path h =>
    rw [segments_single h]
    exact List.forall_mem_singleton.2 h
  | slash first path h ih =>
    rw [segments_slash h]
    exact List.forall_mem_cons.2 ⟨h, ih⟩

theorem segments_intercalate (plain : ∀ s ∈ ss, '/' ∉ s) (nonempty : ss ≠ []) :
    segments (['/'].intercalate ss) = ss := by
  induction ss with
  | nil => exact absurd rfl nonempty
  | cons s ss ih =>
    obtain ⟨hs, hss⟩ := List.forall_mem_cons.1 plain
    cases ss with
    | nil => rw [List.intercalate_singleton, segments_single hs]
    | cons s' ss =>
      rw [List.intercalate_cons_cons, List.append_assoc, List.singleton_append, segments_slash hs,
        ih hss (List.cons_ne_nil s' ss)]

/-- A row of segments that are not empty is a relative path, and not empty. -/
theorem isAbsolute_intercalate (filled : ∀ s ∈ ss, s ≠ [] ∧ '/' ∉ s) (nonempty : ss ≠ []) :
    isAbsolute (['/'].intercalate ss) = false ∧ ['/'].intercalate ss ≠ [] := by
  obtain ⟨s, ss, rfl⟩ := List.exists_cons_of_ne_nil nonempty
  obtain ⟨filled, single⟩ := filled s List.mem_cons_self
  have starts : ∃ back, ['/'].intercalate (s :: ss) = s ++ back := by
    cases ss with
    | nil => exact ⟨[], by rw [List.intercalate_singleton, List.append_nil]⟩
    | cons s' ss => exact ⟨_, by rw [List.intercalate_cons_cons, List.append_assoc]⟩
  obtain ⟨back, eq⟩ := starts
  rw [eq, isAbsolute_append filled, isAbsolute_of_not_mem single]
  exact ⟨rfl, fun empty => filled (List.append_eq_nil_iff.1 empty).1⟩

/-! ### Reading one segment -/

theorem push_nil (a : Bool) (stack : List Text) : push a stack [] = stack := if_pos (.inl rfl)

theorem push_here (a : Bool) (stack : List Text) : push a stack ['.'] = stack := if_pos (.inr rfl)

theorem push_name (h : IsName s) (a : Bool) (stack : List Text) : push a stack s = s :: stack := by
  unfold push
  rw [if_neg (not_or.2 ⟨h.nonempty, h.not_here⟩), if_neg h.not_parent]

theorem push_parent_name (h : IsName s) (a : Bool) (stack : List Text) :
    push a (s :: stack) parent = stack := by
  unfold push
  rw [if_neg (by decide), if_pos rfl]
  exact if_neg h.not_parent

theorem push_parent_ups (n : Nat) :
    push false (List.replicate n parent) parent = List.replicate (n + 1) parent := by
  cases n <;> rfl

/-- Every segment is skipped, goes up, or goes down. -/
theorem segment_cases (h : '/' ∉ s) : (∀ a stack, push a stack s = stack) ∨ s = parent ∨ IsName s := by
  by_cases empty : s = []
  · exact .inl fun a stack => empty ▸ push_nil a stack
  by_cases here : s = ['.']
  · exact .inl fun a stack => here ▸ push_here a stack
  by_cases up : s = parent
  · exact .inr (.inl up)
  · exact .inr (.inr ⟨empty, here, up, h⟩)

/-! ### Reading all segments -/

/-- The segments that are left of a path, with the last one first. -/
inductive Resolved (absolute : Bool) : List Text → Prop
  | ups (n : Nat) (root : absolute = true → n = 0) : Resolved absolute (List.replicate n parent)
  | name {s : Text} {stack : List Text} (first : IsName s) (rest : Resolved absolute stack) :
    Resolved absolute (s :: stack)

theorem resolved_iff : Resolved a stack ↔ ∃ names ups, stack = names ++ List.replicate ups parent ∧
    (∀ n ∈ names, IsName n) ∧ (a = true → ups = 0) := by
  constructor
  · intro h
    induction h with
    | ups n root => exact ⟨[], n, rfl, nofun, root⟩
    | name first _ ih =>
      obtain ⟨names, ups, rfl, proper, root⟩ := ih
      exact ⟨_ :: names, ups, rfl, List.forall_mem_cons.2 ⟨first, proper⟩, root⟩
  · rintro ⟨names, ups, rfl, proper, root⟩
    induction names with
    | nil => exact .ups ups root
    | cons n names ih =>
      obtain ⟨first, proper⟩ := List.forall_mem_cons.1 proper
      exact .name first (ih proper)

theorem Resolved.filled (h : Resolved a stack) : ∀ s ∈ stack, s ≠ [] ∧ '/' ∉ s := by
  induction h with
  | ups n _ =>
    intro s hs
    rw [List.eq_of_mem_replicate hs]
    decide
  | name first _ ih => exact List.forall_mem_cons.2 ⟨⟨first.nonempty, first.single⟩, ih⟩

theorem Resolved.push (h : Resolved a stack) (hs : '/' ∉ s) : Resolved a (push a stack s) := by
  rcases segment_cases hs with skipped | rfl | name
  · rwa [skipped]
  · cases h with
    | name first rest => rwa [push_parent_name first]
    | ups n root =>
      cases a with
      | true =>
        obtain rfl := root rfl
        exact .ups 0 root
      | false =>
        rw [push_parent_ups]
        exact .ups (n + 1) nofun
  · rw [push_name name]
    exact .name name h

/-- The segments that are left after those of a path, on top of what was left before. -/
def walk (absolute : Bool) (stack : List Text) (path : Text) : List Text :=
  (segments path).foldl (push absolute) stack

theorem Resolved.walk (h : Resolved a stack) (path : Text) : Resolved a (walk a stack path) := by
  have read : ∀ ss : List Text, (∀ s ∈ ss, '/' ∉ s) → ∀ stack, Resolved a stack →
      Resolved a (ss.foldl (Path.push a) stack) := by
    intro ss plain
    induction ss with
    | nil => exact fun _ h => h
    | cons s ss ih =>
      obtain ⟨hs, hss⟩ := List.forall_mem_cons.1 plain
      exact fun stack h => ih hss _ (h.push hs)
  exact read _ (not_mem_segments path) stack h

theorem resolved_walk (path : Text) : Resolved (isAbsolute path) (walk (isAbsolute path) [] path) :=
  Resolved.walk (.ups 0 fun _ => rfl) path

/-- What is left is left as it is when it is read once more. -/
theorem Resolved.foldl_reverse (h : Resolved a stack) : stack.reverse.foldl (Path.push a) [] = stack := by
  induction h with
  | ups n root =>
    induction n with
    | zero => rfl
    | succ n ih =>
      cases a with
      | true => cases root rfl
      | false =>
        rw [List.replicate_succ, List.reverse_cons, List.foldl_append, ih nofun]
        exact push_parent_ups n
  | name first _ ih =>
    rw [List.reverse_cons, List.foldl_append, ih]
    exact push_name first a _

theorem walk_slash (a : Bool) (stack : List Text) (front back : Text) :
    walk a stack (front ++ '/' :: back) = walk a (walk a stack front) back := by
  rw [walk, segments_append_slash, List.foldl_append]
  rfl

theorem walk_intercalate (plain : ∀ s ∈ ss, '/' ∉ s) (a : Bool) (stack : List Text) :
    walk a stack (['/'].intercalate ss) = ss.foldl (push a) stack := by
  cases ss with
  | nil => exact push_nil a stack
  | cons s ss => rw [walk, segments_intercalate plain (List.cons_ne_nil s ss)]

/-! ### Normalizing -/

theorem normalize_congr {path path' : Text} (lead : isAbsolute path = isAbsolute path')
    (same : walk (isAbsolute path) [] path = walk (isAbsolute path') [] path') :
    normalize path = normalize path' := by
  have same : resolved path = resolved path' := congrArg List.reverse same
  rw [normalize, normalize, lead, same]

/-- The segments of a canonical path, which are left as they are. -/
theorem resolved_row (ups : Nat) (proper : ∀ n ∈ names, IsName n) (root : a = true → ups = 0) :
    Resolved a (List.replicate ups parent ++ names).reverse := by
  refine resolved_iff.2 ⟨names.reverse, ups, ?_, fun n hn => proper n (List.mem_reverse.1 hn), root⟩
  rw [List.reverse_append, List.reverse_replicate]

theorem Resolved.walk_intercalate (h : Resolved a ss.reverse) :
    Path.walk a [] (['/'].intercalate ss) = ss.reverse := by
  have plain : ∀ s ∈ ss, '/' ∉ s := fun s hs => (h.filled s (List.mem_reverse.2 hs)).2
  have again := h.foldl_reverse
  rw [List.reverse_reverse] at again
  rw [Path.walk_intercalate plain, again]

theorem isAbsolute_of_canonical (h : Canonical a path) : isAbsolute path = a := by
  cases h with
  | absolute => rfl
  | here => rfl
  | relative ups names proper nonempty =>
    have row : Resolved false _ := resolved_row ups proper nofun
    exact (isAbsolute_intercalate (fun s hs => row.filled s (List.mem_reverse.2 hs)) nonempty).1

theorem canonical_of_normalize (path : Text) : Canonical (isAbsolute path) (normalize path) := by
  obtain ⟨names, ups, eq, proper, root⟩ := resolved_iff.1 (resolved_walk path)
  have proper : ∀ n ∈ names.reverse, IsName n := fun n hn => proper n (List.mem_reverse.1 hn)
  have eq : resolved path = List.replicate ups parent ++ names.reverse := by
    rw [← List.reverse_replicate, ← List.reverse_append, ← eq]
    rfl
  rw [normalize, eq]
  cases lead : isAbsolute path with
  | true =>
    obtain rfl := root lead
    exact .absolute names.reverse proper
  | false =>
    simp only [Bool.false_eq_true, if_false]
    split
    · exact .here
    · rename_i nonempty
      exact .relative ups names.reverse proper fun none => nonempty (congrArg _ none)

theorem normalize_of_canonical (h : Canonical a path) : normalize path = path := by
  have lead := isAbsolute_of_canonical h
  cases h with
  | absolute names proper =>
    have row : Resolved true names.reverse := resolved_row 0 proper fun _ => rfl
    have eq : (walk true [] (['/'].intercalate names)).reverse = names := by
      rw [row.walk_intercalate, List.reverse_reverse]
    exact congrArg (fun ss => '/' :: ['/'].intercalate ss) eq
  | here => rfl
  | relative ups names proper nonempty =>
    have row : Resolved false _ := resolved_row ups proper nofun
    have filled := isAbsolute_intercalate (fun s hs => row.filled s (List.mem_reverse.2 hs)) nonempty
    have eq : resolved (['/'].intercalate (List.replicate ups parent ++ names)) =
        List.replicate ups parent ++ names := by
      show (walk (isAbsolute _) [] _).reverse = _
      rw [lead, row.walk_intercalate, List.reverse_reverse]
    rw [normalize, eq, lead, if_neg Bool.false_ne_true, if_neg filled.2]

theorem isAbsolute_normalize (path : Text) : isAbsolute (normalize path) = isAbsolute path :=
  isAbsolute_of_canonical (canonical_of_normalize path)

theorem normalize_normalize (path : Text) : normalize (normalize path) = normalize path :=
  normalize_of_canonical (canonical_of_normalize path)

/-- Normalizing gives the canonical form, which is absolute exactly if the path is. What is canonical is
left as it is, and nothing else is, so that a second time changes nothing. -/
theorem canonical_normalize (path : Text) : Canonical (isAbsolute path) (normalize path) ∧
    isAbsolute (normalize path) = isAbsolute path ∧ normalize (normalize path) = normalize path ∧
      (normalize path = path ↔ Canonical (isAbsolute path) path) := by
  have canonical := canonical_of_normalize path
  refine ⟨canonical, isAbsolute_normalize path, normalize_normalize path, ?_, normalize_of_canonical⟩
  intro same
  rwa [same] at canonical

end LocalePaths.Path
