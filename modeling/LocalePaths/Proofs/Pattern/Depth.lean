import LocalePaths.Pattern.Render
import LocalePaths.Proofs.NameMap

/-!
# Expansions that end

Every variable that is entered hides its name, so an expansion can only go on without end through
wildcards, which hide nothing, and through the locale, which the variable `android_locale` enters without
hiding it. It ends in a scope where what wildcards are bound to has only literals and variables, and the
locale does not use `android_locale` directly (`Scope.Grounded`); the bound `Scope.depth` then suffices
(`Pattern.render_isSome`).
-/

namespace LocalePaths

/-- How many bindings can be entered at a node one after another before a name is hidden. -/
def Node.rank : Node → Nat
  | .literal _ | .variable _ _ => 0
  | .star _ | .starstar _ _ => 1
  | .android _ => 2

theorem Node.rank_le_two (n : Node) : n.rank ≤ 2 := by
  cases n <;> simp [rank]

theorem Node.rank_le_one {n : Node} (h : ∀ repeated, n ≠ .android repeated) : n.rank ≤ 1 := by
  cases n with
  | android repeated => exact absurd rfl (h repeated)
  | _ => simp [rank]

theorem Node.rank_eq_zero {n : Node} (wild : n.isWildcard = false) (h : ∀ repeated, n ≠ .android repeated) :
    n.rank = 0 := by
  cases n with
  | star | starstar => cases wild
  | android repeated => exact absurd rfl (h repeated)
  | literal | «variable» => rfl

namespace Scope
variable {s : Scope} {x : Text} {v : Pattern}

theorem lookup_eq_some (h : s.lookup x = some v) :
    x ∉ s.hidden ∧ (s.env.get? x = some v ∨ s.fallback.get? x = some v) := by
  unfold lookup at h
  split at h
  · cases h
  · rename_i hx
    refine ⟨by simpa using hx, ?_⟩
    rcases Option.or_eq_some_iff.1 h with h | ⟨-, h⟩
    · exact .inl h
    · exact .inr h

/-- The names that a scope binds and does not hide. -/
def visible (s : Scope) : List Text :=
  (s.env.names ++ s.fallback.names).filter fun x => !s.hidden.contains x

theorem visible_hide (s : Scope) (x : Text) :
    (s.hide x).visible = s.visible.filter fun y => !(y == x) := by
  rw [visible, visible, List.filter_filter]
  congr 1
  funext y
  rw [hide, List.contains_cons, Bool.not_or]

theorem length_visible_hide_le (s : Scope) (x : Text) :
    (s.hide x).visible.length ≤ s.visible.length := by
  rw [visible_hide]
  exact List.length_filter_le ..

/-- Hiding a name that is bound leaves fewer names. -/
theorem length_visible_hide_lt (h : s.lookup x = some v) :
    (s.hide x).visible.length < s.visible.length := by
  obtain ⟨hidden, bound⟩ := lookup_eq_some h
  have named : x ∈ s.env.names ++ s.fallback.names :=
    List.mem_append.2 (bound.imp NameMap.mem_names NameMap.mem_names)
  have visible : x ∈ s.visible := List.mem_filter.2 ⟨named, by simpa using hidden⟩
  rw [visible_hide]
  exact List.length_filter_lt_length_iff_exists.2 ⟨x, visible, by simp⟩

theorem length_visible_le (s : Scope) : s.visible.length ≤ s.env.size + s.fallback.size := by
  have all : (s.env.names ++ s.fallback.names).length = s.env.size + s.fallback.size := by
    rw [List.length_append, NameMap.names, NameMap.names, List.length_map, List.length_map]
    rfl
  rw [← all]
  exact List.length_filter_le ..

/-- Three bindings are entered at most for each name that is hidden. -/
theorem visible_lt_depth (s : Scope) : 3 * s.visible.length + 2 < s.depth := by
  have visible := s.length_visible_le
  have square := Nat.mul_le_mul_left (s.env.size + s.fallback.size + 2)
    (Nat.le_add_left 2 (s.env.size + s.fallback.size))
  show _ < 2 * ((s.env.size + s.fallback.size + 2) * (s.env.size + s.fallback.size + 2))
  omega

/-- No binding is entered over and over without hiding a name. -/
structure Grounded (s : Scope) : Prop where
  wildcard : ∀ id v, s.env.get? (starName id) = some v ∨ s.fallback.get? (starName id) = some v →
    ∀ n ∈ v.nodes, n.rank = 0
  locale : ∀ v, s.env.get? localeName = some v ∨ s.fallback.get? localeName = some v →
    ∀ n ∈ v.nodes, n.rank ≤ 1

theorem Grounded.hide (h : s.Grounded) (x : Text) : (s.hide x).Grounded := ⟨h.wildcard, h.locale⟩

end Scope

section
variable {s : Scope} {mode : Mode} {n : Node} {ns : List Node} {x : Text} {d k : Nat}

theorem renderAll_isSome {renderOne : Node → Option Rendered}
    (h : ∀ n ∈ ns, (renderOne n).isSome) : (renderAll renderOne ns).isSome := by
  induction ns with
  | nil => rfl
  | cons n ns ih =>
    obtain ⟨hn, hns⟩ := List.forall_mem_cons.1 h
    obtain ⟨first, hf⟩ := Option.isSome_iff_exists.1 hn
    obtain ⟨later, hl⟩ := Option.isSome_iff_exists.1 (ih hns)
    unfold renderAll
    rw [hf, hl]
    simp only [Option.bind_eq_bind, Option.bind_some]
    split <;> rfl

theorem renderBinding_isSome {inner : Renderer} (h : ∀ v, s.lookup x = some v →
    (inner .halt (s.hide androidLocale) v.nodes).isSome) : (renderBinding inner s x).isSome := by
  unfold renderBinding
  cases hx : s.lookup x with
  | none => rfl
  | some v => exact Option.isSome_map.trans (h v hx)

theorem qualifier?_isSome {inner : Renderer} (hl : (renderBinding inner s localeName).isSome)
    (ha : (renderBinding inner s androidLocale).isSome) : (qualifier? inner s).isSome := by
  unfold qualifier?
  obtain ⟨tag, ht⟩ := Option.isSome_iff_exists.1 hl
  rw [ht]
  cases tag with
  | some tag => rfl
  | none => exact ha

/-- Nodes are rendered within a depth that leaves three steps for each name that is not hidden. -/
theorem renderNodes_isSome (hg : s.Grounded) (rank : ∀ n ∈ ns, n.rank ≤ k)
    (deep : 3 * s.visible.length + k < d) : (renderNodes d mode s ns).isSome := by
  induction d generalizing s mode ns k with
  | zero => exact absurd deep (Nat.not_lt_zero _)
  | succ d ih =>
    refine renderAll_isSome fun n hn => ?_
    have rank := rank n hn
    -- entering a name that is hidden on the way leaves room for every node
    have enter : ∀ {mode x v}, s.lookup x = some v → (renderNodes d mode (s.hide x) v.nodes).isSome := by
      intro mode x v hl
      have fewer := Scope.length_visible_hide_lt hl
      exact ih (hg.hide x) (fun n _ => n.rank_le_two) (by omega)
    cases n with
    | literal t => rfl
    | star id | starstar id ending =>
      rw [renderNode]
      cases hl : s.lookup (starName id) with
      | none => rfl
      | some v =>
        have plain := hg.wildcard id v (Scope.lookup_eq_some hl).2
        have rank : 1 ≤ k := rank
        exact ih hg (fun n hn => Nat.le_of_eq (plain n hn)) (by omega)
    | «variable» x repeated =>
      rw [renderNode]
      cases hl : s.lookup x with
      | none => rfl
      | some v => exact enter hl
    | android repeated =>
      have rank : 2 ≤ k := rank
      have tag : (renderBinding (renderNodes d) s localeName).isSome :=
        renderBinding_isSome fun v hl => by
          have direct := hg.locale v (Scope.lookup_eq_some hl).2
          have fewer := s.length_visible_hide_le androidLocale
          exact ih (hg.hide _) direct (by omega)
      have code : (renderBinding (renderNodes d) s androidLocale).isSome :=
        renderBinding_isSome fun v hl => enter hl
      obtain ⟨answer, ha⟩ := Option.isSome_iff_exists.1 (qualifier?_isSome tag code)
      rw [renderNode, ha]
      cases answer <;> rfl

/-- It can be told which qualifier a scope that is grounded stands for. -/
theorem Scope.Grounded.qualifier?_isSome (hg : s.Grounded) : (qualifier? (renderNodes s.depth) s).isSome := by
  have written : ∀ x, (renderBinding (renderNodes s.depth) s x).isSome := fun x =>
    renderBinding_isSome fun v _ => by
      have fewer := s.length_visible_hide_le androidLocale
      have deep := s.visible_lt_depth
      exact renderNodes_isSome (hg.hide _) (fun n _ => n.rank_le_two) (by omega)
  exact LocalePaths.qualifier?_isSome (written localeName) (written androidLocale)

namespace Pattern
variable {p : Pattern}

theorem rootText_isSome_of (h : (renderNodes s.depth .halt s (p.nodes.take 1)).isSome) :
    (p.rootText s).isSome := by
  unfold rootText
  cases p.root with
  | none => rfl
  | some root => exact Option.isSome_map.trans h

/-- A pattern is rendered if all of its nodes are. -/
theorem render_isSome_of (h : ∀ mode, ∀ ns ⊆ p.nodes, (renderNodes s.depth mode s ns).isSome) :
    (p.render mode s).isSome := by
  obtain ⟨root, hr⟩ := Option.isSome_iff_exists.1
    (rootText_isSome_of (h .halt _ (List.take_subset 1 p.nodes)))
  obtain ⟨body, hb⟩ := Option.isSome_iff_exists.1 (h mode _ (List.Subset.refl _))
  unfold render
  rw [hr, hb]
  rfl

/-- Every pattern is rendered in a scope that is grounded. -/
theorem render_isSome (p : Pattern) (hg : s.Grounded) : (p.render mode s).isSome :=
  render_isSome_of fun _ _ _ => renderNodes_isSome hg (fun n _ => n.rank_le_two) s.visible_lt_depth

end Pattern

end

end LocalePaths
