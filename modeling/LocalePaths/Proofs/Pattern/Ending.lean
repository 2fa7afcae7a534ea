import LocalePaths.Proofs.Pattern.Depth
import LocalePaths.Proofs.Pattern.Rendering
import Mathlib.Data.List.Perm.Subperm
import Mathlib.Data.List.ProdSigma
import Mathlib.Tactic.Linarith

/-!
# The depth is no restriction

An expansion that ends at some depth ends within `Scope.depth` (`Scope.renderNodes_depth`). Whenever a
binding is entered, a further name is hidden or the names that can be looked up stay the same
(`Scope.Enters.fewer_or_same`). Where they stay the same no binding is entered twice in one mode: it would be
rendered from within itself, at a smaller depth than it needs.
-/

namespace LocalePaths

namespace Scope
variable {s s' : Scope} {mode mode' : Mode} {x : Text} {v : Pattern} {ns : List Node} {d e : Nat}

/-- The nodes are rendered if they may nest deep enough. -/
def Ends (s : Scope) (mode : Mode) (ns : List Node) : Prop := ∃ d, (renderNodes d mode s ns).isSome

theorem lookup_hide (s : Scope) (x : Text) :
    (s.hide x).lookup = fun y => if y = x then none else s.lookup y := by
  funext y
  by_cases e : y = x <;> simp [lookup, hide, e]

theorem lookup_of_hide {y : Text} (h : (s.hide x).lookup y = some v) : y ≠ x ∧ s.lookup y = some v := by
  rw [lookup_hide] at h
  by_cases e : y = x
  · simp [e] at h
  · simpa [e] using h

/-! ### What can be looked up -/

theorem renderBinding_congr {inner : Renderer} (h : s.lookup = s'.lookup)
    (same : ∀ v : Pattern, inner .halt (s.hide androidLocale) v.nodes =
      inner .halt (s'.hide androidLocale) v.nodes) (x : Text) :
    renderBinding inner s x = renderBinding inner s' x := by
  unfold renderBinding
  rw [h]
  cases s'.lookup x with
  | none => rfl
  | some v => exact congrArg (Option.map Rendered.complete?) (same v)

/-- Scopes in which the same is looked up render the same. -/
theorem renderNodes_congr (h : s.lookup = s'.lookup) :
    renderNodes d mode s ns = renderNodes d mode s' ns := by
  induction d generalizing mode s s' ns with
  | zero => rfl
  | succ d ih =>
    have hidden : ∀ x, (s.hide x).lookup = (s'.hide x).lookup := fun x => by
      rw [lookup_hide, lookup_hide, h]
    have node : ∀ n, renderNode (renderNodes d) mode s n = renderNode (renderNodes d) mode s' n := by
      intro n
      cases n with
      | literal t => rfl
      | star id | starstar id ending =>
        rw [renderNode, renderNode, h]
        cases s'.lookup (starName id) with
        | none => rfl
        | some v => exact ih h
      | «variable» x repeated =>
        rw [renderNode, renderNode, h]
        cases s'.lookup x with
        | none => rfl
        | some v => exact ih (hidden x)
      | android repeated =>
        have binding : ∀ x, renderBinding (renderNodes d) s x = renderBinding (renderNodes d) s' x :=
          renderBinding_congr h fun _ => ih (hidden androidLocale)
        rw [renderNode, renderNode, qualifier?, qualifier?, binding, binding]
    exact congrArg (renderAll · ns) (funext node)

/-- Entering a binding hides a name that was not hidden, or nothing changes. -/
theorem Enters.fewer_or_same (h : s.Enters mode mode' s' x v) :
    s'.visible.length < s.visible.length ∨ s'.lookup = s.lookup := by
  cases h with
  | wildcard => exact .inr rfl
  | «variable» hl => exact .inl (length_visible_hide_lt hl)
  | qualifier =>
    cases ha : s.lookup androidLocale with
    | some w => exact .inl (length_visible_hide_lt ha)
    | none =>
      refine .inr ?_
      rw [lookup_hide]
      funext y
      by_cases e : y = androidLocale
      · rw [if_pos e, e, ha]
      · rw [if_neg e]

/-- The names that a scope binds, hidden or not. -/
def bound (s : Scope) : List Text := s.env.names ++ s.fallback.names

theorem length_bound (s : Scope) : s.bound.length = s.env.size + s.fallback.size := by
  rw [bound, List.length_append, NameMap.names, NameMap.names, List.length_map, List.length_map]
  rfl

theorem Enters.bound_eq (h : s.Enters mode mode' s' x v) : s'.bound = s.bound := by
  cases h <;> rfl

theorem Enters.lookup (h : s.Enters mode mode' s' x v) : s.lookup x = some v := by
  cases h <;> assumption

theorem Enters.mem_bound (h : s.Enters mode mode' s' x v) : x ∈ s.bound :=
  List.mem_append.2 ((lookup_eq_some h.lookup).2.imp NameMap.mem_names NameMap.mem_names)

/-! ### How deep bindings are entered -/

/-- Nodes are rendered one step deeper than what they enter. -/
theorem isSome_of_enters (h : (renderNodes (d + 1) mode s ns).isSome)
    (enter : ∀ mode' s' x v, s.Enters mode mode' s' x v → (renderNodes d mode' s' v.nodes).isSome →
      (renderNodes e mode' s' v.nodes).isSome) : (renderNodes (e + 1) mode s ns).isSome := by
  obtain ⟨r, hr⟩ := Option.isSome_iff_exists.1 h
  refine Option.isSome_iff_exists.2 ⟨r, renderAll_extends (fun mode' s' x v u hv hu => ?_) hr⟩
  obtain ⟨u', hu'⟩ := Option.isSome_iff_exists.1 (enter mode' s' x v hv (Option.isSome_of_eq_some hu))
  have deep := renderNodes_mono (Nat.le_max_left d e) _ _ _ _ hu
  have deep' := renderNodes_mono (Nat.le_max_right d e) _ _ _ _ hu'
  rw [hu', ← deep, deep']

theorem length_entered_le {E : List (Mode × Text)} (nodup : E.Nodup) (named : ∀ e ∈ E, e.2 ∈ s.bound) :
    E.length ≤ 2 * s.bound.length := by
  have sub : E ⊆ [Mode.halt, Mode.template] ×ˢ s.bound := fun e he => by
    refine List.mem_product.2 ⟨?_, named e he⟩
    cases e.1 <;> simp
  have le := (nodup.subperm sub).length_le
  rwa [List.length_product] at le

theorem exists_least (h : (renderNodes d mode s ns).isSome) : ∃ first ≤ d,
    (renderNodes first mode s ns).isSome ∧ ∀ c < first, renderNodes c mode s ns = none := by
  have ends : s.Ends mode ns := ⟨d, h⟩
  unfold Ends at ends
  exact ⟨Nat.find ends, Nat.find_min' ends h, Nat.find_spec ends,
    fun c hc => Option.not_isSome_iff_eq_none.1 (Nat.find_min ends hc)⟩

/-- `E` are the bindings that were entered since a name was hidden, with the mode. None of them is rendered
at a smaller depth than `d`, so that none of them is entered again. -/
theorem isSome_of_entered {E : List (Mode × Text)} {D : Nat} (nodup : E.Nodup)
    (named : ∀ e ∈ E, e.2 ∈ s.bound) (ends : (renderNodes d mode s ns).isSome)
    (once : ∀ e ∈ E, ∀ v, s.lookup e.2 = some v → ∀ c < d, renderNodes c e.1 s v.nodes = none)
    (deep : s.visible.length * (2 * s.bound.length + 1) + (2 * s.bound.length - E.length) < D) :
    (renderNodes D mode s ns).isSome := by
  induction D generalizing s mode ns d E with
  | zero => exact absurd deep (Nat.not_lt_zero _)
  | succ D ih =>
    obtain _ | d := d
    · cases ends
    refine isSome_of_enters ends fun mode' s' x v enters inside => ?_
    rcases enters.fewer_or_same with fewer | same
    · -- the names that are left make up for all bindings entered so far
      have room := Nat.mul_le_mul_right (2 * s.bound.length + 1) fewer
      rw [Nat.succ_mul] at room
      refine ih (E := []) List.nodup_nil nofun inside nofun ?_
      rw [enters.bound_eq, List.length_nil]
      omega
    · rw [renderNodes_congr same] at inside ⊢
      obtain ⟨first, le, least, before⟩ := exists_least inside
      have fresh : (mode', x) ∉ E := fun entered => by
        rw [once _ entered v enters.lookup d (Nat.lt_succ_self d)] at inside
        cases inside
      have nodup' : ((mode', x) :: E).Nodup := List.nodup_cons.2 ⟨fresh, nodup⟩
      have named' : ∀ e ∈ (mode', x) :: E, e.2 ∈ s.bound :=
        List.forall_mem_cons.2 ⟨enters.mem_bound, named⟩
      have few := length_entered_le nodup' named'
      refine ih nodup' named' least (List.forall_mem_cons.2 ⟨fun w hw c hc => ?_, fun e he w hw c hc => ?_⟩) ?_
      · cases enters.lookup.symm.trans hw
        exact before c hc
      · exact once e he w hw c (by omega)
      · rw [List.length_cons] at few ⊢
        omega

/-- Rendering that ends at some depth ends within the depth of the scope. -/
theorem Ends.isSome_depth (h : s.Ends mode ns) : (renderNodes s.depth mode s ns).isSome := by
  obtain ⟨d, hd⟩ := h
  refine isSome_of_entered (E := []) List.nodup_nil nofun hd nofun ?_
  have visible := s.length_visible_le
  have product := Nat.mul_le_mul_right (2 * (s.env.size + s.fallback.size) + 1) visible
  rw [List.length_nil, length_bound, Nat.sub_zero]
  show _ < 2 * ((s.env.size + s.fallback.size + 2) * (s.env.size + s.fallback.size + 2))
  nlinarith

/-- What is rendered at some depth is rendered so within the depth of the scope. -/
theorem renderNodes_depth {r : Rendered} (h : renderNodes d mode s ns = some r) :
    renderNodes s.depth mode s ns = some r := by
  obtain ⟨r', hr'⟩ := Option.isSome_iff_exists.1 (Ends.isSome_depth ⟨d, Option.isSome_of_eq_some h⟩)
  have deep := renderNodes_mono (Nat.le_max_left d s.depth) _ _ _ _ h
  have deep' := renderNodes_mono (Nat.le_max_right d s.depth) _ _ _ _ hr'
  rw [hr', ← deep, deep']

/-- Scopes that render the same to every depth render the same within their own depths. -/
theorem renderNodes_depth_congr (h : ∀ d, renderNodes d mode s ns = renderNodes d mode s' ns) :
    renderNodes s.depth mode s ns = renderNodes s'.depth mode s' ns := by
  cases hr : renderNodes s.depth mode s ns with
  | some r => exact (renderNodes_depth ((h _).symm.trans hr)).symm
  | none =>
    refine (Option.eq_none_iff_forall_ne_some.2 fun r hr' => ?_).symm
    cases hr.symm.trans (renderNodes_depth ((h _).trans hr'))

end Scope

end LocalePaths
