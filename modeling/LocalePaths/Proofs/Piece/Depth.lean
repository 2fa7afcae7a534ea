import LocalePaths.Piece
import LocalePaths.Proofs.Pattern.Depth

/-!
# How deep pieces nest

Only variables that are bound contain other pieces, and each hides its name. Nodes therefore become the same
pieces at every depth greater than the number of names that can be hidden (`Piece.ofNodes_congr_depth`). Whether
they become pieces at all depends on the Android qualifiers, which are rendered: they do in a scope that is
grounded (`Piece.ofNodes_isSome`).
-/

namespace LocalePaths

namespace Piece
variable {s : Scope} {o : List Text} {ns : List Node} {d e : Nat}

theorem ofNodesWith_congr {one one' : List Text → Node → Option (Piece × List Text)}
    (h : ∀ o, ∀ n ∈ ns, one o n = one' o n) : ofNodesWith one o ns = ofNodesWith one' o ns := by
  induction ns generalizing o with
  | nil => rfl
  | cons n ns ih =>
    have later := fun o => ih (o := o) fun o k hk => h o k (List.mem_cons_of_mem n hk)
    simp only [ofNodesWith, h o n List.mem_cons_self, later]

/-- Every binding that is entered hides a name, so that nodes become the same pieces at every depth which is
greater than the number of names that are not hidden. -/
theorem ofNodes_congr_depth (hd : s.visible.length < d) (he : s.visible.length < e) :
    ofNodes d s o ns = ofNodes e s o ns := by
  induction d generalizing s o ns e with
  | zero => exact absurd hd (Nat.not_lt_zero _)
  | succ d ih =>
    obtain _ | e := e
    · exact absurd he (Nat.not_lt_zero _)
    refine ofNodesWith_congr fun o n _ => ?_
    cases n with
    | literal | star | starstar | android => rfl
    | «variable» x repeated =>
      rw [ofNode, ofNode]
      cases hl : s.lookup x with
      | none => rfl
      | some v =>
        have fewer := Scope.length_visible_hide_lt hl
        simp only [ih (s := s.hide x) (e := e) (by omega) (by omega)]

theorem ofNodesWith_isSome {one : List Text → Node → Option (Piece × List Text)}
    (h : ∀ o, ∀ n ∈ ns, (one o n).isSome) : (ofNodesWith one o ns).isSome := by
  induction ns generalizing o with
  | nil => rfl
  | cons n ns ih =>
    obtain ⟨⟨p, o'⟩, hp⟩ := Option.isSome_iff_exists.1 (h o n List.mem_cons_self)
    obtain ⟨later, hl⟩ := Option.isSome_iff_exists.1
      (ih (o := o') fun o k hk => h o k (List.mem_cons_of_mem n hk))
    simp only [ofNodesWith, hp, hl, Option.bind_eq_bind, Option.bind_some]
    rfl

theorem ofNodes_isSome (hg : s.Grounded) (hd : s.visible.length < d) : (ofNodes d s o ns).isSome := by
  induction d generalizing s o ns with
  | zero => exact absurd hd (Nat.not_lt_zero _)
  | succ d ih =>
    refine ofNodesWith_isSome fun o n _ => ?_
    cases n with
    | literal | star | starstar => rfl
    | «variable» x repeated =>
      rw [ofNode]
      split
      · rfl
      · cases hl : s.lookup x with
        | none => rfl
        | some v =>
          have fewer := Scope.length_visible_hide_lt hl
          have inner : (ofNodes d (s.hide x) (groupName x :: o) v.nodes).isSome := ih (hg.hide x) (by omega)
          obtain ⟨body, hb⟩ := Option.isSome_iff_exists.1 inner
          dsimp only
          rw [hb]
          rfl
    | android repeated =>
      obtain ⟨code, hc⟩ := Option.isSome_iff_exists.1 hg.qualifier?_isSome
      rw [ofNode, hc]
      split
      · rfl
      · cases code <;> rfl

/-- Every pattern becomes a row of pieces under an environment that is grounded. -/
theorem ofPattern_isSome (p : Pattern) {env : Environment} (hg : (Scope.of env).Grounded) :
    (ofPattern p env).isSome := by
  have deep := (Scope.of env).visible_lt_depth
  obtain ⟨root, hr⟩ := Option.isSome_iff_exists.1 <|
    Pattern.rootText_isSome_of (p := p) (renderNodes_isSome hg (fun n _ => n.rank_le_two) deep)
  have pieces : (ofNodes (Scope.of env).depth (.of env) [] p.nodes).isSome := ofNodes_isSome hg (by omega)
  obtain ⟨ps, hp⟩ := Option.isSome_iff_exists.1 pieces
  simp only [ofPattern, hr, hp]
  rfl

end Piece

end LocalePaths
