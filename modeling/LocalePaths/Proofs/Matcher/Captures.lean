import LocalePaths.Proofs.Matcher.Expansion
import LocalePaths.Proofs.Matcher.Language

/-!
# What captured values generate

The values with which a path matches generate the path behind the root of the pattern
(`Matcher.generatesAll_of_captures`), also if there is a root. Conversely a path that is generated by
some texts matches, unless matching gives up (`Matcher.captures_of_generates`).
-/

namespace LocalePaths

open Piece Relation

namespace Bindings

/-- The value of a name, or the empty text. -/
def value (b : Bindings) (x : Text) : Text := (b.get? x).getD []

theorem get?_of_value_ne_nil {b : Bindings} {x : Text} (h : b.value x ≠ []) :
    b.get? x = some (b.value x) := by
  unfold value at *
  cases hx : b.get? x with
  | none => simp [hx] at h
  | some t => rfl

end Bindings

namespace Matcher
variable {m : Matcher} {path : Text} {b : Bindings}

/-- The text is one of the wildcard and also its value. -/
def Fills (b : Bindings) (n : Node) (t : Text) : Prop := n.Spans t ∧ HasValue b n t

def unrooted (m : Matcher) : Matcher := { m with pattern := m.pattern.withRoot none }

theorem usesNodes (hp : m.pattern.Formed) (he : ∀ x v, m.env.get? x = some v → v.Formed) :
    m.UsesNodes m.pattern.nodes :=
  ⟨fun _ _ => Uses.wellFormed hp.wellFormed fun x v hv => (he x v hv).wellFormed,
    none, m.pattern, .own, fun _ h => h⟩

/-- A way in which the path behind the root is read and has the values. -/
structure Capture (m : Matcher) (path : Text) (b : Bindings) where
  root : Text
  body : Text
  pieces : List Piece
  opened : List Text
  captures : Captures
  rootText : m.pattern.rootText (.of m.env) = some root
  path_eq : path = root ++ body
  usable : m.usablePieces = .ok (.text root :: pieces)
  translated : TranslatesAll m.env [] m.pattern.nodes pieces opened
  read : ReadsAll pieces [] body captures
  bindings : b = addLocale (valuesOf (groupsOf pieces) captures)

theorem nonempty_capture (hp : m.pattern.Formed) (he : ∀ x v, m.env.get? x = some v → v.Formed)
    (h : m.captures path = .ok (some b)) : Nonempty (m.Capture path b) := by
  obtain ⟨ps, cs, hu, hr, hb⟩ := reads_of_captures h
  obtain ⟨root, qs, o', hroot, rfl, ht⟩ :=
    translatesAll_of_usablePieces hp.wellFormed (fun x v hv => (he x v hv).wellFormed) hu
  obtain ⟨_, body, _, rfl, ⟨rfl, rfl⟩, hr⟩ := hr
  exact ⟨_, body, qs, o', cs, hroot, rfl, hu, ht, hr, hb⟩

namespace Capture

/-- The groups bind different names, so that their values are the captures, whatever locale is
added. -/
theorem get?_bindingName (c : m.Capture path b) {g : Text} (hg : g ∈ c.opened) :
    b.get? (bindingName g) = some ((c.captures.get? g).getD []) := by
  have distinct := (usablePieces_eq_ok c.usable).2
  conv_lhs => rw [c.bindings]
  refine get?_addLocale (get?_valuesOf distinct ?_)
  exact (c.translated.mem_iff.1 hg).resolve_right nofun

theorem agrees (c : m.Capture path b) :
    Agrees b.value (fun id => b.get? (starName id)) c.opened c.captures where
  bindings x t hx ht := by
    rw [Bindings.value, ← bindingName_groupName x, c.get?_bindingName hx, ht]
    rfl
  wildcards id hi := c.get?_bindingName hi

end Capture

/-- The values with which a path matches generate the path behind the root. -/
theorem generatesAll_of_captures (hp : m.pattern.Formed)
    (he : ∀ x v, m.env.get? x = some v → v.Formed) (hm : m.unrooted.Reversible)
    (h : m.captures path = .ok (some b)) : ∃ root body,
      m.pattern.rootText (.of m.env) = some root ∧ path = root ++ body ∧
        m.env.GeneratesAll b.value (Fills b) m.pattern.nodes body := by
  obtain ⟨c⟩ := nonempty_capture hp he h
  have wildcard : Allows True (fun id => b.get? (starName id)) (Fills b) := by
    refine fun n id t hn spans h => ⟨spans, fun k hk => ?_⟩
    rw [← Option.some.inj (hn.symm.trans hk)]
    exact h trivial
  have grouped : True → GroupedAll c.pieces := fun _ =>
    groupedAll_of_reversible hm (usesNodes (m := m.unrooted) (hp.withRoot none) he) c.translated
  have generated := generatesAll_of_reads wildcard c.translated grouped c.read known_nil c.agrees
  exact ⟨c.root, c.body, c.rootText, c.path_eq, generated.1⟩

/-- What nodes generate from values is what the expansion writes, also if there is a root. -/
theorem writes_of_fills {ns : List Node} {t : Text} (hm : m.unrooted.Reversible)
    (hn : m.unrooted.UsesNodes ns) (h : m.env.GeneratesAll b.value (Fills b) ns t) :
    (m.scopeFor b).Writes (m.scopeFor b).depth ns t :=
  writes_scopeFor (m := m.unrooted) hm.direct (fun _ _ _ => Bindings.get?_of_value_ne_nil) hn
    (h.mono fun _ _ fills => fills.2)

theorem search_of_generates {ps : List Piece} (hp : m.pattern.Formed)
    (he : ∀ x v, m.env.get? x = some v → v.Formed) (hu : m.usablePieces = .ok ps)
    (hg : m.Generates path) : (whole ps).search path ≠ .failed := by
  intro hs
  obtain ⟨cs, hr⟩ :=
    (reads_iff_generates hp.wellFormed (fun x v hv => (he x v hv).wellFormed) hu).2 hg
  have found := search_whole ps path
  rw [hs] at found
  exact List.ne_nil_of_mem (mem_wholeOutcomes.2 ⟨cs, hr, rfl⟩) found

theorem captures_of_generates {ps : List Piece} (hp : m.pattern.Formed)
    (he : ∀ x v, m.env.get? x = some v → v.Formed) (hu : m.usablePieces = .ok ps)
    (hg : m.Generates path) (decided : m.captures path ≠ .error (.undecided path)) :
    ∃ b, m.captures path = .ok (some b) := by
  have answered := search_of_generates hp he hu hg
  rw [captures_eq, hu] at decided ⊢
  dsimp only at decided ⊢
  cases hs : (whole ps).search path with
  | found c => exact ⟨_, rfl⟩
  | failed => exact absurd hs answered
  | gaveUp =>
    rw [hs] at decided
    exact absurd rfl decided

theorem isMatch_of_generates {ps : List Piece} (hp : m.pattern.Formed)
    (he : ∀ x v, m.env.get? x = some v → v.Formed) (hu : m.usablePieces = .ok ps)
    (hg : m.Generates path) (decided : m.isMatch path ≠ .error (.undecided path)) :
    m.isMatch path = .ok true := by
  have answered := search_of_generates hp he hu hg
  rw [isMatch_eq, hu] at decided ⊢
  dsimp only at decided ⊢
  cases hs : (whole ps).search path with
  | found c => rfl
  | failed => exact absurd hs answered
  | gaveUp =>
    rw [hs] at decided
    exact absurd rfl decided

end Matcher

end LocalePaths
