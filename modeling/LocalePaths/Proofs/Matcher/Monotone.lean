import LocalePaths.Proofs.Matcher.Concatenation
import LocalePaths.Proofs.Matcher.Rooted
import LocalePaths.Proofs.Pattern.Ending

/-!
# More values, longer expansions

An expansion goes on where it stopped if more values are known: what was written before comes first, and
what was written in full stays (`Matcher.expand_mono`). The values that are added only matter at names that
had none, where the expansion had stopped. The variable `android_locale` is an exception, since it asks for
another name first; so it must not be reached.
-/

namespace LocalePaths

namespace NameMap
variable {α : Type} {m : NameMap α} {x : Text} {v : α}

/-- The second map binds all that the first one binds, and alike. -/
def Within (m m' : NameMap α) : Prop := ∀ x v, m.get? x = some v → m'.get? x = some v

theorem within_insert (h : m.get? x = none) : m.Within (m.insert x v) := by
  intro y w hy
  have other : y ≠ x := by
    rintro rfl
    cases h.symm.trans hy
  rw [get?_insert, if_neg other, hy]

end NameMap

namespace Rendered

/-- The rendering `o'` goes on where `o` stops, and where `o` does not stop it is the same. If `o'` ends, so
does `o`. -/
structure Continues (o o' : Option Rendered) : Prop where
  ends : o'.isSome → o.isSome
  complete : ∀ t, o = some (written t) → o' = some (written t)
  starts : ∀ r r', o = some r → o' = some r' → r.text <+: r'.text

variable {o o' first first' later later' : Option Rendered} {name : Text}

theorem Continues.refl (o : Option Rendered) : Continues o o :=
  ⟨id, fun _ h => h, fun r r' h h' => by
    cases h.symm.trans h'
    exact List.prefix_rfl⟩

theorem continues_halted (name : Text) (o : Option Rendered) : Continues (some ⟨[], some name⟩) o := by
  refine ⟨fun _ => rfl, fun t h => ?_, fun r r' h _ => ?_⟩
  · cases h
  · cases h
    exact List.nil_prefix

/-- One rendering after another, unless the first one stops. -/
def andThen (first later : Option Rendered) : Option Rendered :=
  first.bind fun r => if r.missing.isSome then some r else later.map (prepend r.text)

theorem prefix_of_andThen {r r' : Rendered} (h : andThen (some r) later = some r') : r.text <+: r'.text := by
  unfold andThen at h
  simp only [Option.bind_some] at h
  split at h
  · cases h
    exact List.prefix_rfl
  · obtain ⟨u, -, rfl⟩ := Option.map_eq_some_iff.1 h
    exact List.prefix_append _ _

theorem Continues.prepend (t : Text) (h : Continues o o') :
    Continues (o.map (prepend t)) (o'.map (prepend t)) := by
  refine ⟨fun e => ?_, fun u hu => ?_, fun r r' hr hr' => ?_⟩
  · rw [Option.isSome_map] at e ⊢
    exact h.ends e
  · obtain ⟨⟨a, missing⟩, ha, e⟩ := Option.map_eq_some_iff.1 hu
    cases e
    rw [h.complete a ha]
    rfl
  · obtain ⟨a, ha, rfl⟩ := Option.map_eq_some_iff.1 hr
    obtain ⟨a', ha', rfl⟩ := Option.map_eq_some_iff.1 hr'
    exact (List.prefix_append_right_inj t).2 (h.starts a a' ha ha')

theorem Continues.andThen (h : Continues first first') (h' : Continues later later') :
    Continues (andThen first later) (andThen first' later') := by
  cases hf : first with
  | none =>
    have none' : first' = none := by
      rw [← Option.not_isSome_iff_eq_none]
      intro e
      have := h.ends e
      rw [hf] at this
      cases this
    rw [none']
    exact .refl none
  | some r =>
    obtain ⟨a, missing⟩ := r
    cases missing with
    | none =>
      rw [h.complete a hf]
      exact h'.prepend a
    | some name =>
      refine ⟨fun _ => rfl, fun t e => ?_, fun r r' hr hr' => ?_⟩
      · cases e
      · cases hr
        obtain ⟨u, hu, -⟩ := Option.bind_eq_some_iff.1 hr'
        rw [hu] at hr'
        exact (h.starts _ u hf hu).trans (prefix_of_andThen hr')

end Rendered

open Rendered

namespace Scope
variable {S : Node → Prop} {s s' : Scope} {ns : List Node} {n : Node} {d : Nat}

/-- What is looked up for the nodes `S` in the first scope is found in the second one and leads to no other
nodes. None of them is the variable `androidLocale`. -/
structure Below (S : Node → Prop) (s s' : Scope) : Prop where
  kept : ∀ x v, s.lookup x = some v → s'.lookup x = some v
  closed : ∀ n x v, S n → x ∈ n.consulted → s.lookup x = some v → ∀ m ∈ v.nodes, S m
  plain : ∀ n, S n → n.variableName ≠ some androidLocale

theorem Below.hide (h : Below S s s') (x : Text) : Below S (s.hide x) (s'.hide x) := by
  refine ⟨fun y v hy => ?_, fun n y v hn hc hy => ?_, h.plain⟩
  · obtain ⟨other, hy⟩ := lookup_of_hide hy
    rw [lookup_hide]
    simp [other, h.kept y v hy]
  · exact h.closed n y v hn hc (lookup_of_hide hy).2

theorem Below.continues_renderNode (h : Below S s s') (hn : S n)
    (inner : ∀ {s s' : Scope} {ns : List Node}, Below S s s' → (∀ n ∈ ns, S n) →
      Continues (renderNodes d .halt s ns) (renderNodes d .halt s' ns)) :
    Continues (renderNode (renderNodes d) .halt s n) (renderNode (renderNodes d) .halt s' n) := by
  cases n with
  | literal t => exact .refl _
  | star id | starstar id ending =>
    rw [renderNode, renderNode]
    cases hl : s.lookup (starName id) with
    | none => exact continues_halted _ _
    | some v =>
      rw [h.kept _ v hl]
      exact inner h (h.closed _ _ v hn (Node.wildcard_mem_consulted rfl) hl)
  | «variable» x repeated =>
    rw [renderNode, renderNode]
    cases hl : s.lookup x with
    | none => exact continues_halted _ _
    | some v =>
      rw [h.kept _ v hl]
      exact inner (h.hide x) (h.closed _ _ v hn (Node.variable_mem_consulted rfl) hl)
  | android repeated => exact absurd rfl (h.plain _ hn)

theorem Below.continues_renderNodes (h : Below S s s') (hns : ∀ n ∈ ns, S n) :
    Continues (renderNodes d .halt s ns) (renderNodes d .halt s' ns) := by
  induction d generalizing s s' ns with
  | zero => exact .refl none
  | succ d ih =>
    induction ns with
    | nil => exact .refl _
    | cons n ns later =>
      obtain ⟨hn, hns⟩ := List.forall_mem_cons.1 hns
      rw [renderNodes_cons, renderNodes_cons]
      exact (h.continues_renderNode hn ih).andThen (later hns)

theorem Below.writes {t : Text} (h : Below S s s') (hns : ∀ n ∈ ns, S n) (hw : s.Writes d ns t) :
    s'.Writes s'.depth ns t :=
  renderNodes_depth ((h.continues_renderNodes hns).complete t hw)

theorem Writes.take_one {t : Text} (h : s.Writes d ns t) : ∃ u, s.Writes d (ns.take 1) u := by
  obtain _ | d := d
  · exact absurd h not_writes_zero
  cases ns with
  | nil => exact ⟨t, h⟩
  | cons n ns =>
    obtain ⟨a, -, ha, -, -⟩ := writes_cons.1 h
    exact ⟨a ++ [], writes_cons.2 ⟨a, [], ha, writes_nil.2 rfl, rfl⟩⟩

theorem Below.rootText_eq {p : Pattern} {t : Text} (h : Below S s s') (hp : ∀ n ∈ p.nodes, S n)
    (hw : s.Writes d p.nodes t) : p.rootText s' = p.rootText s := by
  cases hr : p.root with
  | none => rw [Pattern.rootText, Pattern.rootText, hr]
  | some root =>
    obtain ⟨u, first⟩ := hw.take_one
    have first' := h.writes (fun n hn => hp n (List.mem_of_mem_take hn)) first
    rw [Matcher.rootText_of_writes hr first', Matcher.rootText_of_writes hr (renderNodes_depth first)]

end Scope

namespace Matcher
variable {m : Matcher} {b b₂ : Bindings} {t : Text}

/-- The nodes that are reached, and the texts of values. -/
def Written (m : Matcher) (n : Node) : Prop := m.Reaches n ∨ ∃ t, n = .literal t

theorem below_scopeFor (android : ∀ n, m.Reaches n → n.variableName ≠ some androidLocale)
    (more : b.Within b₂) : Scope.Below m.Written (m.scopeFor b) (m.scopeFor b₂) := by
  refine ⟨fun x v hx => ?_, fun n x v hn hx hv k hk => ?_, fun n hn => ?_⟩
  · rw [lookup_scopeFor, Option.or_eq_some_iff] at hx ⊢
    refine hx.imp_right fun ⟨free, hv⟩ => ⟨free, ?_⟩
    obtain ⟨t, ht, rfl⟩ := Option.map_eq_some_iff.1 hv
    rw [more x t ht]
    rfl
  · rw [lookup_scopeFor, Option.or_eq_some_iff] at hv
    rcases hv with hv | ⟨-, hv⟩
    · rcases hn with hn | ⟨t, rfl⟩
      · exact .inl (.through hn hx hv hk)
      · cases hx
    · obtain ⟨t, -, rfl⟩ := Option.map_eq_some_iff.1 hv
      exact .inr ⟨t, List.mem_singleton.1 hk⟩
  · rcases hn with hn | ⟨t, rfl⟩
    · exact android n hn
    · nofun

theorem expand_eq_ok (h : m.expand b = .ok t) : ∃ root body,
    m.pattern.rootText (m.scopeFor b) = some root ∧
      (m.scopeFor b).Writes (m.scopeFor b).depth m.pattern.nodes body ∧ t = root ++ body := by
  unfold expand at h
  cases hr : m.pattern.render .halt (m.scopeFor b) with
  | none => simp [hr] at h
  | some r =>
    obtain ⟨u, missing⟩ := r
    rw [hr] at h
    cases missing with
    | some name => cases h
    | none =>
      cases h
      obtain ⟨root, ⟨body, missing⟩, root', written, e⟩ := Pattern.render_eq_some.1 hr
      cases e
      exact ⟨root, body, root', written, rfl⟩

theorem render_unrooted {p : Pattern} {s : Scope} {mode : Mode} {r : Rendered} (unrooted : p.root = none)
    (h : renderNodes s.depth mode s p.nodes = some r) : p.render mode s = some r :=
  Pattern.render_eq_some.2 ⟨[], r, rootText_of_rootless unrooted s, h, rfl⟩

theorem expand_ne_endless {r : Rendered} (h : m.pattern.render .halt (m.scopeFor b) = some r) :
    m.expand b ≠ .error .endless := by
  obtain ⟨t, missing⟩ := r
  rw [expand, h]
  cases missing <;> simp

/-- More values change nothing in an expansion that succeeds. An expansion without a root that stops, stops
later, behind the same text. If the larger one ends, so does the smaller one. -/
theorem expand_mono (android : ∀ n, m.Reaches n → n.variableName ≠ some androidLocale)
    (more : b.Within b₂) : (∀ t, m.expand b = .ok t → m.expand b₂ = .ok t) ∧
      (m.pattern.root = none → (m.scopeFor b₂).Ends .halt m.pattern.nodes →
        m.expand b ≠ .error .endless ∧ m.expand b₂ ≠ .error .endless ∧
          m.expandBestEffort b <+: m.expandBestEffort b₂) := by
  have below := below_scopeFor android more
  have reached : ∀ n ∈ m.pattern.nodes, m.Written n := fun n hn => .inl (.here hn)
  constructor
  · intro t ht
    obtain ⟨root, body, hr, written, rfl⟩ := expand_eq_ok ht
    exact expand_of_writes ((below.rootText_eq reached written).trans hr) (below.writes reached written)
  · rintro unrooted ⟨d, ends⟩
    have continued := below.continues_renderNodes (d := d) reached
    obtain ⟨r₂, h₂⟩ := Option.isSome_iff_exists.1 ends
    obtain ⟨r, h⟩ := Option.isSome_iff_exists.1 (continued.ends ends)
    have rendered := render_unrooted unrooted (Scope.renderNodes_depth h)
    have rendered₂ := render_unrooted unrooted (Scope.renderNodes_depth h₂)
    refine ⟨expand_ne_endless rendered, expand_ne_endless rendered₂, ?_⟩
    rw [expandBestEffort, expandBestEffort, rendered, rendered₂]
    exact continued.starts r r₂ h h₂

def draft : Matcher := (of (.parse "{base}/{section}/*".toList)).withEnv
  [("base".toList, .parse "l10n/{locale}".toList)]

def known : Bindings :=
  .ofList [(localeName, "de".toList), ("section".toList, "app".toList), ("s1".toList, "x.ftl".toList)]

theorem draft_plain (n : Node) (h : draft.Reaches n) : n.variableName ≠ some androidLocale := by
  have all : ∀ n ∈ draft.allNodes, n.variableName ≠ some androidLocale := by decide +kernel
  exact all n h.mem_allNodes

/-- Without values the expansion stops inside of the base. -/
theorem draft_expand_mono : NameMap.empty.Within known ∧ known.Within (known.insert "s2".toList ['y']) ∧
    draft.expand (known.insert "s2".toList ['y']) = .ok "l10n/de/app/x.ftl".toList ∧
    draft.expandBestEffort .empty = "l10n/".toList ∧ "l10n/".toList <+: draft.expandBestEffort known := by
  have first : NameMap.empty.Within known := fun x v h => nomatch h
  have second : known.Within (known.insert "s2".toList ['y']) := by
    refine NameMap.within_insert ?_
    decide +kernel
  have expanded : draft.expand known = .ok "l10n/de/app/x.ftl".toList := by decide +kernel
  have stopped : draft.expandBestEffort .empty = "l10n/".toList := by decide +kernel
  have ends : (draft.scopeFor known).Ends .halt draft.pattern.nodes := ⟨3, by decide +kernel⟩
  obtain ⟨kept, -⟩ := expand_mono draft_plain second
  obtain ⟨-, continued⟩ := expand_mono draft_plain first
  refine ⟨first, second, kept _ expanded, stopped, ?_⟩
  rw [← stopped]
  exact (continued rfl ends).2.2

end Matcher

end LocalePaths
