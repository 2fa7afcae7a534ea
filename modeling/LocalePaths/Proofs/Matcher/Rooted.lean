import LocalePaths.Proofs.Matcher.Captures
import LocalePaths.Proofs.Path.Root
import LocalePaths.Proofs.Piece.Lead

/-!
# Values and roots

A pattern with a root is put under it unless its first node starts with a separator. Matching decides
that from the environment alone, expansion also from the values. The decisions differ exactly if the
first node is a wildcard or a variable whose value starts with a separator (`Matcher.Escapes`); then the
path is expanded to its part behind the root (`Matcher.expand_withRoot`).
-/

namespace LocalePaths

open Piece

namespace Bindings

/-- What the value of a node is. -/
def textOf (b : Bindings) : Node → Text
  | .literal t => t
  | .star id | .starstar id _ => b.value (starName id)
  | .variable x _ => b.value x
  | .android _ => b.value androidLocale

end Bindings

namespace Matcher
variable {m : Matcher} {b : Bindings} {n : Node} {t root : Text}

/-- The first node is a wildcard or a variable, and its value starts with a separator. -/
def Escapes (m : Matcher) (b : Bindings) : Prop :=
  ∃ n, m.pattern.nodes.head? = some n ∧ (∀ t, n ≠ .literal t) ∧ (b.textOf n).head? = some '/'

theorem textOf_of_generates (h : m.env.Generates b.value (Fills b) n t) : t = b.textOf n := by
  cases n with
  | literal u => exact Environment.generates_literal.1 h
  | star id | starstar id ending =>
    obtain ⟨-, value⟩ := (Environment.generates_wildcard rfl).1 h
    simp [Bindings.textOf, Bindings.value, value id rfl]
  | «variable» x repeated | android repeated => exact ((Environment.generates_variable rfl).1 h).1

theorem reversible_of_env_empty (hr : m.pattern.root = none) (he : m.env = .empty)
    (android : androidLocale ∉ Node.names m.pattern.nodes) : m.Reversible := by
  refine ⟨hr, fun source p h repeated hn => ?_, fun id => he ▸ NameMap.get?_empty _,
    fun _ _ _ _ h h' _ _ => ?_⟩
  · obtain ⟨-, rfl⟩ := h.eq_own he
    exact android (Node.mem_names.2 ⟨_, hn, rfl⟩)
  · rw [(h.eq_own he).1, (h'.eq_own he).1]

theorem rootText_of_writes {p : Pattern} {s : Scope} (hr : p.root = some root)
    (h : s.Writes s.depth (p.nodes.take 1) t) :
    p.rootText s = some (if t.head? = some '/' then [] else root) := by
  unfold Scope.Writes at h
  rw [Pattern.rootText, hr, h]
  rfl

theorem rootText_empty {p : Pattern} (hr : p.root = some root)
    (open_ : ∀ t, p.nodes.head? ≠ some (.literal t)) : p.rootText (.of .empty) = some root := by
  rw [Pattern.rootText, hr]
  cases h : p.nodes with
  | nil => rfl
  | cons n ns =>
    cases n with
    | literal t => exact absurd (congrArg List.head? h) (open_ t)
    | star | starstar | «variable» | android => rfl

/-- The first node is written as its value. -/
def WritesFirst (m : Matcher) (b : Bindings) : Prop :=
  ∀ n ∈ m.pattern.nodes.head?, (m.scopeFor b).Writes (m.scopeFor b).depth [n] (b.textOf n)

theorem take_one_of_head? {ns : List Node} (h : ns.head? = some n) : ns.take 1 = [n] := by
  obtain ⟨rest, rfl⟩ := List.head?_eq_some_iff.1 h
  rfl

/-- Values keep the root where the environment alone keeps it, unless the value of the first node starts
with a separator. -/
theorem rootText_of_not_escapes (hr : m.pattern.root = some root) (hw : m.WritesFirst b)
    (h : ¬m.Escapes b) : m.pattern.rootText (m.scopeFor b) = m.pattern.rootText (.of .empty) := by
  cases hn : m.pattern.nodes.head? with
  | none =>
    have empty : m.pattern.nodes = [] := List.head?_eq_none_iff.1 hn
    simp only [Pattern.rootText, hr, empty]
    rfl
  | some n =>
    have only := take_one_of_head? hn
    rw [rootText_of_writes hr (only ▸ hw n hn)]
    by_cases literal : ∃ t, n = .literal t
    · obtain ⟨t, rfl⟩ := literal
      have unbound : (Scope.of .empty).Writes (Scope.of .empty).depth (m.pattern.nodes.take 1) t :=
        only ▸ writes_literal
      rw [rootText_of_writes hr unbound]
      rfl
    · have open_ : ∀ t, n ≠ .literal t := fun t e => literal ⟨t, e⟩
      have inside : (b.textOf n).head? ≠ some '/' := fun slash => h ⟨n, hn, open_, slash⟩
      rw [if_neg inside, rootText_empty hr fun t e => open_ t (Option.some.inj (hn.symm.trans e))]

/-- Values drop the root that the environment alone keeps, if the value of the first node starts with a
separator. -/
theorem rootText_of_escapes (hr : m.pattern.root = some root) (hw : m.WritesFirst b)
    (h : m.Escapes b) : m.pattern.rootText (m.scopeFor b) = some [] ∧
      m.pattern.rootText (.of .empty) = some root := by
  obtain ⟨n, hn, open_, slash⟩ := h
  rw [rootText_of_writes hr (take_one_of_head? hn ▸ hw n hn), if_pos slash]
  exact ⟨rfl, rootText_empty hr fun t e => open_ t (Option.some.inj (hn.symm.trans e))⟩

/-- The value of the first node comes first in what is generated. -/
theorem textOf_starts {ns : List Node} (hn : ns.head? = some n)
    (h : m.env.GeneratesAll b.value (Fills b) ns t) :
    b.textOf n <+: t ∧ m.env.GeneratesAll b.value (Fills b) [n] (b.textOf n) := by
  obtain ⟨rest, rfl⟩ := List.head?_eq_some_iff.1 hn
  obtain ⟨first, later, rfl, generated, -⟩ := Environment.generatesAll_cons.1 h
  rw [← textOf_of_generates generated]
  exact ⟨List.prefix_append first later, (List.append_nil first).symm ▸ .cons generated .nil⟩

/-- A path that matches under a root is expanded to itself, or to its part behind the root. -/
theorem expand_of_captures_rooted {path : Text} (hp : m.pattern.Formed) (he : m.env = .empty)
    (hr : m.pattern.root = some root) (android : androidLocale ∉ Node.names m.pattern.nodes)
    (h : m.captures path = .ok (some b)) : (¬m.Escapes b → m.expand b = .ok path) ∧
      (m.Escapes b → ∃ rest, path = root ++ rest ∧ rest.head? = some '/' ∧ m.expand b = .ok rest) := by
  have formed : ∀ x v, m.env.get? x = some v → v.Formed := by
    rw [he]
    exact fun x v hv => nomatch hv
  have hm : m.unrooted.Reversible := reversible_of_env_empty rfl he android
  have used := usesNodes (m := m.unrooted) (hp.withRoot none) formed
  obtain ⟨front, body, hfront, rfl, generated⟩ := generatesAll_of_captures hp formed hm h
  have written := writes_of_fills hm used generated
  have writesFirst : m.WritesFirst b := fun n hn => by
    obtain ⟨ns, e⟩ := List.head?_eq_some_iff.1 hn
    exact writes_of_fills hm (UsesNodes.head (e ▸ used)) (textOf_starts hn generated).2
  rw [he] at hfront
  refine ⟨fun inside => ?_, fun escapes => ?_⟩
  · exact expand_of_writes ((rootText_of_not_escapes hr writesFirst inside).trans hfront) written
  · obtain ⟨dropped, kept⟩ := rootText_of_escapes hr writesFirst escapes
    obtain rfl := Option.some.inj (hfront.symm.trans kept)
    obtain ⟨n, hn, -, slash⟩ := escapes
    refine ⟨body, rfl, ?_, expand_of_writes dropped written⟩
    obtain ⟨rest, rfl⟩ := (textOf_starts hn generated).1
    rw [List.head?_append, slash, Option.some_or]

/-- Matching and expanding take the same decision about the root of a pattern, except where the value of
its first node starts with a separator: there the root is lost. -/
theorem expand_withRoot {cwd s path : Text} (hm : m = (Matcher.of (.parse s)).withRoot cwd root)
    (android : .name androidLocale ∉ Token.ofText s) (h : m.captures path = .ok (some b)) :
    (m.expand b = .ok path ↔ ¬m.Escapes b) ∧
      (m.Escapes b → ∃ rest, path = Path.rootDirectory cwd root ++ rest ∧ rest.head? = some '/' ∧
        m.expand b = .ok rest) := by
  subst hm
  have names : androidLocale ∉ Node.names (Pattern.parse s).nodes := by
    rwa [Pattern.names_parse, Token.mem_words]
  obtain ⟨kept, lost⟩ := expand_of_captures_rooted
    (m := (Matcher.of (.parse s)).withRoot cwd root) ((Pattern.Formed.parse s).withRoot _) rfl rfl
    names h
  refine ⟨⟨fun expanded escapes => ?_, kept⟩, lost⟩
  obtain ⟨rest, rfl, -, e⟩ := lost escapes
  have same : rest = Path.rootDirectory cwd root ++ rest := Except.ok.inj (e.symm.trans expanded)
  have longer := congrArg List.length same
  have nonempty := List.length_pos_of_ne_nil (Path.rootDirectory_ne_nil cwd root)
  rw [List.length_append] at longer
  omega

def stacked : Matcher := (Matcher.of (.parse "**/{x}".toList)).withRoot ['/'] "/r".toList

theorem stacked_expand :
    stacked.expand (.ofList [("s1".toList, "a/".toList), (['x'], ['b'])]) = .ok "/r/a/b".toList ∧
    stacked.expand (.ofList [("s1".toList, "/a/".toList), (['x'], ['b'])]) = .ok "/a/b".toList := by
  have android : .name androidLocale ∉ Token.ofText "**/{x}".toList := by decide +kernel
  have inside : stacked.captures "/r/a/b".toList =
      .ok (some (.ofList [("s1".toList, "a/".toList), (['x'], ['b'])])) := by decide +kernel
  have outside : stacked.captures "/r//a/b".toList =
      .ok (some (.ofList [("s1".toList, "/a/".toList), (['x'], ['b'])])) := by decide +kernel
  constructor
  · refine (expand_withRoot rfl android inside).1.2 ?_
    rintro ⟨n, hn, -, slash⟩
    cases hn
    exact absurd slash (by decide +kernel)
  · have escapes : stacked.Escapes (.ofList [("s1".toList, "/a/".toList), (['x'], ['b'])]) :=
      ⟨_, rfl, nofun, by decide +kernel⟩
    obtain ⟨rest, path, -, expanded⟩ := (expand_withRoot rfl android outside).2 escapes
    have root : Path.rootDirectory ['/'] "/r".toList = "/r/".toList := by decide +kernel
    rw [root] at path
    have behind : "/r/".toList ++ "/a/b".toList = "/r/".toList ++ rest := path
    obtain rfl := List.append_cancel_left behind
    exact expanded

/-- The root is lost in front of a variable whose value starts with a separator. -/
theorem not_forall_expand_withRoot : ¬∀ (cwd root s path : Text) (b : Bindings),
    .name androidLocale ∉ Token.ofText s →
      ((Matcher.of (.parse s)).withRoot cwd root).captures path = .ok (some b) →
        ((Matcher.of (.parse s)).withRoot cwd root).expand b = .ok path := by
  intro h
  have kept := h ['/'] "/r".toList "{x}".toList "/r//a".toList (.ofList [(['x'], "/a".toList)])
    (by decide +kernel) (by decide +kernel)
  exact absurd kept (by decide +kernel)

end Matcher

end LocalePaths
