import LocalePaths.Proofs.Matcher.Unrepeated
import LocalePaths.Proofs.Piece.Shared

/-!
# Values that wildcards share

The wildcards of what a variable is bound to are numbered on their own. So a wildcard can have the
number of one of another pattern; then it has its value as well, and the expansion need not be the path.
The expansion still matches if the value of a number is a text of every wildcard with that number
(`Matcher.Admits`), as it always is if these wildcards are alike (`Matcher.Alike`).
-/

namespace LocalePaths

open Piece Relation

/-- The value of a wildcard, or the empty text. -/
def Bindings.starValue (b : Bindings) (id : Nat) : Text := b.value (starName id)

namespace Matcher
variable {m : Matcher} {path : Text} {b : Bindings} {n : Node} {id : Nat}

/-- The value of a number is a text of every wildcard with that number. -/
def Admits (m : Matcher) (b : Bindings) : Prop :=
  ∀ n id, m.env.Meets m.pattern.nodes n → n.wildcardId = some id → n.Spans (b.starValue id)

/-- Wildcards with the same number are the same. -/
def Alike (m : Matcher) : Prop :=
  ∀ n k id, m.env.Meets m.pattern.nodes n → m.env.Meets m.pattern.nodes k →
    n.wildcardId = some id → k.wildcardId = some id → n = k

namespace Capture
variable {value : Text → Text}

theorem generates (c : m.Capture path b) :
    m.env.GeneratesAll b.value Node.Spans m.pattern.nodes c.body :=
  (generatesAll_of_reads (fun _ _ _ _ h _ => h) c.translated False.elim c.read known_nil c.agrees).1

theorem acyclic (c : m.Capture path b) : ∀ y ∈ Node.names m.pattern.nodes, Acc m.env.OccursIn y := by
  intro y hy
  obtain ⟨n, hn, hy⟩ := Node.mem_names.1 hy
  exact c.generates.acc n hn y hy

theorem get?_starName (c : m.Capture path b) (hn : m.env.Meets m.pattern.nodes n)
    (hi : n.wildcardId = some id) : b.get? (starName id) = some (b.starValue id) := by
  have opened := (c.translated.opened_of_meets hn).2 id hi
  rw [Bindings.starValue, Bindings.value, c.agrees.wildcards id opened]
  rfl

/-- The value of a number is a text of one of the wildcards with that number. -/
theorem exists_spans (c : m.Capture path b) (hn : m.env.Meets m.pattern.nodes n)
    (hi : n.wildcardId = some id) : ∃ k, m.env.Meets m.pattern.nodes k ∧ k.wildcardId = some id ∧
      k.Spans (b.starValue id) := by
  have filled : Filled (fun id t => ∃ k, m.env.Meets m.pattern.nodes k ∧ k.wildcardId = some id ∧
      k.Spans t) c.opened c.captures :=
    filledAll_of_reads (fun k id t hk hi ht => ⟨k, hk, hi, ht⟩) c.translated (fun _ => .here) c.read
      (fun _ _ => rfl) fun _ hi => absurd hi List.not_mem_nil
  have opened := (c.translated.opened_of_meets hn).2 id hi
  have value : b.starValue id = (c.captures.get? (starName id)).getD [] := by
    rw [Bindings.starValue, Bindings.value, c.agrees.wildcards id opened]
    rfl
  exact value ▸ filled id opened

end Capture

theorem Alike.admits (h : m.Alike) (c : m.Capture path b) : m.Admits b := by
  intro n id hn hi
  obtain ⟨k, hk, hki, spans⟩ := c.exists_spans hn hi
  rwa [h n k id hn hk hi hki]

/-- The texts that variables have where the values are written. -/
noncomputable def written (m : Matcher) (b : Bindings) : Text → Text :=
  m.env.texts b.starValue b.value

/-- The text of the nodes where the values are written. -/
noncomputable def pathOf (m : Matcher) (b : Bindings) : Text :=
  m.pattern.nodes.flatMap (Node.textWith b.starValue (m.written b))

theorem Capture.generates_pathOf {W : Node → Text → Prop} (c : m.Capture path b)
    (wild : ∀ n id, m.env.Meets m.pattern.nodes n → n.wildcardId = some id →
      W n (b.starValue id)) :
    m.env.GeneratesAll (m.written b) W m.pattern.nodes (m.pathOf b) :=
  c.generates.retext wild (fun _ _ h => h) fun _ => .here

/-- The values expand to the text in which they are written. -/
theorem Capture.expand_eq (hp : m.pattern.Formed) (he : ∀ x v, m.env.get? x = some v → v.Formed)
    (hr : m.pattern.root = none) (hm : m.Direct) (c : m.Capture path b) :
    m.expand b = .ok (m.pathOf b) := by
  have values : m.env.GeneratesAll (m.written b) (HasValue b) m.pattern.nodes (m.pathOf b) := by
    refine c.generates_pathOf fun n id hn hi k hk => ?_
    obtain rfl := Option.some.inj (hi.symm.trans hk)
    exact c.get?_starName hn hi
  have free : ∀ x, m.env.Resolves x none → m.env.get? x = none → m.written b x ≠ [] →
      b.get? x = some (m.written b x) := by
    intro x free _ hx
    rw [written, Environment.texts_free free] at hx ⊢
    exact Bindings.get?_of_value_ne_nil hx
  exact expand_of_writes (rootText_of_rootless hr _) (writes_scopeFor hm free (usesNodes hp he) values)

/-- The values expand to a path that matches if they are texts of all wildcards that have them, unless
matching gives up. -/
theorem isMatch_expand_of_captures (hp : m.pattern.Formed)
    (he : ∀ x v, m.env.get? x = some v → v.Formed) (hr : m.pattern.root = none) (hm : m.Direct)
    (h : m.captures path = .ok (some b)) : ∃ q, m.expand b = .ok q ∧
      (m.Admits b → m.isMatch q ≠ .error (.undecided q) → m.isMatch q = .ok true) ∧
      (m.Unrepeated → m.isMatch q ≠ .error (.undecided q)) ∧ (m.Alike → m.Admits b) := by
  obtain ⟨c⟩ := nonempty_capture hp he h
  refine ⟨m.pathOf b, c.expand_eq hp he hr hm, fun admits => ?_, fun once => ?_, fun alike => ?_⟩
  · exact isMatch_of_generates hp he c.usable
      ⟨[], _, _, rootText_of_rootless hr _, rfl, c.generates_pathOf admits⟩
  · exact once.isMatch_ne_undecided hp he c.acyclic _
  · exact alike.admits c

/-! ### One bound variable -/

/-- The matcher of a pattern in which one variable is bound. -/
def withOne (s x t : Text) : Matcher := (Matcher.of (.parse s)).withEnv [(x, .parse t)]

section
variable {s x t y : Text} {source : Option Text} {p v : Pattern}

theorem get?_withOne : (withOne s x t).env.get? y = if y = x then some (.parse t) else none := by
  simp [withOne, Matcher.withEnv, Matcher.of, NameMap.insertMany]

theorem eq_of_get?_withOne (h : (withOne s x t).env.get? y = some v) : y = x ∧ v = .parse t := by
  rw [get?_withOne] at h
  split at h
  · exact ⟨‹y = x›, (Option.some.inj h).symm⟩
  · cases h

theorem formed_withOne (y : Text) (v : Pattern) (h : (withOne s x t).env.get? y = some v) : v.Formed :=
  (eq_of_get?_withOne h).2 ▸ .parse t

theorem uses_withOne (h : (withOne s x t).Uses source p) :
    source = none ∧ p = .parse s ∨ source = some x ∧ p = .parse t := by
  cases h with
  | own => exact .inl ⟨rfl, rfl⟩
  | value _ _ hv =>
    obtain ⟨rfl, rfl⟩ := eq_of_get?_withOne hv
    exact .inr ⟨rfl, rfl⟩

theorem meets_withOne (h : (withOne s x t).env.Meets (Pattern.parse s).nodes n)
    (android : androidLocale ∉ Node.names (Pattern.parse s).nodes ++ Node.names (Pattern.parse t).nodes) :
    n ∈ (Pattern.parse s).nodes ++ (Pattern.parse t).nodes := by
  induction h with
  | here hn => exact List.mem_append_left _ hn
  | @through n k y ms _ hy hv hk ih =>
    have named : y ≠ androidLocale := by
      rintro rfl
      rw [List.mem_append, Node.mem_names, Node.mem_names] at android
      rcases List.mem_append.1 ih with hn | hn
      · exact android (.inl ⟨n, hn, hy⟩)
      · exact android (.inr ⟨n, hn, hy⟩)
    obtain ⟨v, hg, rfl⟩ := Option.map_eq_some_iff.1 (hv.unique (.binding named)).symm
    obtain ⟨rfl, rfl⟩ := eq_of_get?_withOne hg
    exact List.mem_append_right _ hk

theorem direct_withOne (named : ∀ id, starName id ≠ x)
    (android : androidLocale ∉ Node.names (Pattern.parse s).nodes ++ Node.names (Pattern.parse t).nodes) :
    (withOne s x t).Direct where
  noAndroid source p h repeated hn := by
    have name := Node.mem_names.2 ⟨_, hn, (rfl : (Node.android repeated).variableName = _)⟩
    rcases uses_withOne h with ⟨-, rfl⟩ | ⟨-, rfl⟩
    · exact android (List.mem_append_left _ name)
    · exact android (List.mem_append_right _ name)
  unbound id := by rw [get?_withOne, if_neg (named id)]

theorem unrepeated_withOne (names : (Node.names (Pattern.parse s).nodes ++
    Node.names (Pattern.parse t).nodes).Nodup) : (withOne s x t).Unrepeated where
  once source p h := by
    obtain ⟨own, inner, -⟩ := List.nodup_append.1 names
    rcases uses_withOne h with ⟨-, rfl⟩ | ⟨-, rfl⟩
    · exact (Pattern.Formed.parse s).wellFormed.hasRepeatedVariable_eq_false_iff.2 own
    · exact (Pattern.Formed.parse t).wellFormed.hasRepeatedVariable_eq_false_iff.2 inner
  parted source source' p p' x h h' hx hx' := by
    rcases uses_withOne h with ⟨rfl, rfl⟩ | ⟨rfl, rfl⟩ <;>
      rcases uses_withOne h' with ⟨rfl, rfl⟩ | ⟨rfl, rfl⟩
    · rfl
    · exact absurd rfl ((List.nodup_append.1 names).2.2 x hx x hx')
    · exact absurd rfl ((List.nodup_append.1 names).2.2 x hx' x hx)
    · rfl

theorem alike_withOne
    (android : androidLocale ∉ Node.names (Pattern.parse s).nodes ++ Node.names (Pattern.parse t).nodes)
    (alike : ∀ n ∈ (Pattern.parse s).nodes ++ (Pattern.parse t).nodes,
      ∀ k ∈ (Pattern.parse s).nodes ++ (Pattern.parse t).nodes,
        n.isWildcard → n.wildcardId = k.wildcardId → n = k) : (withOne s x t).Alike :=
  fun n k _ hn hk hni hki => alike n (meets_withOne hn android) k (meets_withOne hk android)
    (by rw [Node.isWildcard, hni]; rfl) (hni.trans hki.symm)

theorem acyclic_withOne (plain : Node.names (Pattern.parse t).nodes = []) (y : Text) :
    Acc (withOne s x t).env.OccursIn y := by
  refine ⟨y, fun z ⟨ns, n, hv, hn, hz⟩ => ?_⟩
  generalize e : some ns = value at hv
  cases hv with
  | binding =>
    obtain ⟨v, hg, rfl⟩ := Option.map_eq_some_iff.1 e.symm
    obtain ⟨-, rfl⟩ := eq_of_get?_withOne hg
    exact absurd (Node.mem_names.2 ⟨n, hn, hz⟩) (plain ▸ List.not_mem_nil)
  | code =>
    cases e
    cases List.mem_singleton.1 hn
    cases hz
  | noCode => cases e

end

/-- The wildcard of the directory and that of the file have one value. -/
def shelf : Matcher := withOne "{base}/*.ftl".toList "base".toList "/l10n/*".toList

theorem shelf_isMatch_expand :
    shelf.expand (.ofList [("base".toList, "/l10n/a".toList), ("s1".toList, ['a'])]) =
        .ok "/l10n/a/a.ftl".toList ∧
      shelf.isMatch "/l10n/a/a.ftl".toList = .ok true := by
  have direct : shelf.Direct := direct_withOne (starName_ne (by decide)) (by decide +kernel)
  have once : shelf.Unrepeated := unrepeated_withOne (by decide +kernel)
  have alike : shelf.Alike := alike_withOne (by decide +kernel) (by decide +kernel)
  have captured : shelf.captures "/l10n/a/b.ftl".toList =
      .ok (some (.ofList [("base".toList, "/l10n/a".toList), ("s1".toList, ['a'])])) := by
    decide +kernel
  obtain ⟨q, expanded, matched, decided, admits⟩ :=
    isMatch_expand_of_captures (.parse _) formed_withOne rfl direct captured
  obtain rfl : q = "/l10n/a/a.ftl".toList := Except.ok.inj (expanded.symm.trans (by decide +kernel))
  exact ⟨expanded, matched (admits alike) (decided once)⟩

/-- The value of `**` need not be a text of the `*` with the same number. -/
theorem not_forall_isMatch_expand : ¬∀ (m : Matcher) (path : Text) (b : Bindings), m.pattern.Formed →
    (∀ x v, m.env.get? x = some v → v.Formed) → m.pattern.root = none → m.Direct → m.Unrepeated →
      (∀ x, Acc m.env.OccursIn x) → m.captures path = .ok (some b) →
        ∃ q, m.expand b = .ok q ∧ m.isMatch q = .ok true := by
  intro h
  obtain ⟨q, expanded, matched⟩ := h (withOne "**/{x}".toList ['x'] "k*".toList) "a/kb".toList
    (.ofList [("s1".toList, "a/".toList), (['x'], "kb".toList)]) (.parse _) formed_withOne rfl
    (direct_withOne (starName_ne (by decide)) (by decide +kernel))
    (unrepeated_withOne (by decide +kernel)) (acyclic_withOne (by decide +kernel))
    (by decide +kernel)
  obtain rfl : q = "a/ka/".toList := Except.ok.inj (expanded.symm.trans (by decide +kernel))
  exact absurd matched (by decide +kernel)

end Matcher

end LocalePaths
