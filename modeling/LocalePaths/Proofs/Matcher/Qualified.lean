import LocalePaths.Proofs.Matcher.Shared
import LocalePaths.Proofs.Qualifier

/-!
# Captured qualifiers

Without an environment the variable `android_locale` captures any text, but it is expanded to the
qualifier of the locale that the text stands for. The expansion matches again, unless the text stands
for no locale at all (`Matcher.isMatch_expand_of_qualified`).
-/

namespace LocalePaths

open Piece

namespace Environment
variable {ns : List Node} {n : Node}

theorem resolves_empty (x : Text) : Resolves .empty x none := by
  by_cases hx : x = androidLocale
  · subst hx
    refine .noCode fun code h => ?_
    rcases h with ⟨tag, ⟨d, v, hv, -⟩, -⟩ | ⟨-, d, v, hv, -⟩ <;>
      exact nomatch (lookup_without.1 hv).2
  · exact .binding hx

theorem mem_of_meets_empty (h : Meets .empty ns n) : n ∈ ns := by
  cases h with
  | here hn => exact hn
  | through _ _ hv _ => cases hv.unique (resolves_empty _)

end Environment

theorem Node.eq_of_wildcardId {ns : List Node} {n k : Node} {id : Nat} (distinct : (wildcards ns).Nodup)
    (hn : n ∈ ns) (hk : k ∈ ns) (hni : n.wildcardId = some id) (hki : k.wildcardId = some id) :
    n = k := by
  induction ns with
  | nil => cases hn
  | cons m ns ih =>
    rw [wildcards_cons, List.nodup_append] at distinct
    obtain ⟨-, later, apart⟩ := distinct
    -- the number of the first node is not that of a later one
    have first : ∀ {k : Node}, m.wildcardId = some id → k ∈ ns → k.wildcardId = some id → False :=
      fun hm hk hki => apart id (Option.mem_toList.2 hm) id (List.mem_filterMap.2 ⟨_, hk, hki⟩) rfl
    rcases List.mem_cons.1 hn with rfl | hn' <;> rcases List.mem_cons.1 hk with rfl | hk'
    · rfl
    · exact (first hni hk' hki).elim
    · exact (first hki hn' hni).elim
    · exact ih later hn' hk'

namespace Matcher
variable {p : Pattern} {s path x : Text} {b : Bindings} {d : Nat} {n : Node}

theorem alike_of (wf : p.WellFormed) : (Matcher.of p).Alike := by
  intro n k id hn hk hni hki
  refine Node.eq_of_wildcardId wf.nodup_wildcards ?_ ?_ hni hki
  · exact Environment.mem_of_meets_empty hn
  · exact Environment.mem_of_meets_empty hk

theorem unrepeated_of (once : p.hasRepeatedVariable = false) : (Matcher.of p).Unrepeated where
  once source q h := by
    obtain ⟨-, rfl⟩ := h.eq_own rfl
    exact once
  parted source source' q q' x h h' _ _ := by rw [(h.eq_own rfl).1, (h'.eq_own rfl).1]

/-- The texts of variables where the values are expanded. -/
def respelled (b : Bindings) (x : Text) : Text :=
  if x = androidLocale then Qualifier.ofTag (Qualifier.toTag (b.value androidLocale)) else b.value x

/-- The text of the nodes where the values are expanded. -/
def respelledPath (p : Pattern) (b : Bindings) : Text :=
  p.nodes.flatMap (Node.textWith b.starValue (respelled b))

namespace Capture

theorem get?_of_mem_names (c : (Matcher.of p).Capture path b) (hx : x ∈ Node.names p.nodes) :
    b.get? x = some (b.value x) := by
  obtain ⟨n, hn, hx⟩ := Node.mem_names.1 hx
  have opened := (c.translated.opened n hn).1 x hx
  have value := c.get?_bindingName opened
  rw [bindingName_groupName] at value
  rw [Bindings.value, value]
  rfl

theorem not_mem_groups (c : (Matcher.of p).Capture path b) (names : x ∉ Node.names p.nodes)
    (wild : ∀ id, starName id ≠ x) : x ∉ (groupsOf c.pieces).map bindingName := by
  intro hx
  obtain ⟨g, hg, rfl⟩ := List.mem_map.1 hx
  obtain ⟨n, hn, o, q, o', translated, hg⟩ := c.translated.exists_of_mem_groupsOf hg
  have flat : Environment.IsFlat .empty := fun x v hv => nomatch (NameMap.get?_empty x).symm.trans hv
  rcases translated.eq_of_mem_groups flat hg with ⟨y, hy, rfl⟩ | ⟨id, hi, rfl⟩
  · exact names (Node.mem_names.2 ⟨n, hn, hy⟩)
  · exact wild id rfl

theorem get?_localeName (c : (Matcher.of p).Capture path b) (foreign : localeName ∉ Node.names p.nodes)
    (android : androidLocale ∈ Node.names p.nodes) :
    b.get? localeName = some (Qualifier.toTag (b.value androidLocale)) := by
  obtain ⟨n, hn, hx⟩ := Node.mem_names.1 android
  have opened := (c.translated.opened n hn).1 androidLocale hx
  have value : b.get? androidLocale = some _ := c.get?_bindingName opened
  have code : (valuesOf (groupsOf c.pieces) c.captures).get? androidLocale = some _ :=
    get?_valuesOf (usablePieces_eq_ok c.usable).2 ((c.translated.mem_iff.1 opened).resolve_right nofun)
  have free : (valuesOf (groupsOf c.pieces) c.captures).get? localeName = none :=
    get?_valuesOf_eq_none (c.not_mem_groups foreign (starName_ne (by decide)))
  rw [Bindings.value, value]
  conv_lhs => rw [c.bindings]
  exact get?_addLocale_localeName free code

/-- The values expand to the text in which the qualifier is that of the locale. -/
theorem writesNode (c : (Matcher.of p).Capture path b) (wf : p.WellFormed)
    (foreign : localeName ∉ Node.names p.nodes) (hn : n ∈ p.nodes) :
    ((Matcher.of p).scopeFor b).WritesNode (d + 1) n
      (n.textWith b.starValue (respelled b)) := by
  have value {x t : Text} (hx : b.get? x = some t) (s : Scope) :=
    writes_value (m := Matcher.of p) (H := []) (d := d) (NameMap.get?_empty x) hx nofun s
  cases n with
  | literal t => rfl
  | star id | starstar id ending => exact value (c.get?_starName (.here hn) rfl) _
  | «variable» x repeated =>
    have other : x ≠ androidLocale := wf.named _ hn
    have text : respelled b x = b.value x := if_neg other
    rw [Node.textWith, text]
    exact value (c.get?_of_mem_names (Node.mem_names.2 ⟨_, hn, rfl⟩)) _
  | android repeated =>
    have android := Node.mem_names.2 ⟨_, hn, (rfl : (Node.android repeated).variableName = _)⟩
    have text : respelled b androidLocale = _ := if_pos rfl
    rw [Node.textWith, text]
    exact .inl ⟨_, value (c.get?_localeName foreign android) _, rfl⟩

end Capture

theorem inLine_respelled (some_locale : b.get? androidLocale ≠ some "b+".toList)
    (h : InLine (b.value x)) : InLine (respelled b x) := by
  unfold respelled
  split
  · subst x
    refine Qualifier.inLine_ofTag_toTag h fun bare => some_locale ?_
    rw [Bindings.get?_of_value_ne_nil h.1, bare]
  · exact h

/-- The text in which the qualifier is that of the locale is generated again. -/
theorem Capture.generates_respelled (c : (Matcher.of p).Capture path b) (wf : p.WellFormed)
    (some_locale : b.get? androidLocale ≠ some "b+".toList) :
    Environment.GeneratesAll .empty (respelled b) Node.Spans p.nodes (respelledPath p b) := by
  have texts : Environment.texts .empty b.starValue (respelled b) = respelled b :=
    funext fun x => Environment.texts_free (Environment.resolves_empty x)
  have generates : Environment.GeneratesAll .empty (Environment.texts .empty b.starValue (respelled b))
      Node.Spans p.nodes
      (p.nodes.flatMap (Node.textWith b.starValue (Environment.texts .empty b.starValue (respelled b)))) :=
    c.generates.retext ((alike_of wf).admits c) (fun _ _ => inLine_respelled some_locale) fun _ => .here
  rwa [texts] at generates

/-- Without an environment the values expand to a path that matches again, unless the qualifier stands
for no locale at all. -/
theorem isMatch_expand_of_qualified (foreign : .name localeName ∉ Token.ofText s)
    (once : (Pattern.parse s).hasRepeatedVariable = false)
    (h : (Matcher.of (.parse s)).captures path = .ok (some b)) :
    ∃ q, (Matcher.of (.parse s)).expand b = .ok q ∧
      (b.get? androidLocale ≠ some "b+".toList → (Matcher.of (.parse s)).isMatch q = .ok true) := by
  have wf : (Pattern.parse s).WellFormed := (Pattern.Formed.parse s).wellFormed
  have foreign : localeName ∉ Node.names (Pattern.parse s).nodes := by
    rwa [Pattern.names_parse, Token.mem_words]
  have formed : ∀ x v, (Matcher.of (.parse s)).env.get? x = some v → v.Formed := fun x v hv =>
    nomatch (NameMap.get?_empty x).symm.trans hv
  obtain ⟨c⟩ := nonempty_capture (.parse s) formed h
  have written : ((Matcher.of (.parse s)).scopeFor b).Writes
      ((Matcher.of (.parse s)).scopeFor b).depth (Pattern.parse s).nodes (respelledPath (.parse s) b) :=
    (Scope.writes_flatMap (d := 1) fun n hn => c.writesNode wf foreign hn).mono (Scope.two_le_depth _)
  refine ⟨_, expand_of_writes rfl written, fun some_locale => ?_⟩
  exact isMatch_of_generates (.parse s) formed c.usable
    ⟨[], _, _, rfl, rfl, c.generates_respelled wf some_locale⟩
    ((unrepeated_of once).isMatch_ne_undecided (.parse s) formed c.acyclic _)

def resources : Matcher := .of (.parse "res/{android_locale}/*".toList)

theorem resources_isMatch_expand : ∃ q, resources.expand (.ofList [(androidLocale, "b+zh+CN".toList),
    (localeName, "zh-CN".toList), ("s1".toList, ['a'])]) = .ok q ∧ resources.isMatch q = .ok true := by
  have captured : resources.captures "res/b+zh+CN/a".toList = .ok (some (.ofList
      [(androidLocale, "b+zh+CN".toList), (localeName, "zh-CN".toList), ("s1".toList, ['a'])])) := by
    decide +kernel
  obtain ⟨q, expanded, matched⟩ :=
    isMatch_expand_of_qualified (by decide +kernel) (by decide +kernel) captured
  exact ⟨q, expanded, matched (by decide +kernel)⟩

/-- The text `b+` is captured, but it stands for no locale. -/
theorem not_forall_isMatch_expand_of_qualified : ¬∀ (s path : Text) (b : Bindings),
    (Token.ofText s).count (.name androidLocale) = 1 → .name localeName ∉ Token.ofText s →
      (Pattern.parse s).hasRepeatedVariable = false →
        (Matcher.of (.parse s)).captures path = .ok (some b) →
          ∃ q, (Matcher.of (.parse s)).expand b = .ok q ∧ (Matcher.of (.parse s)).isMatch q = .ok true := by
  intro h
  obtain ⟨q, expanded, matched⟩ := h "{android_locale}".toList "b+".toList
    (.ofList [(androidLocale, "b+".toList), (localeName, [])]) (by decide +kernel) (by decide +kernel)
    (by decide +kernel) (by decide +kernel)
  obtain rfl : q = [] := Except.ok.inj (expanded.symm.trans (by decide +kernel))
  exact absurd matched (by decide +kernel)

end Matcher

end LocalePaths
