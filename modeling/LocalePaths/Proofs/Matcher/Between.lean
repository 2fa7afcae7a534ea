import LocalePaths.Proofs.Matcher.Layout
import LocalePaths.Proofs.Matcher.Qualified
import LocalePaths.Proofs.Pattern.Grammar
import LocalePaths.Proofs.Qualifier.RoundTrip

/-!
# A locale between two texts

The paths of a pattern of one variable between two texts are these texts with a value in the middle, so that a
path has only one value (`Matcher.exists_captures_between`). Where the variable is `android_locale` the value
is written as a qualifier. So a path with a tag and the path with its qualifier translate into each other
(`Matcher.sub_between`).
-/

namespace LocalePaths

open Piece

namespace Token
variable {s t x : Text} {b : Bool}

theorem exists_tokens_append (wild : '*' ∉ s) (brace : '\x7b' ∉ s) (t : Text) :
    ∃ b', tokens b (s ++ t) = s.map char ++ tokens b' t := by
  induction s generalizing b with
  | nil => exact ⟨b, rfl⟩
  | cons c s ih =>
    have wild := not_or.1 (mt List.mem_cons.2 wild)
    have brace := not_or.1 (mt List.mem_cons.2 brace)
    have first : next? b (c :: (s ++ t)) = some (char c, s ++ t) :=
      next?_eq_some.2 ⟨rfl, Ne.symm wild.1, fun e => absurd e.symm brace.1⟩
    obtain ⟨b', later⟩ := ih (b := (char c).endsSegment) wild.2 brace.2
    exact ⟨b', by rw [List.cons_append, tokens_eq first, later]; rfl⟩

theorem tokens_braced (word : IsWord x) (t : Text) :
    tokens b ('\x7b' :: (x ++ '\x7d' :: t)) = name x :: tokens false t := by
  have found : name? (x ++ '\x7d' :: t) = some (x, t) := name?_spelled word 0 0 t
  have first : next? b ('\x7b' :: (x ++ '\x7d' :: t)) = some (name x, t) := by
    rw [next?, found]
  exact tokens_eq first

end Token

namespace Pattern
variable {front back s t x : Text} {id : Nat} {ts : List Token} {env : Environment} {r : Text → Text}
  {W : Node → Text → Prop}

/-- One variable between two texts. -/
def between (front x back : Text) : Pattern := parse (front ++ '\x7b' :: (x ++ '\x7d' :: back))

/-- The node of a name. -/
def named (x : Text) : Node := if x = androidLocale then .android false else .variable x false

theorem variableName_named (x : Text) : (named x).variableName = some x := by
  unfold named
  split
  · subst x
    rfl
  · rfl

theorem ofTokens_chars_name : ∀ (s run : Text),
    ofTokens id run (s.map .char ++ .name x :: ts) = literal? (run ++ s) ++ named x :: ofTokens id [] ts
  | [], run => by
    rw [List.append_nil]
    rfl
  | c :: s, run => by
    have later := ofTokens_chars_name s (run ++ [c])
    rwa [List.append_assoc] at later

/-- Texts without wildcards and braces stand for themselves beside the variable. -/
theorem nodes_between (front_plain : '*' ∉ front ∧ '\x7b' ∉ front)
    (back_plain : '*' ∉ back ∧ '\x7b' ∉ back) (word : Token.IsWord x) :
    (between front x back).nodes = literal? front ++ [named x, .literal back] := by
  obtain ⟨b, read⟩ := Token.exists_tokens_append (b := true) front_plain.1 front_plain.2
    ('\x7b' :: (x ++ '\x7d' :: back))
  rw [Token.tokens_braced word, Token.tokens_plain false back_plain.1 back_plain.2] at read
  have tokens : Token.ofText (front ++ '\x7b' :: (x ++ '\x7d' :: back)) = _ := read
  have once : Node.flagAll [] (literal? front ++ [named x, .literal back]) =
      literal? front ++ [named x, .literal back] := by
    unfold literal? named
    split <;> split <;> rfl
  rw [between, parse, tokens, ofTokens_chars_name, ofTokens_plain]
  exact once

theorem names_between (nodes : (between front x back).nodes = literal? front ++ [named x, .literal back]) :
    Node.names (between front x back).nodes = [x] := by
  rw [nodes, Node.names_append, names_literal?, Node.names_cons, variableName_named]
  rfl

theorem generatesAll_between
    (nodes : (between front x back).nodes = literal? front ++ [named x, .literal back]) :
    env.GeneratesAll r W (between front x back).nodes t ↔ t = front ++ (r x ++ back) ∧
      (env.Resolves x none ∧ InLine (r x) ∨
        ∃ ns, env.Resolves x (some ns) ∧ env.GeneratesAll r W ns (r x)) := by
  rw [nodes, Environment.generatesAll_append]
  simp only [Environment.generatesAll_literal?, Environment.generatesAll_cons,
    Environment.generates_variable (variableName_named x), Environment.generates_literal,
    Environment.generatesAll_nil]
  constructor
  · rintro ⟨_, _, rfl, rfl, _, _, rfl, ⟨rfl, value⟩, _, _, rfl, rfl, rfl⟩
    exact ⟨by rw [List.append_nil], value⟩
  · rintro ⟨rfl, value⟩
    exact ⟨front, _, rfl, rfl, _, back, rfl, ⟨rfl, value⟩, back, [], (List.append_nil back).symm, rfl, rfl⟩

end Pattern

namespace Matcher
variable {front back front' back' x t v tag path : Text} {b : Bindings} {m : Matcher}

/-- Matching comes to an answer where values are texts and nothing is repeated. -/
theorem exists_isMatch (hp : m.pattern.Formed) (he : ∀ x v, m.env.get? x = some v → v.Formed)
    (flat : m.env.IsFlat) (hr : m.pattern.root = none) (apart : Node.IsApart m.pattern.nodes)
    (once : m.Unrepeated) (acyclic : ∀ y ∈ Node.names m.pattern.nodes, Acc m.env.OccursIn y) (path : Text) :
    ∃ answer, m.isMatch path = .ok answer ∧ (answer = true ↔ m.Generates path) := by
  have wf : m.env.WellFormed := fun x v hv => (he x v hv).wellFormed
  obtain ⟨ps, usable⟩ := (usablePieces_iff_isApart hp.wellFormed wf flat hr).2 apart
  have decided := once.isMatch_ne_undecided hp he acyclic path
  cases h : m.isMatch path with
  | ok answer =>
    obtain ⟨qs, pieces, reads⟩ := isMatch_iff_reads h
    exact ⟨answer, rfl, reads.trans (reads_iff_generates hp.wellFormed wf pieces)⟩
  | error e =>
    rw [isMatch_eq, usable] at h decided
    dsimp only at h decided
    cases hs : (whole ps).search path with
    | gaveUp => exact absurd (by rw [hs]) decided
    | _ => simp [hs] at h

section
variable (nodes : (Pattern.between front x back).nodes =
  Pattern.literal? front ++ [Pattern.named x, .literal back])
include nodes

theorem isApart_between : Node.IsApart (Pattern.between front x back).nodes := by
  have none : Node.wildcards (Pattern.between front x back).nodes = [] := by
    have plain : (Pattern.named x).wildcardId = .none :=
      Environment.wildcardId_of_variableName (Pattern.variableName_named x)
    rw [nodes, Node.wildcards_append, Pattern.wildcards_literal?, Node.wildcards_cons, plain]
    rfl
  intro y _ id hid
  rw [none] at hid
  cases hid

theorem once_between : (Pattern.between front x back).hasRepeatedVariable = false := by
  have wf : (Pattern.between front x back).WellFormed := (Pattern.Formed.parse _).wellFormed
  rw [wf.hasRepeatedVariable_eq_false_iff, Pattern.names_between nodes]
  exact List.nodup_singleton x

/-- A text on one line between the two texts is the value of the variable. -/
theorem exists_captures_between (line : InLine v) : ∃ b,
    (Matcher.of (.between front x back)).captures (front ++ (v ++ back)) = .ok (some b) ∧
      b.get? x = some v ∧
        (x = androidLocale → b.get? localeName = some (Qualifier.toTag v)) := by
  let m := Matcher.of (.between front x back)
  have formed : m.pattern.Formed := .parse _
  have formed_env : ∀ y w, m.env.get? y = some w → w.Formed := fun y w hw =>
    nomatch (NameMap.get?_empty y).symm.trans hw
  have flat : m.env.IsFlat := fun y w hw => nomatch (NameMap.get?_empty y).symm.trans hw
  have free := Environment.resolves_empty x
  obtain ⟨answer, matched, language⟩ := exists_isMatch (m := m) formed formed_env flat rfl
    (isApart_between nodes) (unrepeated_of (once_between nodes))
    (fun y _ => Environment.acc_of_free (Environment.resolves_empty y)) (front ++ (v ++ back))
  obtain rfl := language.2
    ⟨[], fun _ => v, _, rfl, rfl, (Pattern.generatesAll_between nodes).2 ⟨rfl, .inl ⟨free, line⟩⟩⟩
  obtain ⟨b, captured⟩ := isMatch_eq_ok_true.1 matched
  obtain ⟨c⟩ := nonempty_capture formed formed_env captured
  -- the path fixes the value
  obtain ⟨body, -⟩ := (Pattern.generatesAll_between nodes).1 c.generates
  have rootless : c.root = [] := (Option.some.inj c.rootText).symm
  have same := c.path_eq
  rw [rootless, body] at same
  have value : v = b.value x := List.append_cancel_right (List.append_cancel_left same)
  refine ⟨b, captured, ?_, ?_⟩
  · rw [value] at line ⊢
    exact Bindings.get?_of_value_ne_nil line.1
  · rintro rfl
    have names := Pattern.names_between nodes
    have foreign : localeName ∉ Node.names (Pattern.between front androidLocale back).nodes := by
      rw [names]
      decide
    rw [value]
    exact c.get?_localeName foreign (names.symm ▸ List.mem_singleton_self _)

theorem expand_between
    (written : ((Matcher.of (.between front x back)).scopeFor b).WritesNode 1 (Pattern.named x) v) :
    (Matcher.of (.between front x back)).expand b = .ok (front ++ (v ++ back)) := by
  let s := (Matcher.of (.between front x back)).scopeFor b
  have value : s.Writes 2 [Pattern.named x, .literal back] (v ++ back) := by
    refine Scope.writes_cons.2 ⟨v, back, written, ?_, rfl⟩
    exact Scope.writes_cons.2 ⟨back, [], rfl, Scope.writes_nil.2 rfl, (List.append_nil back).symm⟩
  have body : s.Writes 2 (Pattern.between front x back).nodes (front ++ (v ++ back)) := by
    rw [nodes, Pattern.literal?]
    split
    · rename_i empty
      rwa [empty]
    · exact Scope.writes_cons.2 ⟨front, v ++ back, rfl, value, rfl⟩
  have rootless : (Pattern.between front x back).rootText s = some [] := rootText_of_rootless rfl s
  have expanded : (Matcher.of (.between front x back)).expand b = .ok ([] ++ (front ++ (v ++ back))) :=
    expand_of_writes rootless (body.mono (Scope.two_le_depth s))
  exact expanded

end

/-! ### Tags and qualifiers -/

theorem writesNode_named (h : b.get? x = some v) (other : x ≠ androidLocale) :
    ((Matcher.of (.between front x back)).scopeFor b).WritesNode 1 (Pattern.named x) v := by
  rw [Pattern.named, if_neg other]
  exact writes_value (m := .of (.between front x back)) (H := []) (NameMap.get?_empty x) h nofun _

theorem writesNode_android (h : b.get? localeName = some tag) :
    ((Matcher.of (.between front androidLocale back)).scopeFor b).WritesNode 1 (Pattern.named androidLocale)
      (Qualifier.ofTag tag) :=
  .inl ⟨tag, writes_value (m := .of (.between front androidLocale back)) (H := [])
    (NameMap.get?_empty localeName) h nofun _, rfl⟩

/-- The matcher with the locale in place. -/
def localized (m : Matcher) (tag : Text) : Matcher := m.withEnv [(localeName, .literal tag)]

theorem get?_localized (p : Pattern) : ((Matcher.of p).localized tag).env.get? x =
    if x = localeName then some (.literal tag) else none := by
  simp [localized, Matcher.withEnv, Matcher.of, NameMap.insertMany]

theorem eq_of_get?_localized {p w : Pattern} (h : ((Matcher.of p).localized tag).env.get? x = some w) :
    w = .literal tag := by
  rw [get?_localized] at h
  split at h
  · exact (Option.some.inj h).symm
  · cases h

theorem resolves_localized (p : Pattern) : ((Matcher.of p).localized tag).env.Resolves androidLocale
    (some [.literal (Qualifier.ofTag tag)]) := by
  have bound : ((Matcher.of p).localized tag).env.get? localeName = some (.literal tag) := by
    rw [get?_localized, if_pos rfl]
  have found := Environment.lookup_without (H := []).2 ⟨List.not_mem_nil, bound⟩
  exact .code (.inl ⟨tag, ⟨1, _, found, writes_literal⟩, rfl⟩)

theorem isMatch_localized
    (nodes : (Pattern.between front androidLocale back).nodes =
      Pattern.literal? front ++ [Pattern.named androidLocale, .literal back]) (path : Text) :
    ((Matcher.of (.between front androidLocale back)).localized tag).isMatch path =
      .ok (decide (path = front ++ (Qualifier.ofTag tag ++ back))) := by
  let m := (Matcher.of (.between front androidLocale back)).localized tag
  have formed_env : ∀ y w, m.env.get? y = some w → w.Formed := fun y w hw =>
    eq_of_get?_localized hw ▸ .literal tag
  have flat : m.env.IsFlat := fun y w hw => ⟨tag, eq_of_get?_localized hw ▸ rfl⟩
  have code : m.env.Resolves androidLocale _ := resolves_localized _
  have own : ∀ source p, m.Uses source p → source = none ∧ p = .between front androidLocale back := by
    intro source p h
    induction h with
    | own => exact ⟨rfl, rfl⟩
    | value _ hx _ ih =>
      rw [ih.2, nodes, Pattern.named, if_pos rfl] at hx
      unfold Pattern.literal? at hx
      split at hx <;> simp at hx
  have unrepeated : m.Unrepeated := by
    refine ⟨fun source p h => (own source p h).2 ▸ once_between nodes, ?_⟩
    intro source source' p p' x h h' _ _
    rw [(own source p h).1, (own source' p' h').1]
  have acyclic : ∀ y ∈ Node.names m.pattern.nodes, Acc m.env.OccursIn y := by
    intro y hy
    have names : Node.names m.pattern.nodes = [androidLocale] := Pattern.names_between nodes
    rw [names] at hy
    rw [List.mem_singleton.1 hy]
    refine Environment.acc_of_bound code fun n hn x hx => ?_
    rw [List.mem_singleton.1 hn] at hx
    cases hx
  have language : m.Generates path ↔ path = front ++ (Qualifier.ofTag tag ++ back) := by
    constructor
    · rintro ⟨root, r, body, hr, rfl, generated⟩
      obtain rfl := Option.some.inj hr
      obtain ⟨rfl, ⟨free, -⟩ | ⟨ns, bound, value⟩⟩ := (Pattern.generatesAll_between nodes).1 generated
      · cases free.unique code
      · cases bound.unique code
        rw [Environment.generatesAll_literal.1 value]
        rfl
    · rintro rfl
      refine ⟨[], fun _ => Qualifier.ofTag tag, _, rfl, rfl, ?_⟩
      exact (Pattern.generatesAll_between nodes).2
        ⟨rfl, .inr ⟨_, code, Environment.generatesAll_literal.2 rfl⟩⟩
  obtain ⟨answer, matched, generates⟩ := exists_isMatch (m := m) (.parse _) formed_env flat rfl
    (isApart_between nodes) unrepeated acyclic path
  rw [matched, Except.ok.injEq, Bool.eq_iff_iff, generates, language, decide_eq_true_iff]

/-- A path with a tag and the path with its qualifier translate into each other, and with the locale in place
the latter is the only path. -/
theorem sub_between (plain : ∀ s ∈ [front, back, front', back'], '*' ∉ s ∧ '\x7b' ∉ s) (line : InLine tag)
    (plus : '+' ∉ tag) (current : Qualifier.language tag ∉ Qualifier.withdrawnCodes) :
    let android := Matcher.of (.between front androidLocale back)
    let tagged := Matcher.of (.between front' localeName back')
    android.sub tagged (front ++ (Qualifier.ofTag tag ++ back)) = .ok (some (front' ++ (tag ++ back'))) ∧
      tagged.sub android (front' ++ (tag ++ back')) =
        .ok (some (front ++ (Qualifier.ofTag tag ++ back))) ∧
      ∀ path, (android.localized tag).isMatch path =
        .ok (decide (path = front ++ (Qualifier.ofTag tag ++ back))) := by
  simp only [List.forall_mem_cons] at plain
  obtain ⟨front_plain, back_plain, front_plain', back_plain', -⟩ := plain
  have coded := Pattern.nodes_between (x := androidLocale) front_plain back_plain
    ⟨by decide, List.all_eq_true.1 (by decide)⟩
  have named := Pattern.nodes_between (x := localeName) front_plain' back_plain'
    ⟨by decide, List.all_eq_true.1 (by decide)⟩
  have reversible : Qualifier.IsReversible tag := by
    refine ⟨current, ?_⟩
    by_cases hyphen : '-' ∈ tag
    · exact .inl ⟨hyphen, plus⟩
    · refine .inr ⟨hyphen, ?_⟩
      rintro ⟨subtags, rfl⟩
      exact plus (List.mem_cons_of_mem _ List.mem_cons_self)
  have back_again := Qualifier.toTag_ofTag_of_isReversible reversible
  refine ⟨?_, ?_, isMatch_localized coded⟩
  · obtain ⟨b, captured, -, added⟩ := exists_captures_between coded (Qualifier.inLine_ofTag line)
    have value := added rfl
    rw [back_again] at value
    exact sub_eq_some_iff.2 ⟨b, captured, expand_between named (writesNode_named value (by decide))⟩
  · obtain ⟨b, captured, value, -⟩ := exists_captures_between named line
    exact sub_eq_some_iff.2 ⟨b, captured, expand_between coded (writesNode_android value)⟩

/-- The text in front of the qualifier looks like the mark of one, and the text behind it like a region. -/
theorem marked_sub_between : (Matcher.of (.between "b+".toList androidLocale "-rDE".toList)).sub
    (.of (.between "l/".toList localeName ".x".toList)) "b+b+iw+Latn-rDE".toList =
      .ok (some "l/he-Latn.x".toList) := by
  have plain : ∀ s ∈ ["b+".toList, "-rDE".toList, "l/".toList, ".x".toList], '*' ∉ s ∧ '\x7b' ∉ s := by
    decide
  have line : InLine "he-Latn".toList := ⟨by decide, by decide⟩
  exact (sub_between plain line (by decide) (by decide)).1

end Matcher

end LocalePaths
