import LocalePaths.Proofs.Matcher.Language
import LocalePaths.Proofs.NameMap
import LocalePaths.Proofs.Piece.Agreement
import LocalePaths.Proofs.Piece.Lead

/-!
# The language of joined matchers

A matcher that is joined from two others matches a path if the first matches its start and the second the
rest (`Matcher.isMatch_concat`), as long as the two have no say in each other: no variable is reached from
both, and neither binds a name that the other one consults (`Matcher.Apart`). The variables of both then keep
their texts, and each environment is consulted in the joined one as it was alone.
-/

namespace LocalePaths

namespace Environment
variable {env : Environment} {r : Text → Text} {ns : List Node} {n : Node} {t : Text}

theorem generates_shift (k : Nat) :
    env.Generates r Node.Spans (n.shift k) t ↔ env.Generates r Node.Spans n t := by
  cases n with
  | literal | «variable» | android => exact Iff.rfl
  | star id | starstar id ending =>
    rw [generates_wildcard (show (Node.shift k _).wildcardId = some (id + k) from rfl),
      generates_wildcard (show (Node.wildcardId _) = some id from rfl)]
    exact Iff.rfl

theorem generatesAll_shift (k : Nat) :
    env.GeneratesAll r Node.Spans (ns.map (Node.shift k)) t ↔ env.GeneratesAll r Node.Spans ns t := by
  induction ns generalizing t with
  | nil => exact Iff.rfl
  | cons n ns ih => simp only [List.map_cons, generatesAll_cons, generates_shift, ih]

end Environment

namespace Pattern
variable {p q r : Pattern}

theorem concat?_eq_some (h : p.concat? q = some r) : q.root = none ∧ r.root = p.root ∧
    r.nodes = Node.flagAll [] (p.nodes ++ q.nodes.map (Node.shift p.lastWildcard)) := by
  unfold concat? at h
  split at h
  · cases h
  · rename_i unrooted
    cases h
    exact ⟨by simpa using unrooted, rfl, rfl⟩

/-- The root only looks at the first node, which is that of the first pattern. -/
theorem rootText_concat? (hp : p.WellFormed) (nonempty : p.nodes ≠ []) (h : p.concat? q = some r)
    (s : Scope) : r.rootText s = p.rootText s := by
  obtain ⟨-, root, nodes⟩ := concat?_eq_some h
  have first : r.nodes.take 1 = p.nodes.take 1 := by
    have flagged := hp.flagged
    rw [nodes]
    cases hn : p.nodes with
    | nil => exact absurd hn nonempty
    | cons n ns =>
      rw [hn] at flagged
      show [n.flag []] = [n]
      rw [(List.cons.inj flagged).1]
  unfold rootText
  rw [root, first]

end Pattern

namespace Matcher
variable {a b c m : Matcher} {path : Text}

/-- The node is one of the pattern, or one of those that bindings lead to. -/
def Reaches (m : Matcher) (n : Node) : Prop := m.env.Reaches m.pattern.nodes n

/-- No variable is reached from both matchers, and neither of them binds a name that is consulted for a node
reached from the other one. -/
structure Apart (a b : Matcher) : Prop where
  distinct : ∀ n k x, a.Reaches n → b.Reaches k → n.variableName = some x → k.variableName ≠ some x
  unboundRight : ∀ n x, a.Reaches n → x ∈ n.consulted → b.env.get? x = none
  unboundLeft : ∀ n x, b.Reaches n → x ∈ n.consulted → a.env.get? x = none

/-- Whether the path matches can be found out. -/
def Answers (m : Matcher) (path : Text) : Prop := ∃ answer, m.isMatch path = .ok answer

/-- The pattern of the matcher and those that it binds can be made. -/
structure Formed (m : Matcher) : Prop where
  pattern : m.pattern.Formed
  env : ∀ x v, m.env.get? x = some v → v.Formed

theorem Formed.wellFormed_env (h : m.Formed) : m.env.WellFormed := fun x v hv => (h.env x v hv).wellFormed

theorem Answers.exists_rootText (h : m.Answers path) (hm : m.Formed) :
    ∃ root, m.pattern.rootText (.of m.env) = some root := by
  obtain ⟨answer, h⟩ := h
  obtain ⟨ps, usable, -⟩ := isMatch_iff_reads h
  obtain ⟨root, -, -, hr, -⟩ := translatesAll_of_usablePieces hm.pattern.wellFormed hm.wellFormed_env usable
  exact ⟨root, hr⟩

theorem Answers.isMatch_iff (h : m.Answers path) (hm : m.Formed) :
    m.isMatch path = .ok true ↔ m.Generates path := by
  obtain ⟨answer, h⟩ := h
  obtain ⟨ps, usable, reads⟩ := isMatch_iff_reads h
  rw [h, ← reads_iff_generates hm.pattern.wellFormed hm.wellFormed_env usable, ← reads]
  exact ⟨Except.ok.inj, congrArg Except.ok⟩

theorem concat_eq_ok (h : a.concat b = .ok c) :
    a.pattern.concat? b.pattern = some c.pattern ∧ c.env = a.env.merge b.env := by
  unfold concat at h
  split at h
  · rename_i p hp
    cases h
    exact ⟨hp, rfl⟩
  · cases h

theorem Formed.concat (ha : a.Formed) (hb : b.Formed) (h : a.concat b = .ok c) : c.Formed := by
  obtain ⟨pattern, env⟩ := concat_eq_ok h
  refine ⟨.concat ha.pattern hb.pattern pattern, fun x v hv => ?_⟩
  rw [env, NameMap.get?_merge, Option.or_eq_some_iff] at hv
  rcases hv with hv | ⟨-, hv⟩
  · exact hb.env x v hv
  · exact ha.env x v hv

section
variable (apart : a.Apart b) (joined : a.concat b = .ok c)
include apart joined

theorem agreesOn_left : a.env.AgreesOn c.env a.Reaches := by
  refine Environment.agreesOn_reaches fun n x hn hx => ?_
  rw [(concat_eq_ok joined).2, NameMap.get?_merge, apart.unboundRight n x hn hx, Option.none_or]

theorem agreesOn_right : b.env.AgreesOn c.env b.Reaches := by
  refine Environment.agreesOn_reaches fun n x hn hx => ?_
  rw [(concat_eq_ok joined).2, NameMap.get?_merge, apart.unboundLeft n x hn hx, Option.or_none]

open Classical in
/-- The texts of the variables of both matchers, which have none in common. -/
noncomputable def textsOf (a : Matcher) (r r' : Text → Text) (x : Text) : Text :=
  if ∃ n, a.Reaches n ∧ n.variableName = some x then r x else r' x

theorem generatesAll_concat {t : Text} : (∃ r, c.env.GeneratesAll r Node.Spans c.pattern.nodes t) ↔
    ∃ u v, t = u ++ v ∧ (∃ r, a.env.GeneratesAll r Node.Spans a.pattern.nodes u) ∧
      ∃ r, b.env.GeneratesAll r Node.Spans b.pattern.nodes v := by
  have left := agreesOn_left apart joined
  have right := agreesOn_right apart joined
  have reached : ∀ m : Matcher, ∀ n ∈ m.pattern.nodes, m.Reaches n := fun _ _ => .here
  rw [(Pattern.concat?_eq_some (concat_eq_ok joined).1).2.2]
  simp only [Environment.generatesAll_flagAll, Environment.generatesAll_append, Environment.generatesAll_shift]
  constructor
  · rintro ⟨r, u, v, rfl, hu, hv⟩
    exact ⟨u, v, rfl, ⟨r, left.symm.generatesAll (fun _ _ _ _ => rfl) hu (reached a)⟩,
      r, right.symm.generatesAll (fun _ _ _ _ => rfl) hv (reached b)⟩
  · rintro ⟨u, v, rfl, ⟨r, hu⟩, r', hv⟩
    refine ⟨a.textsOf r r', u, v, rfl, left.generatesAll ?_ hu (reached a),
      right.generatesAll ?_ hv (reached b)⟩
    · intro n x hn hx
      exact if_pos ⟨n, hn, hx⟩
    · intro k x hk hx
      refine if_neg ?_
      rintro ⟨n, hn, hx'⟩
      exact apart.distinct n k x hn hk hx' hx

end

/-- The joined matcher generates the paths that consist of one of the first and one of the second. -/
theorem generates_concat (ha : a.Formed) (nonempty : a.pattern.nodes ≠ []) (apart : a.Apart b)
    (joined : a.concat b = .ok c) {root root' : Text} (hr : a.pattern.rootText (.of a.env) = some root)
    (hr' : c.pattern.rootText (.of c.env) = some root') :
    c.Generates path ↔ ∃ p q, path = p ++ q ∧ a.Generates p ∧ b.Generates q := by
  obtain ⟨pattern, -⟩ := concat_eq_ok joined
  have unrooted : b.pattern.rootText (.of b.env) = some [] := by
    unfold Pattern.rootText
    rw [(Pattern.concat?_eq_some pattern).1]
  have same : root = root' := by
    rw [Pattern.rootText_concat? ha.pattern.wellFormed nonempty pattern] at hr'
    exact (agreesOn_left apart joined).rootText_eq (fun n hn => .here (List.mem_of_mem_take hn)) hr hr'
  constructor
  · rintro ⟨root'', r, body, hr'', rfl, generated⟩
    obtain rfl := Option.some.inj (hr'.symm.trans hr'')
    obtain ⟨u, v, rfl, ⟨r₁, hu⟩, r₂, hv⟩ := (generatesAll_concat apart joined).1 ⟨r, generated⟩
    exact ⟨root' ++ u, v, (List.append_assoc ..).symm, ⟨root', r₁, u, same ▸ hr, rfl, hu⟩,
      [], r₂, v, unrooted, rfl, hv⟩
  · rintro ⟨p, q, rfl, ⟨root₁, r₁, u, hr₁, rfl, hu⟩, root₂, r₂, v, hr₂, rfl, hv⟩
    obtain rfl : root = root₁ := Option.some.inj (hr.symm.trans hr₁)
    obtain rfl : [] = root₂ := Option.some.inj (unrooted.symm.trans hr₂)
    obtain ⟨r, generated⟩ := (generatesAll_concat apart joined).2 ⟨u, v, rfl, ⟨r₁, hu⟩, r₂, hv⟩
    exact ⟨root', r, u ++ v, hr', by rw [same, List.append_assoc]; rfl, generated⟩

/-- Matchers with a root cannot be appended. Others can: if the two matchers are apart, the joined one
matches the paths of which the first matches the start and the second the rest. -/
theorem isMatch_concat (ha : a.Formed) (hb : b.Formed) :
    (b.pattern.root ≠ none → a.concat b = .error .rootedConcat) ∧
      (b.pattern.root = none → a.pattern.nodes ≠ [] → a.Apart b → ∃ c, a.concat b = .ok c ∧
        ∀ path, c.Answers path → (∀ p q, path = p ++ q → a.Answers p ∧ b.Answers q) →
          (c.isMatch path = .ok true ↔
            ∃ p q, path = p ++ q ∧ a.isMatch p = .ok true ∧ b.isMatch q = .ok true)) := by
  constructor
  · intro rooted
    unfold concat Pattern.concat?
    rw [if_pos (Option.isSome_iff_ne_none.2 rooted)]
  · intro unrooted nonempty apart
    obtain ⟨c, joined⟩ : ∃ c, a.concat b = .ok c := by
      unfold concat Pattern.concat?
      rw [unrooted]
      exact ⟨_, rfl⟩
    refine ⟨c, joined, fun path answers parts => ?_⟩
    have hc := ha.concat hb joined
    obtain ⟨root, hr⟩ := (parts path [] (List.append_nil path).symm).1.exists_rootText ha
    obtain ⟨root', hr'⟩ := answers.exists_rootText hc
    rw [answers.isMatch_iff hc, generates_concat ha nonempty apart joined hr hr']
    refine exists_congr fun p => exists_congr fun q => and_congr_right fun e => ?_
    obtain ⟨hp, hq⟩ := parts p q e
    rw [hp.isMatch_iff ha, hq.isMatch_iff hb]

/-- The nodes of the pattern and of everything that is bound. -/
def allNodes (m : Matcher) : List Node := m.pattern.nodes ++ m.env.entries.flatMap fun e => e.2.nodes

theorem Reaches.mem_allNodes {n : Node} (h : m.Reaches n) : n ∈ m.allNodes := by
  cases h with
  | here hn => exact List.mem_append_left _ hn
  | through _ _ hv hn => exact List.mem_append_right _ (List.mem_flatMap.2 ⟨_, NameMap.mem_of_find hv, hn⟩)

theorem apart_of_allNodes
    (distinct : ∀ n ∈ a.allNodes, ∀ k ∈ b.allNodes, ∀ x ∈ n.variableName, k.variableName ≠ some x)
    (unboundRight : ∀ n ∈ a.allNodes, ∀ x ∈ n.consulted, b.env.get? x = none)
    (unboundLeft : ∀ n ∈ b.allNodes, ∀ x ∈ n.consulted, a.env.get? x = none) : a.Apart b where
  distinct n k x hn hk hx := distinct n hn.mem_allNodes k hk.mem_allNodes x hx
  unboundRight n x hn := unboundRight n hn.mem_allNodes x
  unboundLeft n x hn := unboundLeft n hn.mem_allNodes x

theorem answers_of_isOk (h : (m.isMatch path).isOk = true) : m.Answers path := by
  unfold Answers
  cases hm : m.isMatch path with
  | ok answer => exact ⟨answer, rfl⟩
  | error e =>
    rw [hm] at h
    cases h

theorem Formed.withEnv {bindings : List (Text × Pattern)} (h : m.Formed)
    (hb : ∀ e ∈ bindings, e.2.Formed) : (m.withEnv bindings).Formed :=
  ⟨h.pattern, NameMap.forall_insertMany h.env hb⟩

def folder : Matcher :=
  (Matcher.of (.parse "*/{android_locale}/".toList)).withEnv [(localeName, .parse "de-AT".toList)]

def entry : Matcher :=
  (Matcher.of (.parse "*.{kind}".toList)).withEnv [("kind".toList, .parse "ftl".toList)]

theorem folder_formed : folder.Formed :=
  .withEnv ⟨.parse _, nofun⟩ (List.forall_mem_singleton.2 (.parse _))

theorem entry_formed : entry.Formed :=
  .withEnv ⟨.parse _, nofun⟩ (List.forall_mem_singleton.2 (.parse _))

theorem folder_apart_entry : folder.Apart entry := by
  refine apart_of_allNodes ?_ ?_ ?_ <;> decide +kernel

/-- A path of a folder and an entry is matched by the joined matcher, with the wildcard of the entry
numbered on. -/
theorem folder_concat_entry : entry.pattern.root = none ∧ folder.pattern.nodes ≠ [] ∧ folder.Apart entry ∧
    ∃ c, folder.concat entry = .ok c ∧ c.isMatch "a/de-rAT/b.ftl".toList = .ok true := by
  have nonempty : folder.pattern.nodes ≠ [] := by decide +kernel
  obtain ⟨c, joined, splits⟩ := (isMatch_concat folder_formed entry_formed).2 rfl nonempty folder_apart_entry
  have answers : ((folder.concat entry).bind fun c => c.isMatch "a/de-rAT/b.ftl".toList).isOk = true := by
    decide +kernel
  rw [joined] at answers
  have parts : ∀ i ≤ "a/de-rAT/b.ftl".toList.length,
      (folder.isMatch ("a/de-rAT/b.ftl".toList.take i)).isOk = true ∧
        (entry.isMatch ("a/de-rAT/b.ftl".toList.drop i)).isOk = true := by
    decide +kernel
  refine ⟨rfl, nonempty, folder_apart_entry, c, joined, (splits _ (answers_of_isOk answers) ?_).2 ?_⟩
  · intro p q e
    have here := parts p.length (by rw [e, List.length_append]; exact Nat.le_add_right ..)
    rw [e, List.take_left, List.drop_left] at here
    exact ⟨answers_of_isOk here.1, answers_of_isOk here.2⟩
  · exact ⟨"a/de-rAT/".toList, "b.ftl".toList, by decide, by decide +kernel, by decide +kernel⟩

end Matcher

end LocalePaths
