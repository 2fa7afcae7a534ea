import LocalePaths.Proofs.Matcher.Language
import LocalePaths.Proofs.Pattern.Depth
import LocalePaths.Proofs.Pattern.Representation

/-!
# The static stem

All paths that match start with the static stem (`Matcher.staticStem_of_isMatch`). The stem is what the
nodes before the first wildcard are rendered to, up to the first name without a value. Whatever names are
hidden there, the text that nodes generate starts with what they are rendered to
(`Environment.starts_of_generatesAll`): a name that is hidden only ends the rendering earlier.
-/

namespace LocalePaths

namespace Rendered
variable {u : Rendered} {t : Text}

/-- The text starts with what has been written, and is all of it if nothing was missing. -/
def Starts (u : Rendered) (t : Text) : Prop := u.text <+: t ∧ (u.missing = none → u.text = t)

theorem starts_written (t : Text) : (written t).Starts t := ⟨List.prefix_rfl, fun _ => rfl⟩

theorem starts_unresolved (n : Node) (x t : Text) : (unresolved .halt n x).Starts t :=
  ⟨List.nil_prefix, nofun⟩

theorem Starts.prepend (h : u.Starts t) (a : Text) : (u.prepend a).Starts (a ++ t) := by
  refine ⟨(List.prefix_append_right_inj a).2 h.1, fun complete => ?_⟩
  show a ++ u.text = a ++ t
  rw [h.2 complete]

end Rendered

namespace Environment
variable {env : Environment} {r : Text → Text} {W : Node → Text → Prop} {H : List Text} {n : Node}
  {ns : List Node} {x t : Text} {d : Nat} {u : Rendered}

theorem EntersAndroid.exists_variable (h : env.EntersAndroid ns) :
    ∃ n ∈ ns, ∃ x, n.variableName = some x := by
  cases h with
  | here h | through h => exact ⟨_, h, _, rfl⟩

/-- What is known where nodes are rendered: names are hidden on the way to the nodes. -/
structure Reached (env : Environment) (H : List Text) (ns : List Node) : Prop where
  named : ∀ n ∈ ns, n.IsNamed
  leads : env.EntersAndroid ns → ∀ x ∈ H, ∀ v, env.get? x = some v → env.EntersAndroid v.nodes

theorem Reached.tail (h : env.Reached H (n :: ns)) : env.Reached H ns where
  named := (List.forall_mem_cons.1 h.named).2
  leads enters := h.leads enters.of_tail

theorem Reached.value {b : Bool} {v : Pattern} (h : env.Reached H (.variable x b :: ns))
    (hv : env.get? x = some v) (wf : v.WellFormed) : env.Reached (x :: H) v.nodes where
  named := wf.named
  leads enters := by
    refine List.forall_mem_cons.2 ⟨fun w hw => ?_, h.leads (.through List.mem_cons_self hv enters)⟩
    obtain rfl := Option.some.inj (hv.symm.trans hw)
    exact enters

/-- The text of a bound variable is generated by what the variable is bound to. -/
theorem Generates.value {b : Bool} {v : Pattern} (h : env.Generates r W (.variable x b) t)
    (hx : x ≠ androidLocale) (hv : env.get? x = some v) : env.GeneratesAll r W v.nodes t := by
  have value : env.Resolves x (some v.nodes) := by
    have bound : env.Resolves x ((env.get? x).map (·.nodes)) := .binding hx
    rwa [hv] at bound
  obtain ⟨rfl, ⟨free, -⟩ | ⟨ns, bound, h⟩⟩ := (generates_variable rfl).1 h
  · cases free.unique value
  · cases bound.unique value
    exact h

/-- The text of the variable `androidLocale` is the qualifier of the locale, if there is one. -/
theorem Generates.code {b : Bool} {code : Text} (h : env.Generates r W (.android b) t)
    (hc : env.HasCode code) : t = code := by
  obtain ⟨rfl, ⟨free, -⟩ | ⟨ns, bound, h⟩⟩ := (generates_variable rfl).1 h
  · cases free.unique (.code hc)
  · cases bound.unique (.code hc)
    generalize r androidLocale = t at h ⊢
    cases h with
    | cons first last =>
      cases last
      rw [List.append_nil]
      exact generates_literal.1 first

/-- The first nodes generate the start of what all of them generate. -/
theorem GeneratesAll.take (h : env.GeneratesAll r W ns t) (k : Nat) :
    ∃ a, a <+: t ∧ env.GeneratesAll r W (ns.take k) a := by
  induction ns generalizing k t with
  | nil => exact ⟨t, List.prefix_rfl, by rwa [List.take_nil]⟩
  | cons n ns ih =>
    cases k with
    | zero => exact ⟨[], List.nil_prefix, .nil⟩
    | succ k =>
      cases h with
      | @cons _ _ a b ha hb =>
        obtain ⟨c, hc, generated⟩ := ih hb k
        exact ⟨a ++ c, (List.prefix_append_right_inj a).2 hc, .cons ha generated⟩

section
variable (wf : env.WellFormed) (unbound : ∀ id, env.get? (starName id) = none)
include wf unbound

/-- A node generates texts that start with what it is rendered to, if what is bound does. -/
theorem starts_of_generates (inner : ∀ {H ns t u}, env.GeneratesAll r W ns t → env.Reached H ns →
      renderNodes d .halt (env.without H) ns = some u → u.Starts t)
    (h : env.Generates r W n t) (hn : env.Reached H (n :: ns))
    (hu : renderNode (renderNodes d) .halt (env.without H) n = some u) : u.Starts t := by
  cases n with
  | literal text =>
    obtain rfl : Rendered.written text = u := Option.some.inj hu
    rw [generates_literal.1 h]
    exact Rendered.starts_written text
  | star id | starstar id ending =>
    rw [renderNode, lookup_without_eq_none.2 (.inr (unbound id))] at hu
    obtain rfl := Option.some.inj hu
    exact Rendered.starts_unresolved ..
  | «variable» x b =>
    rw [renderNode] at hu
    cases hl : (env.without H).lookup x with
    | none =>
      rw [hl] at hu
      obtain rfl := Option.some.inj hu
      exact Rendered.starts_unresolved ..
    | some v =>
      rw [hl] at hu
      have hv := (lookup_without.1 hl).2
      have named : x ≠ androidLocale := (List.forall_mem_cons.1 hn.named).1
      exact inner (h.value named hv) (hn.value hv (wf x v hv)) hu
  | android b =>
    obtain ⟨answer, hq, hu⟩ := Option.bind_eq_some_iff.1 hu
    cases answer with
    | none =>
      obtain rfl := Option.some.inj hu
      exact Rendered.starts_unresolved ..
    | some code =>
      obtain rfl := Option.some.inj hu
      have leads := hn.leads (.here List.mem_cons_self)
      obtain rfl := h.code ((qualifier?_eq_some_iff hq leads).1 rfl)
      exact Rendered.starts_written t

/-- What nodes generate starts with what they are rendered to. -/
theorem starts_of_generatesAll (h : env.GeneratesAll r W ns t) (hn : env.Reached H ns)
    (hu : renderNodes d .halt (env.without H) ns = some u) : u.Starts t := by
  induction d generalizing H ns t u with
  | zero => cases hu
  | succ d ih =>
    induction ns generalizing t u with
    | nil =>
      cases h
      obtain rfl := Option.some.inj hu
      exact Rendered.starts_written []
    | cons n ns ihn =>
      cases h with
      | @cons _ _ a b ha hb =>
        rw [renderNodes_cons] at hu
        obtain ⟨first, hf, hu⟩ := Option.bind_eq_some_iff.1 hu
        have start := starts_of_generates wf unbound ih ha hn hf
        split at hu
        · rename_i missing
          obtain rfl := Option.some.inj hu
          refine ⟨start.1.trans (List.prefix_append a b), fun complete => ?_⟩
          rw [complete] at missing
          cases missing
        · rename_i complete
          obtain ⟨later, hl, rfl⟩ := Option.map_eq_some_iff.1 hu
          rw [start.2 (Option.not_isSome_iff_eq_none.1 complete)]
          exact (ihn hb hn.tail hl).prepend a

end

end Environment

namespace Pattern
variable {p : Pattern} {env : Environment}

theorem renderNode_of_isWildcard {inner : Renderer} {s : Scope} {n : Node}
    (unbound : ∀ id, s.lookup (starName id) = none) (hn : n.isWildcard = true) :
    (renderNode inner .halt s n).map Rendered.text = some [] := by
  cases n with
  | star id | starstar id ending =>
    rw [renderNode, unbound id]
    rfl
  | literal | «variable» | android => cases hn

/-- The stem starts with the same text as the pattern: a wildcard has no value that could be written. -/
theorem take_one_stem {s : Scope} (h : p.Formed) (unbound : ∀ id, s.lookup (starName id) = none) :
    (renderNodes s.depth .halt s (p.stem.nodes.take 1)).map Rendered.text =
      (renderNodes s.depth .halt s (p.nodes.take 1)).map Rendered.text := by
  obtain ⟨d, hd⟩ : ∃ d, s.depth = d + 1 := ⟨s.depth - 1, by have := s.visible_lt_depth; omega⟩
  show (renderNodes _ _ _ ((p.nodes.take p.stemLength).take 1)).map _ = _
  rw [List.take_take, hd]
  cases hk : p.stemLength with
  | succ k => rw [Nat.min_eq_left (Nat.le_add_left 1 k)]
  | zero =>
    rw [h.stemLength_eq] at hk
    cases hn : p.nodes with
    | nil => rfl
    | cons n ns =>
      have wild : n.isWildcard = true := by
        rw [hn, List.findIdx_cons] at hk
        cases hw : n.isWildcard with
        | true => rfl
        | false => simp [hw] at hk
      have first : (renderNode (renderNodes d) .halt s n).map Rendered.text = some [] :=
        renderNode_of_isWildcard unbound wild
      obtain ⟨u, hu, empty⟩ := Option.map_eq_some_iff.1 first
      show some [] = (renderNodes (d + 1) .halt s [n]).map Rendered.text
      rw [renderNodes_cons, hu, Option.bind_some]
      split
      · rw [Option.map_some, empty]
      · simp [renderNodes, renderAll, Rendered.written, Rendered.prepend, empty]

/-- The root is in front of the stem if it is in front of the pattern. -/
theorem rootText_stem {s : Scope} (h : p.Formed) (unbound : ∀ id, s.lookup (starName id) = none) :
    p.stem.rootText s = p.rootText s := by
  have first := take_one_stem h unbound
  unfold rootText
  have root : p.stem.root = p.root := rfl
  rw [root]
  cases p.root with
  | none => rfl
  | some root =>
    have decide := congrArg (Option.map fun t : Text => if t.head? = some '/' then [] else root) first
    rw [Option.map_map, Option.map_map] at decide
    exact decide

end Pattern

namespace Matcher
variable {m : Matcher} {path : Text}

/-- Every path that matches starts with the static stem, which can always be rendered, provided that
wildcards are not bound and what the locale stands for does not lead to its own qualifier. -/
theorem staticStem_of_isMatch (hp : m.pattern.Formed) (he : ∀ x v, m.env.get? x = some v → v.Formed)
    (unbound : ∀ id, m.env.get? (starName id) = none)
    (codes : ∀ x v, x = localeName ∨ x = androidLocale → m.env.get? x = some v →
      ¬m.env.EntersAndroid v.nodes)
    (h : m.isMatch path = .ok true) :
    (m.pattern.stem.render .halt (.of m.env)).isSome ∧ m.staticStem <+: path := by
  have wfe : m.env.WellFormed := fun x v hv => (he x v hv).wellFormed
  have grounded : (Scope.of m.env).Grounded := by
    refine ⟨fun id v hv => ?_, fun v hv n hn => ?_⟩
    · rcases hv with hv | hv
      · exact absurd hv (by simp [Scope.of, unbound id])
      · cases hv
    · rcases hv with hv | hv
      · cases n with
        | android b => exact absurd (.here hn) (codes _ v (.inl rfl) hv)
        | _ => simp [Node.rank]
      · cases hv
  have rendered : (m.pattern.stem.render .halt (.of m.env)).isSome :=
    m.pattern.stem.render_isSome grounded
  refine ⟨rendered, ?_⟩
  obtain ⟨ps, hu, reads⟩ := isMatch_iff_reads h
  obtain ⟨root, r, body, hr, rfl, hb⟩ := (reads_iff_generates hp.wellFormed wfe hu).1 (reads.1 rfl)
  obtain ⟨start, hs, generated⟩ := hb.take m.pattern.stemLength
  -- rendering the stem writes the same root, and then what `start` starts with
  have lookup : ∀ id, (Scope.of m.env).lookup (starName id) = none := fun id =>
    Environment.lookup_without_eq_none.2 (.inr (unbound id))
  have hroot := (Pattern.rootText_stem hp lookup).trans hr
  have reached : m.env.Reached [] m.pattern.stem.nodes :=
    ⟨fun n hn => hp.wellFormed.named n (List.mem_of_mem_take hn),
      fun _ _ hx => absurd hx List.not_mem_nil⟩
  obtain ⟨written, hw⟩ := Option.isSome_iff_exists.1 rendered
  have staticStem : m.staticStem = written.text := by
    rw [staticStem, hw]
    rfl
  obtain ⟨root', u, hr', hu, rfl⟩ := Pattern.render_eq_some.1 hw
  obtain rfl := Option.some.inj (hroot.symm.trans hr')
  rw [staticStem]
  have start := Environment.starts_of_generatesAll wfe unbound generated reached hu
  exact (List.prefix_append_right_inj root).2 (start.1.trans hs)

/-- A matcher with a root, the qualifier of a locale, and a value that stops short at a variable. -/
def anchored : Matcher :=
  ((Matcher.of (.parse "{android_locale}/{a}/*".toList)).withEnv
    [("a".toList, .parse "x{b}*".toList), (localeName, .parse "de-AT".toList)]).withRoot [] "/r".toList

theorem anchored_get? (x : Text) : anchored.env.get? x =
    if x = localeName then some (.parse "de-AT".toList)
    else if x = ['a'] then some (.parse "x{b}*".toList) else none := by
  simp only [anchored, Matcher.withRoot, Matcher.withEnv, Matcher.of, NameMap.insertMany,
    List.foldl_cons, List.foldl_nil, NameMap.get?_insert, NameMap.get?_empty]
  rfl

theorem anchored_staticStem : anchored.isMatch "/r/de-rAT/xyz/f".toList = .ok true ∧
    anchored.staticStem = "/r/de-rAT/x".toList ∧
    anchored.staticStem <+: "/r/de-rAT/xyz/f".toList := by
  have pattern : anchored.pattern.Formed := (Pattern.Formed.parse _).withRoot _
  have formed : ∀ x v, anchored.env.get? x = some v → v.Formed := by
    refine NameMap.forall_insertMany (fun x v hv => ?_) ?_
    · cases hv
    · exact List.forall_mem_cons.2 ⟨.parse _, List.forall_mem_singleton.2 (.parse _)⟩
  have unbound : ∀ id, anchored.env.get? (starName id) = none := by
    intro id
    have locale : starName id ≠ localeName := fun h => absurd (List.cons.inj h).1 (by decide)
    have other : starName id ≠ ['a'] := fun h => absurd (List.cons.inj h).1 (by decide)
    rw [anchored_get?, if_neg locale, if_neg other]
  have codes : ∀ x v, x = localeName ∨ x = androidLocale → anchored.env.get? x = some v →
      ¬anchored.env.EntersAndroid v.nodes := by
    rintro x v (rfl | rfl) hv enters
    · obtain rfl : Pattern.parse "de-AT".toList = v := Option.some.inj hv
      have literal : ∀ n ∈ (Pattern.parse "de-AT".toList).nodes, n.variableName = none := by
        decide +kernel
      obtain ⟨n, hn, x, hx⟩ := enters.exists_variable
      cases (literal n hn).symm.trans hx
    · cases hv
  have matched : anchored.isMatch "/r/de-rAT/xyz/f".toList = .ok true := by decide +kernel
  have stem := staticStem_of_isMatch pattern formed unbound codes matched
  exact ⟨matched, by decide +kernel, stem.2⟩

end Matcher

end LocalePaths
