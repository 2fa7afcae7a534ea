import LocalePaths.Proofs.Matcher.Joined
import LocalePaths.Proofs.Matcher.Monotone
import LocalePaths.Proofs.Piece.Depth
import LocalePaths.Proofs.Piece.Flat

/-!
# Names that matter

Bindings of names that are not consulted on the way through a pattern have no effect: matchers with the same
pattern answer everything alike if their environments bind alike what is consulted
(`Matcher.answersAs_of_same`). Both then do the same at every depth, and neither the depth to which an
expansion is bounded (`Scope.renderNodes_depth_congr`) nor that of the pieces
(`Piece.ofNodes_congr_depth`) is a restriction, however many other names an environment binds.
-/

namespace LocalePaths

namespace Environment.AgreesOn
variable {env env' : Environment} {S : Node → Prop} {H o : List Text} {n : Node} {ns : List Node} {d : Nat}
  {mode : Mode}

/-- Within the depths of both environments nodes are rendered the same. -/
theorem renderNodes_depth_eq (h : env.AgreesOn env' S) (hns : ∀ n ∈ ns, S n) :
    renderNodes (Scope.of env').depth mode (env'.without H) ns =
      renderNodes (Scope.of env).depth mode (env.without H) ns := by
  have same : ∀ d, renderNodes d mode (env'.without H) ns = renderNodes d mode (env.without H) ns :=
    fun _ => h.renderNodes_eq hns
  exact Scope.renderNodes_depth_congr same

theorem ofNodes_eq (h : env.AgreesOn env' S) (hns : ∀ n ∈ ns, S n) :
    Piece.ofNodes d (env'.without H) o ns = Piece.ofNodes d (env.without H) o ns := by
  induction d generalizing H o ns with
  | zero => rfl
  | succ d ih =>
    refine Piece.ofNodesWith_congr fun o n hn => ?_
    have hn := hns n hn
    cases n with
    | literal | star | starstar => rfl
    | «variable» x repeated =>
      have hx := Node.variable_mem_consulted (n := .variable x repeated) rfl
      rw [Piece.ofNode, Piece.ofNode, h.lookup_eq hn hx]
      cases hv : (env.without H).lookup x with
      | none => rfl
      | some v =>
        have body : ∀ o, Piece.ofNodes d ((env'.without H).hide x) o v.nodes =
            Piece.ofNodes d ((env.without H).hide x) o v.nodes := fun o =>
          ih (H := x :: H) (h.mem_of_lookup hn hx hv)
        simp only [body]
    | android repeated =>
      have code : qualifier? (renderNodes (env'.without H).depth) (env'.without H) =
          qualifier? (renderNodes (env.without H).depth) (env.without H) :=
        h.qualifier?_eq hn rfl fun mode H ns hns => h.renderNodes_depth_eq hns
      rw [Piece.ofNode, Piece.ofNode, code]

/-- The nodes become the same pieces in both environments, each with its own depth. -/
theorem ofNodes_depth_eq (h : env.AgreesOn env' S) (hns : ∀ n ∈ ns, S n) :
    Piece.ofNodes (Scope.of env').depth (.of env') o ns = Piece.ofNodes (Scope.of env).depth (.of env) o ns := by
  have deep : ∀ env : Environment, (Scope.of env).visible.length < (Scope.of env).depth := fun env => by
    have := (Scope.of env).visible_lt_depth
    omega
  have common := h.ofNodes_eq (d := max (Scope.of env').depth (Scope.of env).depth) (H := []) (o := o) hns
  have left := (deep env').trans_le (Nat.le_max_left _ (Scope.of env).depth)
  have right := (deep env).trans_le (Nat.le_max_right (Scope.of env').depth _)
  rw [Piece.ofNodes_congr_depth (deep env') left, Piece.ofNodes_congr_depth (deep env) right]
  exact common

end Environment.AgreesOn

/-! ### Patterns and matchers -/

namespace Pattern
variable {p : Pattern} {s s' : Scope} {mode : Mode}

section
variable (same : ∀ d mode ns, (∀ n ∈ ns, n ∈ p.nodes) → renderNodes d mode s ns = renderNodes d mode s' ns)
include same

theorem rootText_congr : p.rootText s = p.rootText s' := by
  unfold rootText
  rw [Scope.renderNodes_depth_congr fun d => same d .halt (p.nodes.take 1) fun n => List.mem_of_mem_take]

theorem render_congr : p.render mode s = p.render mode s' := by
  unfold render
  rw [rootText_congr same, Scope.renderNodes_depth_congr fun d => same d mode p.nodes fun _ => id]

end

end Pattern

namespace Environment
variable {env env' values : Environment} {S : Node → Prop}

/-- The environment on top of other values. -/
def onTopOf (env values : Environment) : Environment := values.merge env

/-- The environments agree as well on top of values that are texts. -/
theorem AgreesOn.onTopOf (h : env.AgreesOn env' S) (texts : values.IsFlat) :
    (env.onTopOf values).AgreesOn (env'.onTopOf values) fun n => S n ∨ ∃ t, n = .literal t := by
  refine ⟨fun n x v hn hx hv m hm => ?_, fun n x hn hx => ?_⟩
  · rcases hn with hn | ⟨t, rfl⟩
    · rw [Environment.onTopOf, NameMap.get?_merge, Option.or_eq_some_iff] at hv
      rcases hv with hv | ⟨-, hv⟩
      · exact .inl (h.closed n x v hn hx hv m hm)
      · obtain ⟨t, ht⟩ := texts x v hv
        rw [ht] at hm
        exact .inr ⟨t, List.mem_singleton.1 hm⟩
    · cases hx
  · rcases hn with hn | ⟨t, rfl⟩
    · rw [Environment.onTopOf, Environment.onTopOf, NameMap.get?_merge, NameMap.get?_merge, h.same n x hn hx]
    · cases hx

end Environment

namespace Matcher
variable {m m' : Matcher} {mode : Mode}

theorem lookup_scopeFor_eq_onTopOf (m : Matcher) (b : Bindings) :
    (m.scopeFor b).lookup = ((m.env.onTopOf b.toEnvironment).without []).lookup := by
  funext x
  rw [lookup_scopeFor]
  show _ = ((m.env.onTopOf b.toEnvironment).get? x).or none
  rw [Environment.onTopOf, NameMap.get?_merge, Option.or_none, Bindings.toEnvironment, NameMap.get?_map]

section
variable (pattern : m.pattern = m'.pattern)
  (same : ∀ n x, m.Reaches n → x ∈ n.consulted → m'.env.get? x = m.env.get? x)
include same

theorem renderNodes_of_eq (d : Nat) (mode : Mode) (ns : List Node) (hns : ∀ n ∈ ns, n ∈ m.pattern.nodes) :
    renderNodes d mode (.of m.env) ns = renderNodes d mode (.of m'.env) ns :=
  ((Environment.agreesOn_reaches same).renderNodes_eq (H := []) fun n hn => .here (hns n hn)).symm

theorem renderNodes_scopeFor_eq (b : Bindings) (d : Nat) (mode : Mode) (ns : List Node)
    (hns : ∀ n ∈ ns, n ∈ m.pattern.nodes) :
    renderNodes d mode (m.scopeFor b) ns = renderNodes d mode (m'.scopeFor b) ns := by
  have agrees := (Environment.agreesOn_reaches same).onTopOf b.isFlat_toEnvironment
  rw [Scope.renderNodes_congr (m.lookup_scopeFor_eq_onTopOf b),
    Scope.renderNodes_congr (m'.lookup_scopeFor_eq_onTopOf b)]
  exact (agrees.renderNodes_eq fun n hn => .inl (.here (hns n hn))).symm

include pattern

theorem pieces?_eq_of_same : m.pieces? = m'.pieces? := by
  have root : m.pattern.rootText (.of m.env) = m.pattern.rootText (.of m'.env) :=
    Pattern.rootText_congr (renderNodes_of_eq same)
  have nodes := (Environment.agreesOn_reaches same).ofNodes_depth_eq (o := []) fun n => .here
  show (m.pattern.rootText _).bind _ = (m'.pattern.rootText _).bind _
  rw [← pattern, root, nodes]

/-- Bindings that are not consulted have no effect on any answer. They have none on what comes to an end
either: the pieces and all renderings are the same before it is asked whether there are any. -/
theorem answersAs_of_same : m.AnswersAs m' ∧ m.pieces? = m'.pieces? ∧
    (∀ b, m.pattern.render .halt (m.scopeFor b) = m'.pattern.render .halt (m'.scopeFor b)) ∧
    m.pattern.render .template (.of m.env) = m'.pattern.render .template (.of m'.env) ∧
    m.pattern.stem.render .halt (.of m.env) = m'.pattern.stem.render .halt (.of m'.env) := by
  have pieces := pieces?_eq_of_same pattern same
  have usable : m.usablePieces = m'.usablePieces := by
    unfold usablePieces
    rw [pieces, pattern]
  have expanded : ∀ b, m.pattern.render .halt (m.scopeFor b) = m'.pattern.render .halt (m'.scopeFor b) := by
    intro b
    rw [← pattern]
    exact Pattern.render_congr (renderNodes_scopeFor_eq same b)
  have template : m.pattern.render .template (.of m.env) = m'.pattern.render .template (.of m'.env) := by
    rw [← pattern]
    exact Pattern.render_congr (renderNodes_of_eq same)
  have stem : m.pattern.stem.render .halt (.of m.env) = m'.pattern.stem.render .halt (.of m'.env) := by
    rw [← pattern]
    exact Pattern.render_congr fun d mode ns hns =>
      renderNodes_of_eq same d mode ns fun n hn => List.mem_of_mem_take (hns n hn)
  refine ⟨⟨?_, fun path => ?_, fun path => ?_, fun b => ?_, fun b => ?_, ?_, ?_⟩,
    pieces, expanded, template, stem⟩
  · rw [regexSource, regexSource, pieces]
  · rw [captures, captures, usable]
  · rw [isMatch, isMatch, usable]
  · rw [expand, expand, expanded]
  · rw [expandBestEffort, expandBestEffort, expanded]
  · rw [Matcher.template, Matcher.template, template]
  · rw [staticStem, staticStem, stem]

end

def resource : Matcher := (of (.parse "{base}/values-{android_locale}/*".toList)).withEnv
  [("base".toList, .parse "res/{kind}".toList), (localeName, .parse "de-AT".toList)]

/-- The resource with two more bindings, one of which leads back to itself. -/
def laden : Matcher := resource.withEnv
  [("title".toList, .parse "{title}/**".toList), ("section".toList, .parse "{base}".toList)]

theorem laden_answersAs : resource.pattern = laden.pattern ∧ resource.env ≠ laden.env ∧
    resource.AnswersAs laden ∧ laden.expandBestEffort .empty = "res/".toList := by
  have bound : ∀ n ∈ resource.allNodes, ∀ x ∈ n.consulted,
      laden.env.get? x = resource.env.get? x := by
    decide +kernel
  have pattern : resource.pattern = laden.pattern := rfl
  obtain ⟨answers, -⟩ := answersAs_of_same pattern fun n x hn hx => bound n hn.mem_allNodes x hx
  refine ⟨rfl, by decide +kernel, answers, ?_⟩
  rw [← answers.expandBestEffort]
  decide +kernel

end Matcher

end LocalePaths
