import LocalePaths.Pattern.Render
import Mathlib.Data.Nat.Find

/-!
# What rendering writes

A larger depth changes nothing in what is rendered (`renderNodes_mono`), and what is written in full
is described node by node (`Scope.Writes`, `writes_cons`). The rest is about the qualifier that the
variable `android_locale` stands for (`Environment.HasCode`): hiding the names through which the
variable is reached does not change it (`qualifier?_eq_some_iff`), because the first complete writing
of the locale never comes back to the variable (`Writes.not_entersAndroid`).
-/

namespace LocalePaths

namespace Rendered
variable {r : Rendered} {t : Text}

@[simp] theorem complete?_written (t : Text) : (written t).complete? = some t := rfl

theorem complete?_eq_some : r.complete? = some t ↔ r = written t := by
  obtain ⟨u, m⟩ := r
  cases m <;> simp [complete?, written]

end Rendered

/-! ### Depth -/

def Renderer.Extends (f g : Renderer) : Prop :=
  ∀ mode s ns r, f mode s ns = some r → g mode s ns = some r

/-- A node of the scope leads to what the name is bound to, which is rendered in the scope `s'`. -/
inductive Scope.Enters (s : Scope) (mode : Mode) :
    (mode' : Mode) → (s' : Scope) → (name : Text) → Pattern → Prop
  | wildcard {id : Nat} {v : Pattern} : s.lookup (starName id) = some v →
    Enters s mode mode s (starName id) v
  | variable {name : Text} {v : Pattern} : s.lookup name = some v → Enters s mode mode (s.hide name) name v
  | qualifier {name : Text} {v : Pattern} : s.lookup name = some v →
    Enters s mode .halt (s.hide androidLocale) name v

section Extends
variable {f g : Renderer} {s : Scope} {mode : Mode}
  (h : ∀ mode' s' name v r, s.Enters mode mode' s' name v →
    f mode' s' v.nodes = some r → g mode' s' v.nodes = some r)
include h

theorem renderBinding_extends {name : Text} {o : Option Text}
    (hf : renderBinding f s name = some o) : renderBinding g s name = some o := by
  unfold renderBinding at hf ⊢
  cases hl : s.lookup name with
  | none => rwa [hl] at hf
  | some v =>
    simp only [hl, Option.map_eq_some_iff] at hf ⊢
    obtain ⟨r, hr, rfl⟩ := hf
    exact ⟨r, h _ _ _ _ _ (.qualifier hl) hr, rfl⟩

theorem qualifier?_extends {o : Option Text} (hf : qualifier? f s = some o) :
    qualifier? g s = some o := by
  unfold qualifier? at hf ⊢
  cases hl : renderBinding f s localeName with
  | none => simp [hl] at hf
  | some tag =>
    rw [hl] at hf
    rw [renderBinding_extends h hl]
    cases tag with
    | some tag => exact hf
    | none => exact renderBinding_extends h hf

theorem renderNode_extends {n : Node} {r : Rendered}
    (hf : renderNode f mode s n = some r) : renderNode g mode s n = some r := by
  cases n with
  | literal => exact hf
  | star id | starstar id =>
    simp only [renderNode] at hf ⊢
    cases hl : s.lookup (starName id) with
    | none => rwa [hl] at hf
    | some v =>
      rw [hl] at hf
      exact h _ _ _ _ _ (.wildcard hl) hf
  | «variable» name =>
    simp only [renderNode] at hf ⊢
    cases hl : s.lookup name with
    | none => rwa [hl] at hf
    | some v =>
      rw [hl] at hf
      exact h _ _ _ _ _ (.variable hl) hf
  | android =>
    simp only [renderNode] at hf ⊢
    cases hq : qualifier? f s with
    | none => simp [hq] at hf
    | some o =>
      rw [hq] at hf
      rw [qualifier?_extends h hq]
      exact hf

/-- What is rendered depends only on what is entered. -/
theorem renderAll_extends : ∀ {ns : List Node} {r : Rendered},
    renderAll (renderNode f mode s) ns = some r → renderAll (renderNode g mode s) ns = some r
  | [], _, hf => hf
  | n :: ns, r, hf => by
    unfold renderAll at hf ⊢
    cases hn : renderNode f mode s n with
    | none => simp [hn] at hf
    | some first =>
      rw [hn] at hf
      rw [renderNode_extends h hn]
      simp only [Option.bind_eq_bind, Option.bind_some] at hf ⊢
      split at hf
      · rename_i hm
        rwa [if_pos hm]
      · rename_i hm
        rw [if_neg hm]
        cases hns : renderAll (renderNode f mode s) ns with
        | none => simp [hns] at hf
        | some later =>
          rw [hns] at hf
          rwa [renderAll_extends hns]

end Extends

theorem renderNodes_succ (d : Nat) : (renderNodes d).Extends (renderNodes (d + 1)) := by
  induction d with
  | zero => nofun
  | succ d ih => exact fun mode s ns r h => renderAll_extends (fun _ _ _ _ r _ => ih _ _ _ r) h

theorem renderNodes_mono {d e : Nat} (h : d ≤ e) : (renderNodes d).Extends (renderNodes e) := by
  induction h with
  | refl => exact fun _ _ _ _ h => h
  | step _ ih => exact fun mode s ns r h => renderNodes_succ _ _ _ _ _ (ih _ _ _ _ h)

theorem renderNodes_cons (d : Nat) (mode : Mode) (s : Scope) (n : Node) (ns : List Node) :
    renderNodes (d + 1) mode s (n :: ns) =
      (renderNode (renderNodes d) mode s n).bind fun first =>
        if first.missing.isSome then some first
        else (renderNodes (d + 1) mode s ns).map (Rendered.prepend first.text) := by
  simp only [renderNodes, renderAll, Option.map_eq_bind]
  rfl

theorem Pattern.render_eq_some {p : Pattern} {mode : Mode} {s : Scope} {u : Rendered} :
    p.render mode s = some u ↔ ∃ root body, p.rootText s = some root ∧
      renderNodes s.depth mode s p.nodes = some body ∧ u = body.prepend root := by
  simp only [render, Option.bind_eq_bind, Option.bind_eq_some_iff, Option.pure_def, Option.some.injEq,
    eq_comm (b := u)]
  exact ⟨fun ⟨root, hr, body, hb, e⟩ => ⟨root, body, hr, hb, e⟩,
    fun ⟨root, body, hr, hb, e⟩ => ⟨root, hr, body, hb, e⟩⟩

/-! ### Complete writing -/

namespace Scope
variable {s s' : Scope} {d e : Nat} {n : Node} {ns : List Node} {name t u : Text}

/-- All of the nodes have values, nested no deeper than `d`, and are written as `t`. -/
def Writes (s : Scope) (d : Nat) (ns : List Node) (t : Text) : Prop :=
  renderNodes d .halt s ns = some (.written t)

/-- What the name is bound to is written as `t`, out of reach of the variable `androidLocale`. -/
def WritesBinding (s : Scope) (d : Nat) (name t : Text) : Prop :=
  ∃ v, s.lookup name = some v ∧ (s.hide androidLocale).Writes d v.nodes t

/-- The node has a value and is written as `t`. -/
def WritesNode (s : Scope) (d : Nat) : Node → Text → Prop
  | .literal text, t => t = text
  | .star id, t | .starstar id _, t =>
    ∃ v, s.lookup (starName id) = some v ∧ s.Writes d v.nodes t
  | .variable name _, t => ∃ v, s.lookup name = some v ∧ (s.hide name).Writes d v.nodes t
  | .android _, t =>
    (∃ tag, s.WritesBinding d localeName tag ∧ t = Qualifier.ofTag tag) ∨
      renderBinding (renderNodes d) s localeName = some none ∧ s.WritesBinding d androidLocale t

theorem Writes.mono (h : s.Writes d ns t) (le : d ≤ e) : s.Writes e ns t :=
  renderNodes_mono le _ _ _ _ h

theorem Writes.unique (h : s.Writes d ns t) (h' : s.Writes e ns u) : t = u := by
  have ht := h.mono (Nat.le_max_left d e)
  have hu := h'.mono (Nat.le_max_right d e)
  unfold Writes at ht hu
  rw [ht] at hu
  exact congrArg Rendered.text (Option.some.inj hu)

theorem renderBinding_eq_some_some :
    renderBinding (renderNodes d) s name = some (some t) ↔ s.WritesBinding d name t := by
  unfold renderBinding WritesBinding Writes
  cases s.lookup name with
  | none => simp
  | some v => simp [Option.map_eq_some_iff, Rendered.complete?_eq_some]

theorem qualifier?_eq_some_some : qualifier? (renderNodes d) s = some (some t) ↔
    s.WritesNode d (.android true) t := by
  unfold qualifier? WritesNode
  simp only [← renderBinding_eq_some_some]
  cases renderBinding (renderNodes d) s localeName with
  | none => simp
  | some tag => cases tag <;> simp [eq_comm]

theorem renderNode_eq_written : renderNode (renderNodes d) .halt s n = some (.written t) ↔
    s.WritesNode d n t := by
  cases n with
  | literal text => simp [renderNode, WritesNode, Rendered.written, eq_comm]
  | star id | starstar id =>
    simp only [renderNode, WritesNode, Writes]
    cases s.lookup (starName id) <;> simp [Rendered.unresolved, Rendered.written]
  | «variable» name =>
    simp only [renderNode, WritesNode, Writes]
    cases s.lookup name <;> simp [Rendered.unresolved, Rendered.written]
  | android =>
    have h := qualifier?_eq_some_some (s := s) (d := d) (t := t)
    simp only [WritesNode] at h ⊢
    rw [← h, renderNode]
    cases qualifier? (renderNodes d) s with
    | none => simp
    | some o => cases o <;> simp [Rendered.unresolved, Rendered.written]

theorem not_writes_zero : ¬s.Writes 0 ns t := nofun

@[simp] theorem writes_nil : s.Writes (d + 1) [] t ↔ t = [] := by
  simp [Writes, renderNodes, renderAll, Rendered.written, eq_comm]

theorem writes_cons : s.Writes (d + 1) (n :: ns) t ↔
    ∃ a b, s.WritesNode d n a ∧ s.Writes (d + 1) ns b ∧ t = a ++ b := by
  simp only [← renderNode_eq_written, Writes]
  rw [renderNodes_cons]
  generalize renderNodes (d + 1) .halt s ns = later
  cases renderNode (renderNodes d) .halt s n with
  | none => simp
  | some first =>
    obtain ⟨a, missing⟩ := first
    rcases missing with _ | name
    · rcases later with _ | ⟨b, missing⟩
      · simp
      · constructor
        · intro h
          cases h
          exact ⟨a, b, rfl, rfl, rfl⟩
        · rintro ⟨_, _, ha, hb, rfl⟩
          cases ha
          cases hb
          rfl
    · simp [Rendered.written]

theorem Writes.imp (one : ∀ n ∈ ns, ∀ a, s.WritesNode d n a → s'.WritesNode e n a)
    (h : s.Writes (d + 1) ns t) : s'.Writes (e + 1) ns t := by
  induction ns generalizing t with
  | nil => exact writes_nil.2 (writes_nil.1 h)
  | cons n ns ih =>
    obtain ⟨a, b, ha, hb, rfl⟩ := writes_cons.1 h
    have one := List.forall_mem_cons.1 one
    exact writes_cons.2 ⟨a, b, one.1 a ha, ih one.2 hb, rfl⟩

theorem writes_flatMap {f : Node → Text} (h : ∀ n ∈ ns, s.WritesNode d n (f n)) :
    s.Writes (d + 1) ns (ns.flatMap f) := by
  induction ns with
  | nil => exact writes_nil.2 rfl
  | cons n ns ih =>
    have h := List.forall_mem_cons.1 h
    exact writes_cons.2 ⟨f n, _, h.1, ih h.2, List.flatMap_cons⟩

theorem Writes.of_mem (h : s.Writes (d + 1) ns t) (hn : n ∈ ns) : ∃ a, s.WritesNode d n a := by
  induction ns generalizing t with
  | nil => cases hn
  | cons m ns ih =>
    obtain ⟨a, b, ha, hb, rfl⟩ := writes_cons.1 h
    rcases List.mem_cons.1 hn with rfl | hn
    · exact ⟨a, ha⟩
    · exact ih hb hn

end Scope

/-! ### The qualifier of the locale -/

namespace Environment
variable {env : Environment} {H H' : List Text} {d e : Nat} {x t u : Text} {ns : List Node}

def without (env : Environment) (hidden : List Text) : Scope := ⟨env, .empty, hidden⟩

theorem lookup_without {v : Pattern} :
    (env.without H).lookup x = some v ↔ x ∉ H ∧ env.get? x = some v := by
  simp [without, Scope.lookup]

theorem lookup_without_eq_none : (env.without H).lookup x = none ↔ x ∈ H ∨ env.get? x = none := by
  simp [without, Scope.lookup]
  grind

/-- The name is bound, and all of what it is bound to has values that nest no deeper than `d` and is
written as `t`. -/
def ExpandsWithin (env : Environment) (d : Nat) (x t : Text) : Prop :=
  (env.without []).WritesBinding d x t

def Expands (env : Environment) (x t : Text) : Prop := ∃ d, env.ExpandsWithin d x t

/-- The qualifier of the locale, if all of the locale has values; else the direct binding. -/
def HasCode (env : Environment) (code : Text) : Prop :=
  (∃ tag, env.Expands localeName tag ∧ code = Qualifier.ofTag tag) ∨
    (∀ tag, ¬env.Expands localeName tag) ∧ env.Expands androidLocale code

theorem Expands.unique (h : env.Expands x t) (h' : env.Expands x u) : t = u := by
  obtain ⟨d, v, hv, hw⟩ := h
  obtain ⟨e, v', hv', hw'⟩ := h'
  obtain rfl : v = v' := Option.some.inj (hv.symm.trans hv')
  exact hw.unique hw'

theorem HasCode.unique (h : env.HasCode t) (h' : env.HasCode u) : t = u := by
  rcases h with ⟨tag, h, rfl⟩ | ⟨no, h⟩ <;> rcases h' with ⟨tag', h', rfl⟩ | ⟨no', h'⟩
  · rw [h.unique h']
  · exact absurd h (no' tag)
  · exact absurd h' (no tag')
  · exact h.unique h'

/-- The nodes lead to the variable `androidLocale`, directly or through bindings. -/
inductive EntersAndroid (env : Environment) : List Node → Prop
  | here {ns : List Node} {repeated : Bool} : .android repeated ∈ ns → EntersAndroid env ns
  | through {ns : List Node} {x : Text} {repeated : Bool} {v : Pattern} :
    .variable x repeated ∈ ns → env.get? x = some v → EntersAndroid env v.nodes →
      EntersAndroid env ns

theorem EntersAndroid.of_tail {n : Node} (h : env.EntersAndroid ns) : env.EntersAndroid (n :: ns) := by
  cases h with
  | here h => exact .here (List.mem_cons_of_mem _ h)
  | through h hv hin => exact .through (List.mem_cons_of_mem _ h) hv hin

/-- What is written with names hidden is written so with fewer names hidden, provided that the
variable `androidLocale` has no direct binding. -/
theorem Writes.unhide (h : (env.without H).Writes d ns t) (sub : ∀ y ∈ H', y ∈ H)
    (ha : androidLocale ∈ H') : (env.without H').Writes d ns t := by
  induction d generalizing H H' ns t with
  | zero => exact absurd h Scope.not_writes_zero
  | succ d ih =>
    have keep : ∀ {x y u v}, (env.without H).lookup x = some v →
        (env.without (y :: H)).Writes d v.nodes u →
          (env.without H').lookup x = some v ∧ (env.without (y :: H')).Writes d v.nodes u := by
      intro x y u v hl hw
      have hl := lookup_without.1 hl
      refine ⟨lookup_without.2 ⟨fun hx => hl.1 (sub x hx), hl.2⟩, ih hw ?_ ?_⟩
      · exact List.cons_subset_cons y sub
      · exact List.mem_cons_of_mem _ ha
    refine Scope.Writes.imp (fun n _ a hn => ?_) h
    cases n with
    | literal => exact hn
    | star id | starstar id =>
      obtain ⟨v, hl, hw⟩ := hn
      have hl := lookup_without.1 hl
      exact ⟨v, lookup_without.2 ⟨fun hx => hl.1 (sub _ hx), hl.2⟩, ih hw sub ha⟩
    | «variable» =>
      obtain ⟨v, hl, hw⟩ := hn
      exact ⟨v, keep hl hw⟩
    | android =>
      rcases hn with ⟨tag, ⟨v, hl, hw⟩, rfl⟩ | ⟨-, v, hl, -⟩
      · exact .inl ⟨tag, ⟨v, keep hl hw⟩, rfl⟩
      · exact absurd (sub _ ha) (lookup_without.1 hl).1

/-- As long as the locale cannot be written, nothing is written that leads to the variable
`androidLocale` where this has no direct binding. -/
theorem Writes.not_entersAndroid (h : (env.without H).Writes d ns t) (ha : androidLocale ∈ H)
    (no : ∀ e < d, ∀ tag, ¬env.ExpandsWithin e localeName tag) : ¬env.EntersAndroid ns := by
  intro enters
  induction enters generalizing H d t with
  | here hn =>
    cases d with
    | zero => exact Scope.not_writes_zero h
    | succ d =>
      obtain ⟨a, ⟨tag, ⟨v, hl, hw⟩, -⟩ | ⟨-, v, hl, -⟩⟩ := Scope.Writes.of_mem h hn
      -- here the locale would be written at a smaller depth
      · refine no d d.lt_succ_self tag ⟨v, lookup_without.2 ⟨nofun, (lookup_without.1 hl).2⟩, ?_⟩
        exact Writes.unhide hw (by simp [without]) List.mem_cons_self
      · exact (lookup_without.1 hl).1 ha
  | through hn hv _ ih =>
    cases d with
    | zero => exact Scope.not_writes_zero h
    | succ d =>
      obtain ⟨a, v, hl, hw⟩ := Scope.Writes.of_mem h hn
      obtain rfl := Option.some.inj (hv.symm.trans (lookup_without.1 hl).2)
      exact ih hw (List.mem_cons_of_mem _ ha) fun e he => no e (Nat.lt_succ_of_lt he)

/-- Names that lead to the variable `androidLocale` can be hidden. -/
theorem Writes.hide (h : (env.without H).Writes d ns t) (ha : androidLocale ∈ H)
    (sub : ∀ y ∈ H, y ∈ H') (leads : ∀ y ∈ H', y ∈ H ∨
      ∀ v, env.get? y = some v → env.EntersAndroid v.nodes)
    (no : ∀ e < d, ∀ tag, ¬env.ExpandsWithin e localeName tag) :
    (env.without H').Writes d ns t := by
  induction d generalizing H H' ns t with
  | zero => exact absurd h Scope.not_writes_zero
  | succ d ih =>
    have no' : ∀ e < d, ∀ tag, ¬env.ExpandsWithin e localeName tag :=
      fun e he => no e (Nat.lt_succ_of_lt he)
    have seen : ∀ {x v K u}, (env.without H).lookup x = some v → (env.without K).Writes d v.nodes u →
        androidLocale ∈ K → (env.without H').lookup x = some v := by
      intro x v K u hl hw hK
      have hl := lookup_without.1 hl
      refine lookup_without.2 ⟨fun hx => ?_, hl.2⟩
      rcases leads x hx with hx | enters
      · exact hl.1 hx
      · exact Writes.not_entersAndroid hw hK no' (enters v hl.2)
    refine Scope.Writes.imp (fun n hn' a hn => ?_) h
    cases n with
    | literal => exact hn
    | star id | starstar id =>
      obtain ⟨v, hl, hw⟩ := hn
      exact ⟨v, seen hl hw ha, ih hw ha sub leads no'⟩
    | «variable» x =>
      obtain ⟨v, hl, hw⟩ := hn
      refine ⟨v, seen hl hw (List.mem_cons_of_mem _ ha), ih hw (List.mem_cons_of_mem _ ha) ?_ ?_ no'⟩
      · exact List.cons_subset_cons x sub
      · refine List.forall_mem_cons.2 ⟨.inl List.mem_cons_self, fun y hy => ?_⟩
        exact (leads y hy).imp_left (List.mem_cons_of_mem _)
    | android =>
      exact absurd (.here hn') (Writes.not_entersAndroid h ha no)

/-- What the rendering of a binding finds, although names that lead to the variable `androidLocale`
are hidden. -/
theorem renderBinding_eq_some_iff {D : Nat} {o : Option Text}
    (h : renderBinding (renderNodes D) (env.without H) x = some o)
    (leads : ∀ y ∈ H, ∀ v, env.get? y = some v → env.EntersAndroid v.nodes)
    (first : ∀ u, env.Expands x u → ∃ d, env.ExpandsWithin d x u ∧
      ∀ e < d, ∀ tag, ¬env.ExpandsWithin e localeName tag) :
    o = some t ↔ env.Expands x t := by
  constructor
  · rintro rfl
    obtain ⟨v, hl, hw⟩ := Scope.renderBinding_eq_some_some.1 h
    refine ⟨D, v, lookup_without.2 ⟨nofun, (lookup_without.1 hl).2⟩, ?_⟩
    exact Writes.unhide hw (by simp [without]) List.mem_cons_self
  · intro hx
    obtain ⟨d, ⟨v, hl, hw⟩, no⟩ := first t hx
    have hv := (lookup_without.1 hl).2
    have here : androidLocale ∈ androidLocale :: (env.without []).hidden := List.mem_cons_self
    have hxH : x ∉ H := fun hxH => Writes.not_entersAndroid hw here no (leads x hxH v hv)
    have hidden : (env.without (androidLocale :: H)).Writes d v.nodes t := by
      refine Writes.hide hw here (by simp [without]) (fun y hy => ?_) no
      exact (List.mem_cons.1 hy).imp (fun e : y = androidLocale => e ▸ here) (leads y)
    have deep : renderBinding (renderNodes (max d D)) (env.without H) x = some (some t) :=
      Scope.renderBinding_eq_some_some.2
        ⟨v, lookup_without.2 ⟨hxH, hv⟩, hidden.mono (Nat.le_max_left d D)⟩
    have := @renderBinding_extends _ _ _ .halt
      (fun _ _ _ _ r _ => renderNodes_mono (Nat.le_max_right d D) _ _ _ r) _ _ h
    exact Option.some.inj (this.symm.trans deep)

/-- The qualifier found at a variable `androidLocale` is that of the environment, although names
through which the variable is reached are hidden. -/
theorem qualifier?_eq_some_iff {D : Nat} {o : Option Text}
    (h : qualifier? (renderNodes D) (env.without H) = some o)
    (leads : ∀ y ∈ H, ∀ v, env.get? y = some v → env.EntersAndroid v.nodes) :
    o = some t ↔ env.HasCode t := by
  unfold qualifier? at h
  cases hl : renderBinding (renderNodes D) (env.without H) localeName with
  | none => simp [hl] at h
  | some tag =>
    have tag_iff : ∀ u, tag = some u ↔ env.Expands localeName u := fun u =>
      renderBinding_eq_some_iff hl leads fun u' hu' => by
        classical
        -- the least depth at which the locale is written
        have some_depth : ∃ d, ∃ tag, env.ExpandsWithin d localeName tag :=
          hu'.imp fun _ h => ⟨u', h⟩
        obtain ⟨tag, htag⟩ := Nat.find_spec some_depth
        obtain rfl := Expands.unique ⟨_, htag⟩ hu'
        exact ⟨_, htag, fun e he tag h => Nat.find_min some_depth he ⟨tag, h⟩⟩
    rw [hl] at h
    cases tag with
    | some tag =>
      cases h
      have expands := (tag_iff tag).1 rfl
      rw [HasCode, Option.some.injEq, eq_comm]
      exact ⟨fun e => .inl ⟨tag, expands, e⟩, fun
        | .inl ⟨tag', h, e⟩ => by rw [e, h.unique expands]
        | .inr ⟨no, _⟩ => absurd expands (no tag)⟩
    | none =>
      have no : ∀ u, ¬env.Expands localeName u := fun u hu => nomatch (tag_iff u).2 hu
      have direct : o = some t ↔ env.Expands androidLocale t := by
        refine renderBinding_eq_some_iff h leads fun u ⟨d, hu⟩ => ⟨d, hu, fun e _ tag ht => ?_⟩
        exact no tag ⟨e, ht⟩
      rw [direct, HasCode]
      exact ⟨fun ha => .inr ⟨no, ha⟩, fun
        | .inl ⟨tag, h, _⟩ => absurd h (no tag)
        | .inr ⟨_, ha⟩ => ha⟩

end Environment

end LocalePaths
