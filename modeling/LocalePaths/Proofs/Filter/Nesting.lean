import LocalePaths.Proofs.Filter.Flat

/-!
# Excludes do not nest

Several configurations are made side by side, and one is put under another by including or excluding it
(`Operation`). However they are put together, only the configuration on top of a tree can have excludes
(`Pool.excludes_below`): not those that it includes, nor those that it excludes, nor what is below them.

Including looks at the excludes of the included configuration only, excluding also at what this
includes. That is enough because every configuration in the pool has a history of its own
(`Pool.made_run`), in which nothing could be put below it that has excludes (`Layered.stepAll`).
-/

namespace LocalePaths

namespace ProjectConfig
variable {c d child : ProjectConfig}

/-- The configuration is the result of a history. -/
def Made (c : ProjectConfig) : Prop := ∃ path steps, c = run path steps

theorem Made.step (h : c.Made) (s : Step) : (step s c).Made := by
  obtain ⟨path, steps, rfl⟩ := h
  exact ⟨path, steps ++ [s], (stepAll_append steps [s] (ofPath path)).symm⟩

theorem Made.addChild (h : c.Made) (hc : child.Made) : ((Edit.addChild child).after c).Made := by
  obtain ⟨path, steps, rfl⟩ := hc
  exact h.step (.addChild path steps)

theorem Made.exclude (h : c.Made) (hc : child.Made) : ((Edit.exclude child).after c).Made := by
  obtain ⟨path, steps, rfl⟩ := hc
  exact h.step (.exclude path steps)

theorem Made.layered (h : c.Made) : c.Layered := by
  obtain ⟨path, steps, rfl⟩ := h
  exact Layered.stepAll steps (fresh_ofPath path) (layered_ofPath path)

theorem ExcludeNone.at? : ∀ {place : List Part} {c d : ProjectConfig}, c.excludes = [] →
    ExcludeNone c.includes → at? place c = some d → d.excludes = []
  | [], c, d, he, _, e => by
    obtain rfl : c = d := Option.some.inj e
    exact he
  | .included i :: place, node _ includes _, d, _, hi, e => by
    obtain ⟨c, hc, e⟩ := Option.bind_eq_some_iff.1 e
    obtain ⟨he, hi⟩ := hi.of_mem (List.mem_of_getElem? hc)
    exact ExcludeNone.at? he hi e
  | .excluded i :: place, node _ _ excludes, d, he, _, e => by
    obtain rfl : excludes = [] := he
    cases e

theorem Layered.excludes_of_at? {place : List Part} (h : c.Layered) (below : place ≠ [])
    (e : ProjectConfig.at? place c = some d) : d.excludes = [] := by
  obtain ⟨own, includes, excludes⟩ := c
  cases place with
  | nil => exact absurd rfl below
  | cons part place =>
    cases part with
    | included i =>
      obtain ⟨c, hc, e⟩ := Option.bind_eq_some_iff.1 e
      obtain ⟨he, hi⟩ := h.1.of_mem (List.mem_of_getElem? hc)
      exact ExcludeNone.at? he hi e
    | excluded i =>
      obtain ⟨c, hc, e⟩ := Option.bind_eq_some_iff.1 e
      obtain ⟨he, hi⟩ := h.2.of_mem (List.mem_of_getElem? hc)
      exact ExcludeNone.at? he hi e

end ProjectConfig

/-- Configurations that are made side by side. -/
abbrev Pool := List ProjectConfig

/-- What can be done with a pool. A configuration that is included or excluded leaves the pool, even if
this is refused; the one that it is put under is counted without it. -/
inductive Operation where
  | create (path : Option Text)
  | perform (i : Nat) (s : ProjectConfig.Step)
  | addChild (child parent : Nat)
  | exclude (child parent : Nat)

namespace Pool
variable {pool : Pool} {c : ProjectConfig}

/-- Takes a configuration out of the pool and puts it under another one. -/
def place (put : ProjectConfig → Edit Unit) (child parent : Nat) (pool : Pool) : Pool :=
  match pool[child]? with
  | none => pool
  | some c => (pool.eraseIdx child).modify parent (put c).after

def operate (pool : Pool) : Operation → Pool
  | .create path => pool ++ [.ofPath path]
  | .perform i s => pool.modify i (ProjectConfig.step s)
  | .addChild child parent => pool.place Edit.addChild child parent
  | .exclude child parent => pool.place Edit.exclude child parent

/-- The pool after some operations, which starts empty. -/
def run (ops : List Operation) : Pool := ops.foldl operate []

def Made (pool : Pool) : Prop := ∀ c ∈ pool, c.Made

theorem Made.modify (h : pool.Made) {f : ProjectConfig → ProjectConfig} (i : Nat)
    (hf : ∀ c : ProjectConfig, c.Made → (f c).Made) : Made (pool.modify i f) := by
  intro c hc
  obtain ⟨j, hj⟩ := List.getElem?_of_mem hc
  rw [List.getElem?_modify] at hj
  obtain ⟨d, hd, e⟩ := Option.map_eq_some_iff.1 hj
  have made := h d (List.mem_of_getElem? hd)
  split at e
  · exact e ▸ hf d made
  · exact e ▸ made

theorem Made.place (h : pool.Made) {put : ProjectConfig → Edit Unit}
    (hput : ∀ c d : ProjectConfig, c.Made → d.Made → ((put c).after d).Made)
    (child parent : Nat) : Made (pool.place put child parent) := by
  unfold Pool.place
  split
  · exact h
  · rename_i c hc
    have left : Made (pool.eraseIdx child) := fun d hd => h d (List.mem_of_mem_eraseIdx hd)
    exact left.modify parent fun d => hput c d (h c (List.mem_of_getElem? hc))

theorem Made.operate (h : pool.Made) (op : Operation) : Made (pool.operate op) := by
  cases op with
  | create path => exact List.forall_mem_append.2 ⟨h, List.forall_mem_singleton.2 ⟨path, [], rfl⟩⟩
  | perform i s => exact h.modify i fun c hc => hc.step s
  | addChild child parent => exact h.place (fun c d hc hd => hd.addChild hc) child parent
  | exclude child parent => exact h.place (fun c d hc hd => hd.exclude hc) child parent

/-- Every configuration that has been made in a pool has a history of its own. -/
theorem made_run (ops : List Operation) : Made (run ops) := by
  have kept : ∀ {pool : Pool}, pool.Made → Made (ops.foldl operate pool) := by
    induction ops with
    | nil => exact id
    | cons op ops ih => exact fun h => ih (h.operate op)
  exact kept nofun

/-- Whatever is done with any number of configurations, only one on top of a tree has excludes: none
below another one does, no included one, and none of an excluded tree. -/
theorem excludes_below {ops : List Operation} (hc : c ∈ run ops) :
    (∀ place d, place ≠ [] → c.at? place = some d → d.excludes = []) ∧
      (∀ d ∈ ProjectConfig.configsOf c.includes, d.excludes = []) ∧
      ∀ x ∈ c.excludes, ∀ d ∈ x.configs, d.excludes = [] := by
  have layered := (made_run ops c hc).layered
  refine ⟨fun place d below e => layered.excludes_of_at? below e, layered.1, fun x hx => ?_⟩
  obtain ⟨own, includes, excludes⟩ := x
  obtain ⟨he, hi⟩ := layered.2.of_mem hx
  exact List.forall_mem_cons.2 ⟨he, hi⟩

/-- Two configurations with excludes are refused, one as an exclude and one as an include; then a tree of
two is included and one more configuration is excluded. -/
def assembly : List Operation :=
  [.create none, .create none, .exclude 1 0, .create none, .exclude 0 0,
    .create none, .create none, .exclude 2 1, .addChild 1 0,
    .create none, .create none, .addChild 2 1, .addChild 1 0, .create none, .exclude 1 0]

theorem assembly_excludes_below : ∃ c d, c ∈ run assembly ∧ c.excludes.length = 1 ∧
    c.at? [.included 0, .included 0] = some d ∧ d.excludes = [] := by
  have top : (run assembly)[0]? = some _ := rfl
  have below := (excludes_below (List.mem_of_getElem? top)).1 [.included 0, .included 0] _ (by simp) rfl
  exact ⟨_, _, List.mem_of_getElem? top, rfl, rfl, below⟩

end Pool

end LocalePaths
