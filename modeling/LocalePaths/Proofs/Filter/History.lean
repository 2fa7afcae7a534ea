import LocalePaths.Proofs.Filter.Edit
import LocalePaths.Proofs.Filter.Freshness

/-!
# How configurations are made

A configuration is made from that of a file by changes and questions, one after another (`Step`); so are
those that it includes or excludes, before they are. A change that is refused leaves the configuration
as it is. Every configuration made in this way is fresh, and apart from what has been computed it is
the one made by the changes alone (`run_spec`). So questions on the way change no answer
(`run_transparent`).
-/

namespace LocalePaths

namespace ProjectConfig
variable {c child : ProjectConfig} {cs : List ProjectConfig}

theorem bareAll_eq_map (cs : List ProjectConfig) : bareAll cs = cs.map bare := by
  induction cs with
  | nil => rfl
  | cons c cs ih => rw [bareAll, ih, List.map_cons]

theorem freshAll_iff : FreshAll cs ↔ ∀ c ∈ cs, c.Fresh := by
  induction cs with
  | nil => simp [FreshAll]
  | cons c cs ih => rw [List.forall_mem_cons, FreshAll, ih]

/-! ### Changes keep configurations fresh -/

theorem fresh_ofPath (path : Option Text) : (ofPath path).Fresh := ⟨⟨nofun, nofun⟩, trivial, trivial⟩

theorem Fresh.modifyOwn_invalidate (h : c.Fresh) (f : Settings → Settings) :
    (c.modifyOwn fun s => (f s).invalidate).Fresh := by
  obtain ⟨own, includes, excludes⟩ := c
  exact ⟨Settings.fresh_invalidate .., h.2⟩

theorem Fresh.setRoot (h : c.Fresh) (dir : Option Text) (base : Text) :
    ((Edit.setRoot dir base).after c).Fresh := by
  rcases Edit.after_setRoot dir base c with same | ⟨root, -, set⟩
  · rwa [same]
  · obtain ⟨own, includes, excludes⟩ := c
    rw [set]
    exact ⟨⟨h.1.known, h.1.caches⟩, h.2⟩

theorem Fresh.addEnvironment (h : c.Fresh) (bindings : List (Text × Pattern)) :
    (c.addEnvironment bindings).Fresh := by
  obtain ⟨own, includes, excludes⟩ := c
  exact ⟨⟨h.1.known, h.1.caches⟩, h.2⟩

theorem Fresh.learnLocales (h : c.Fresh) : c.learnLocales.Fresh := by
  have all := h.allLocales
  obtain ⟨own, includes, excludes⟩ := c
  exact ⟨⟨fun ls hl => (Option.some.inj hl).symm.trans all, h.1.caches⟩, h.2⟩

mutual

theorem Fresh.setLocalesDeep (locales : List Text) :
    ∀ {c : ProjectConfig}, c.Fresh → (c.setLocalesDeep locales).Fresh
  | node _ _ _, ⟨_, hi, he⟩ => ⟨Settings.fresh_invalidate .., Fresh.setLocalesOf locales hi, he⟩

theorem Fresh.setLocalesOf (locales : List Text) :
    ∀ {cs : List ProjectConfig}, FreshAll cs → FreshAll (setLocalesOf locales cs)
  | [], _ => trivial
  | _ :: _, ⟨hc, hcs⟩ => ⟨hc.setLocalesDeep locales, Fresh.setLocalesOf locales hcs⟩

end

theorem Fresh.setLocales (h : c.Fresh) (locales : List Text) (deep : Bool) :
    (c.setLocales locales deep).Fresh := by
  cases deep with
  | true => exact h.setLocalesDeep locales
  | false => exact h.modifyOwn_invalidate _

theorem Fresh.addPaths (h : c.Fresh) (dir : Option Text) (ds : List PathDeclaration) :
    ((Edit.addPaths dir ds).after c).Fresh := by
  rcases Edit.after_addPaths dir ds c with same | ⟨groups, -, added⟩
  · rwa [same]
  · rw [added]
    exact h.modifyOwn_invalidate _

theorem Fresh.addRules (h : c.Fresh) (dir : Option Text) (ds : List RuleDeclaration) :
    ((Edit.addRules dir ds).after c).Fresh := by
  rcases Edit.after_addRules dir ds c with same | ⟨rules, -, added⟩
  · rwa [same]
  · rw [added]
    exact h.modifyOwn_invalidate _

theorem Fresh.addChild (h : c.Fresh) (hc : child.Fresh) : ((Edit.addChild child).after c).Fresh := by
  obtain ⟨own, includes, excludes⟩ := c
  rw [Edit.after_addChild]
  split
  · refine ⟨Settings.fresh_invalidate .., freshAll_iff.2 ?_, h.2.2⟩
    exact List.forall_mem_append.2 ⟨freshAll_iff.1 h.2.1, List.forall_mem_singleton.2 hc⟩
  · exact h

theorem Fresh.exclude (h : c.Fresh) (hc : child.Fresh) : ((Edit.exclude child).after c).Fresh := by
  obtain ⟨own, includes, excludes⟩ := c
  rw [Edit.after_exclude]
  split
  · refine ⟨h.1, h.2.1, freshAll_iff.2 ?_⟩
    exact List.forall_mem_append.2 ⟨freshAll_iff.1 h.2.2, List.forall_mem_singleton.2 hc⟩
  · exact h

/-! ### Changes do not depend on what has been computed -/

/-- A call that reads only what is declared makes the same of a configuration on which nothing is kept. -/
theorem bare_after {α : Type} {x : Edit Unit} {y : Settings → Except FilterError α}
    {f : α → Settings → Settings} (atomic : x.Atomic)
    (on : ∀ c, x.on c = (fun a => c.modifyOwn (f a)) <$> y c.own) (reads : ∀ s, y s.invalidate = y s)
    (changes : ∀ a s, (f a s).invalidate = f a s.invalidate) (c : ProjectConfig) :
    (x.after c).bare = x.after c.bare := by
  obtain ⟨own, includes, excludes⟩ := c
  rw [atomic.after_eq, atomic.after_eq, on, on]
  simp only [bare, ProjectConfig.own, reads]
  cases y own with
  | error e => rfl
  | ok a => exact congrArg (fun s => node s (bareAll includes) (bareAll excludes)) (changes a own)

theorem bare_setRoot (dir : Option Text) (base : Text) (c : ProjectConfig) :
    ((Edit.setRoot dir base).after c).bare = (Edit.setRoot dir base).after c.bare :=
  bare_after (y := fun s => Checked.value (s.rootAt dir base)) (Edit.atomic_setRoot dir base)
    (Edit.on_setRoot dir base) (fun _ => rfl) (fun _ _ => rfl) c

theorem bare_addPaths (dir : Option Text) (ds : List PathDeclaration) (c : ProjectConfig) :
    ((Edit.addPaths dir ds).after c).bare = (Edit.addPaths dir ds).after c.bare :=
  bare_after (y := fun s => ds.mapM fun d => Checked.value (s.group dir d)) (Edit.atomic_addPaths dir ds)
    (Edit.on_addPaths dir ds) (fun _ => rfl) (fun _ _ => rfl) c

theorem bare_addRules (dir : Option Text) (ds : List RuleDeclaration) (c : ProjectConfig) :
    ((Edit.addRules dir ds).after c).bare = (Edit.addRules dir ds).after c.bare :=
  bare_after (y := fun s => ds.mapM fun d => Checked.value (s.rulesAt dir d)) (Edit.atomic_addRules dir ds)
    (Edit.on_addRules dir ds) (fun _ => rfl) (fun _ _ => rfl) c

theorem bare_addEnvironment (bindings : List (Text × Pattern)) (c : ProjectConfig) :
    (c.addEnvironment bindings).bare = c.bare.addEnvironment bindings := by
  cases c
  rfl

theorem bare_learnLocales (c : ProjectConfig) : c.learnLocales.bare = c.bare := by
  cases c
  rfl

mutual

theorem bare_setLocalesDeep (locales : List Text) : ∀ c : ProjectConfig,
    (c.setLocalesDeep locales).bare = c.bare.setLocalesDeep locales
  | node own includes excludes => by
    simp only [setLocalesDeep, bare, bareAll_setLocalesOf]
    rfl

theorem bareAll_setLocalesOf (locales : List Text) : ∀ cs : List ProjectConfig,
    bareAll (setLocalesOf locales cs) = setLocalesOf locales (bareAll cs)
  | [] => rfl
  | c :: cs => by
    simp only [setLocalesOf, bareAll, bare_setLocalesDeep, bareAll_setLocalesOf]

end

theorem bare_setLocales (locales : List Text) (deep : Bool) (c : ProjectConfig) :
    (c.setLocales locales deep).bare = c.bare.setLocales locales deep := by
  cases deep with
  | true => exact bare_setLocalesDeep locales c
  | false =>
    cases c
    rfl

theorem isEmpty_excludes_bare (c : ProjectConfig) :
    c.bare.excludes.isEmpty = c.excludes.isEmpty := by
  obtain ⟨own, includes, excludes⟩ := c
  cases excludes <;> rfl

theorem bare_addChild (child c : ProjectConfig) :
    ((Edit.addChild child).after c).bare = (Edit.addChild child.bare).after c.bare := by
  obtain ⟨own, includes, excludes⟩ := c
  rw [Edit.after_addChild, Edit.after_addChild, isEmpty_excludes_bare]
  split
  · simp only [bare, bareAll_eq_map, ProjectConfig.own, ProjectConfig.includes, ProjectConfig.excludes,
      List.map_append, List.map_cons, List.map_nil]
  · rfl

theorem bare_exclude (child c : ProjectConfig) :
    ((Edit.exclude child).after c).bare = (Edit.exclude child.bare).after c.bare := by
  obtain ⟨own, includes, excludes⟩ := c
  rw [Edit.after_exclude, Edit.after_exclude, configs_bare, List.all_map]
  simp only [Function.comp_def, isEmpty_excludes_bare]
  split
  · simp only [bare, bareAll_eq_map, ProjectConfig.own, ProjectConfig.includes, ProjectConfig.excludes,
      List.map_append, List.map_cons, List.map_nil]
  · rfl

/-! ### Parts of a configuration -/

/-- A configuration that is included or excluded directly, by its index. -/
inductive Part where
  | included (i : Nat)
  | excluded (i : Nat)
  deriving DecidableEq

/-- The configuration at a place among those that are included and excluded. -/
def at? : List Part → ProjectConfig → Option ProjectConfig
  | [], c => some c
  | .included i :: place, node _ includes _ => includes[i]?.bind (at? place)
  | .excluded i :: place, node _ _ excludes => excludes[i]?.bind (at? place)

def modifyAt (f : ProjectConfig → ProjectConfig) : List Part → ProjectConfig → ProjectConfig
  | [], c => f c
  | .included i :: place, node own includes excludes =>
    node own (includes.modify i (modifyAt f place)) excludes
  | .excluded i :: place, node own includes excludes =>
    node own includes (excludes.modify i (modifyAt f place))

theorem at?_bare : ∀ (place : List Part) (c : ProjectConfig),
    at? place c.bare = (at? place c).map bare
  | [], _ => rfl
  | .included i :: place, node _ includes _ => by
    simp only [bare, at?, bareAll_eq_map, List.getElem?_map]
    cases includes[i]? with
    | none => rfl
    | some c => exact at?_bare place c
  | .excluded i :: place, node _ _ excludes => by
    simp only [bare, at?, bareAll_eq_map, List.getElem?_map]
    cases excludes[i]? with
    | none => rfl
    | some c => exact at?_bare place c

theorem Fresh.at? : ∀ {place : List Part} {c d : ProjectConfig}, c.Fresh → at? place c = some d →
    d.Fresh
  | [], _, _, h, e => Option.some.inj e ▸ h
  | .included i :: place, node _ includes _, d, h, e => by
    obtain ⟨c, hc, e⟩ := Option.bind_eq_some_iff.1 e
    exact Fresh.at? (freshAll_iff.1 h.2.1 c (List.mem_of_getElem? hc)) e
  | .excluded i :: place, node _ _ excludes, d, h, e => by
    obtain ⟨c, hc, e⟩ := Option.bind_eq_some_iff.1 e
    exact Fresh.at? (freshAll_iff.1 h.2.2 c (List.mem_of_getElem? hc)) e

section
variable {f : ProjectConfig → ProjectConfig}
  (hf : ∀ c : ProjectConfig, c.Fresh → (f c).Fresh ∧ (f c).bare = c.bare)
include hf

theorem modify_spec : ∀ (i : Nat) {cs : List ProjectConfig}, FreshAll cs →
    FreshAll (cs.modify i f) ∧ bareAll (cs.modify i f) = bareAll cs
  | _, [], _ => by simp [FreshAll]
  | 0, c :: cs, h => ⟨⟨(hf c h.1).1, h.2⟩, congrArg (· :: bareAll cs) (hf c h.1).2⟩
  | i + 1, c :: cs, h =>
    have later := modify_spec i h.2
    ⟨⟨h.1, later.1⟩, congrArg (c.bare :: ·) later.2⟩

/-- What is computed at a place keeps the configuration fresh. -/
theorem modifyAt_spec : ∀ (place : List Part) {c : ProjectConfig}, c.Fresh →
    (modifyAt f place c).Fresh ∧ (modifyAt f place c).bare = c.bare
  | [], c, h => hf c h
  | .included i :: place, node _ _ _, h =>
    compute_fresh h.1 rfl (modify_spec (fun _ => modifyAt_spec place) i h.2.1) ⟨h.2.2, rfl⟩
  | .excluded i :: place, node _ _ _, h =>
    compute_fresh h.1 rfl ⟨h.2.1, rfl⟩ (modify_spec (fun _ => modifyAt_spec place) i h.2.2)

end

/-! ### Histories -/

/-- A change of a configuration, which may be refused, or a question about it or about one that it includes
or excludes. The configurations that are included or excluded have a history of their own before. The current
directory can be another one, or missing, at every change. -/
inductive Step where
  | setRoot (dir : Option Text) (base : Text)
  | addEnvironment (bindings : List (Text × Pattern))
  | addPaths (dir : Option Text) (ds : List PathDeclaration)
  | addRules (dir : Option Text) (ds : List RuleDeclaration)
  | addChild (path : Option Text) (steps : List Step)
  | exclude (path : Option Text) (steps : List Step)
  | setLocales (locales : List Text) (deep : Bool)
  | filter (place : List Part) (q : FilterQuery)
  | allLocales (place : List Part)

mutual

def step : Step → ProjectConfig → ProjectConfig
  | .setRoot dir base, c => (perform dir (.setRoot base)).after c
  | .addEnvironment bindings, c => c.addEnvironment bindings
  | .addPaths dir ds, c => (perform dir (.addPaths ds)).after c
  | .addRules dir ds, c => (perform dir (.addRules ds)).after c
  | .addChild path steps, c => (perform none (.addChild (stepAll steps (ofPath path)))).after c
  | .exclude path steps, c => (perform none (.exclude (stepAll steps (ofPath path)))).after c
  | .setLocales locales deep, c => c.setLocales locales deep
  | .filter place q, c => modifyAt (fun d => (d.filter q).value.2) place c
  | .allLocales place, c => modifyAt learnLocales place c

def stepAll : List Step → ProjectConfig → ProjectConfig
  | [], c => c
  | s :: ss, c => stepAll ss (step s c)

end

/-- The configuration of the file at a path after some steps. -/
def run (path : Option Text) (steps : List Step) : ProjectConfig := stepAll steps (ofPath path)

mutual

/-- A step without the questions; it is none if it is a question. -/
def change? : Step → Option Step
  | .addChild path steps => some (.addChild path (changes steps))
  | .exclude path steps => some (.exclude path (changes steps))
  | .filter .. | .allLocales _ => none
  | s => some s

def changes : List Step → List Step
  | [] => []
  | s :: ss => (change? s).toList ++ changes ss

end

theorem stepAll_append : ∀ (ss ts : List Step) (c : ProjectConfig),
    stepAll (ss ++ ts) c = stepAll ts (stepAll ss c)
  | [], _, _ => rfl
  | s :: ss, ts, c => stepAll_append ss ts (step s c)

mutual

/-- A step keeps a configuration fresh, and apart from what has been computed it changes what the step
without questions changes. -/
theorem step_spec : ∀ (s : Step) {c : ProjectConfig}, c.Fresh →
    (step s c).Fresh ∧ (step s c).bare = stepAll (change? s).toList c.bare
  | .setRoot dir base, c, h => ⟨h.setRoot dir base, bare_setRoot dir base c⟩
  | .addEnvironment bindings, c, h => ⟨h.addEnvironment bindings, bare_addEnvironment bindings c⟩
  | .addPaths dir ds, c, h => ⟨h.addPaths dir ds, bare_addPaths dir ds c⟩
  | .addRules dir ds, c, h => ⟨h.addRules dir ds, bare_addRules dir ds c⟩
  | .setLocales locales deep, c, h => ⟨h.setLocales locales deep, bare_setLocales locales deep c⟩
  | .filter place q, c, h => modifyAt_spec (fun d hd => (resolve_spec true q d hd).2) place h
  | .allLocales place, c, h =>
    modifyAt_spec (fun d hd => ⟨hd.learnLocales, bare_learnLocales d⟩) place h
  | .addChild path steps, c, h => by
    obtain ⟨hc, bc⟩ := stepAll_spec steps (fresh_ofPath path)
    refine ⟨h.addChild hc, (bare_addChild _ c).trans ?_⟩
    rw [bc]
    rfl
  | .exclude path steps, c, h => by
    obtain ⟨hc, bc⟩ := stepAll_spec steps (fresh_ofPath path)
    refine ⟨h.exclude hc, (bare_exclude _ c).trans ?_⟩
    rw [bc]
    rfl

theorem stepAll_spec : ∀ (ss : List Step) {c : ProjectConfig}, c.Fresh →
    (stepAll ss c).Fresh ∧ (stepAll ss c).bare = stepAll (changes ss) c.bare
  | [], _, h => ⟨h, rfl⟩
  | s :: ss, c, h => by
    obtain ⟨hs, bs⟩ := step_spec s h
    obtain ⟨hss, bss⟩ := stepAll_spec ss hs
    refine ⟨hss, ?_⟩
    rw [changes, stepAll_append, ← bs]
    exact bss

end

/-- A configuration is fresh after any history, and apart from what has been computed it is the one made
by the changes alone. -/
theorem run_spec (path : Option Text) (steps : List Step) :
    (run path steps).Fresh ∧ (run path steps).bare = run path (changes steps) :=
  stepAll_spec steps (fresh_ofPath path)

/-- Whatever questions are asked on the way, the configuration and all that it includes or excludes
answer all questions as if none had been asked, and all that has been computed in them is what would be
computed now. -/
theorem run_transparent (path : Option Text) (steps : List Step) (place : List Part) :
    (at? place (run path steps)).map allLocales =
        (at? place (run path (changes steps))).map allLocales ∧
      (∀ q, (at? place (run path steps)).map (fun c => (c.filter q).value.1) =
        (at? place (run path (changes steps))).map fun c => (c.filter q).value.1) ∧
      ∀ c, at? place (run path steps) = some c → c.own.Fresh c.declaredLocales := by
  obtain ⟨fresh, bare⟩ := run_spec path steps
  obtain ⟨fresh', -⟩ := run_spec path (changes steps)
  have same := at?_bare place (run path steps)
  rw [bare] at same
  cases h : at? place (run path steps) with
  | none =>
    rw [same, h]
    exact ⟨rfl, fun _ => rfl, nofun⟩
  | some c =>
    rw [h] at same
    have hc := fresh.at? h
    have hc' := fresh'.at? same
    rw [same]
    refine ⟨congrArg some ?_, fun q => congrArg some ?_, fun d hd => ?_⟩
    · rw [hc.allLocales, hc'.allLocales, declaredLocales_bare]
    · show (filter q c).value.1 = (filter q c.bare).value.1
      rw [value_filter hc, value_filter hc', answer_bare]
    · cases hd
      obtain ⟨own, includes, excludes⟩ := c
      exact hc.1

/-- A history with questions before and after the inclusion, and with changes after them, of which the first
is refused: there is no current directory to see the root from. -/
def asked : List Step :=
  let q : FilterQuery := ⟨"de".toList, "de/a.ftl".toList, none⟩
  [.addChild none [.addPaths none [⟨"{locale}/**".toList, none, none, none, none⟩],
      .setLocales ["de".toList] false, .filter [] q],
    .filter [.included 0] ⟨"fr".toList, "fr/a.ftl".toList, none⟩, .filter [] q,
    .setRoot none ".".toList, .setLocales ["de".toList, "fr".toList] false]

theorem asked_transparent :
    let file : Option Text := some "l10n.toml".toList
    ((at? [.included 0] (run file asked)).map fun c => c.own.caches.length) = some 1 ∧
      (∀ c, at? [.included 0] (run file asked) = some c → c.own.Fresh c.declaredLocales) ∧
      ((at? [.included 0] (run file (changes asked))).map fun c =>
        (c.filter ⟨"de".toList, "de/a.ftl".toList, none⟩).value.1) = some (.ok .error) := by
  intro file
  obtain ⟨-, answers, fresh⟩ := run_transparent file asked [.included 0]
  exact ⟨by decide +kernel, fresh, (answers _).symm.trans (by decide +kernel)⟩

end ProjectConfig

end LocalePaths
