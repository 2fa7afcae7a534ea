import LocalePaths.Proofs.Filter.Cells
import LocalePaths.Proofs.Filter.Flat

/-!
# Keys of rules

In a configuration that can be made, every key of a rule stands for the expression that its source is
compiled to (`ProjectConfig.Reachable.compiled`). So keys with the same source are the same
(`FilterRule.Compiled.key_eq`), although only their sources are compared.
-/

namespace LocalePaths

namespace FilterRule
variable {r s : FilterRule}

/-- The key of the rule, if it has one, is what its source is compiled to. -/
def Compiled (r : FilterRule) : Prop := ∀ k, r.key = some k → KeyPattern.of k.source = .ok k

theorem Compiled.key_eq (hr : r.Compiled) (hs : s.Compiled)
    (h : r.key.map (·.source) = s.key.map (·.source)) : r.key = s.key := by
  cases hk : r.key with
  | none =>
    rw [hk] at h
    exact (Option.map_eq_none_iff.1 h.symm).symm
  | some k =>
    rw [hk] at h
    obtain ⟨l, hl, same⟩ := Option.map_eq_some_iff.1 h.symm
    have compiled := hs l hl
    rw [same, hr k hk] at compiled
    rw [hl, Except.ok.inj compiled]

end FilterRule

namespace ProjectConfig

mutual

/-- The rules of the configuration and of all that it includes or excludes. -/
def allRules : ProjectConfig → List FilterRule
  | node own includes excludes => own.rules ++ allRulesOf includes ++ allRulesOf excludes

def allRulesOf : List ProjectConfig → List FilterRule
  | [] => []
  | c :: cs => allRules c ++ allRulesOf cs

end

/-- All keys are what their sources are compiled to. -/
def Compiled (c : ProjectConfig) : Prop := ∀ r ∈ c.allRules, r.Compiled

variable {c d child : ProjectConfig} {cs : List ProjectConfig}

theorem mem_allRulesOf {r : FilterRule} : r ∈ allRulesOf cs ↔ ∃ c ∈ cs, r ∈ c.allRules := by
  induction cs with
  | nil => simp [allRulesOf]
  | cons c cs ih => rw [allRulesOf, List.mem_append, ih, List.exists_mem_cons_iff]

theorem compiled_node {own : Settings} {includes excludes : List ProjectConfig} :
    (node own includes excludes).Compiled ↔ (∀ r ∈ own.rules, r.Compiled) ∧
      (∀ c ∈ includes, c.Compiled) ∧ ∀ c ∈ excludes, c.Compiled := by
  have below (cs : List ProjectConfig) :
      (∀ r ∈ allRulesOf cs, r.Compiled) ↔ ∀ c ∈ cs, c.Compiled := by
    simp only [mem_allRulesOf]
    exact ⟨fun h c hc r hr => h r ⟨c, hc, hr⟩, fun h r ⟨c, hc, hr⟩ => h c hc r hr⟩
  unfold Compiled
  rw [allRules, List.forall_mem_append, List.forall_mem_append, below, below, and_assoc]
  rfl

mutual

theorem allRules_bare : ∀ c : ProjectConfig, c.bare.allRules = c.allRules
  | node own includes excludes => by
    rw [bare, allRules, allRules, allRulesOf_bareAll, allRulesOf_bareAll]
    rfl

theorem allRulesOf_bareAll : ∀ cs : List ProjectConfig, allRulesOf (bareAll cs) = allRulesOf cs
  | [] => rfl
  | c :: cs => by rw [bareAll, allRulesOf, allRulesOf, allRules_bare, allRulesOf_bareAll]

end

mutual

theorem allRules_setLocalesDeep (locales : List Text) : ∀ c : ProjectConfig,
    (c.setLocalesDeep locales).allRules = c.allRules
  | node own includes excludes => by
    rw [setLocalesDeep, allRules, allRules, allRulesOf_setLocalesOf]
    rfl

theorem allRulesOf_setLocalesOf (locales : List Text) : ∀ cs : List ProjectConfig,
    allRulesOf (setLocalesOf locales cs) = allRulesOf cs
  | [] => rfl
  | c :: cs => by
    rw [setLocalesOf, allRulesOf, allRulesOf, allRules_setLocalesDeep, allRulesOf_setLocalesOf]

end

mutual

theorem mem_allRules {r : FilterRule} : ∀ {c d : ProjectConfig}, d ∈ c.configs → r ∈ d.own.rules →
    r ∈ c.allRules
  | node own includes excludes, d, hd, hr => by
    rw [allRules, List.mem_append, List.mem_append]
    rcases List.mem_cons.1 hd with rfl | hd
    · exact .inl (.inl hr)
    · exact .inl (.inr (mem_allRules_configsOf hd hr))

theorem mem_allRules_configsOf {r : FilterRule} : ∀ {cs : List ProjectConfig} {d : ProjectConfig},
    d ∈ configsOf cs → r ∈ d.own.rules → r ∈ allRulesOf cs
  | c :: cs, d, hd, hr => by
    rw [allRulesOf, List.mem_append]
    rcases List.mem_append.1 hd with hd | hd
    · exact .inl (mem_allRules hd hr)
    · exact .inr (mem_allRules_configsOf hd hr)

end

theorem compiled_ofPath (path : Option Text) : (ofPath path).Compiled := nofun

theorem Compiled.modifyOwn (h : c.Compiled) {f : Settings → Settings}
    (hf : ∀ r ∈ (f c.own).rules, r.Compiled) : (c.modifyOwn f).Compiled := by
  obtain ⟨own, includes, excludes⟩ := c
  exact compiled_node.2 ⟨hf, (compiled_node.1 h).2⟩

theorem Compiled.own (h : c.Compiled) : ∀ r ∈ c.own.rules, r.Compiled := by
  obtain ⟨own, includes, excludes⟩ := c
  exact (compiled_node.1 h).1

theorem Compiled.setRoot (h : c.Compiled) (dir : Option Text) (base : Text) :
    ((Edit.setRoot dir base).after c).Compiled := by
  rcases Edit.after_setRoot dir base c with same | ⟨root, -, set⟩
  · rwa [same]
  · rw [set]
    exact h.modifyOwn h.own

theorem Compiled.addPaths (h : c.Compiled) (dir : Option Text) (ds : List PathDeclaration) :
    ((Edit.addPaths dir ds).after c).Compiled := by
  rcases Edit.after_addPaths dir ds c with same | ⟨groups, -, added⟩
  · rwa [same]
  · rw [added]
    exact h.modifyOwn h.own

theorem Compiled.addRules (h : c.Compiled) (dir : Option Text) (ds : List RuleDeclaration) :
    ((Edit.addRules dir ds).after c).Compiled := by
  rcases Edit.after_addRules dir ds c with same | ⟨parts, made, added⟩
  · rwa [same]
  · rw [added]
    refine h.modifyOwn (List.forall_mem_append.2 ⟨h.own, fun r hr => ?_⟩)
    obtain ⟨part, hpart, hr⟩ := List.mem_flatten.1 hr
    obtain ⟨d, -, made⟩ := exists_of_mapM_eq_ok made part hpart
    exact (Settings.exists_of_mem_rulesAt made hr).2

theorem Compiled.addChild (h : c.Compiled) (hc : child.Compiled) :
    ((Edit.addChild child).after c).Compiled := by
  obtain ⟨own, includes, excludes⟩ := c
  obtain ⟨ho, hi, he⟩ := compiled_node.1 h
  rw [Edit.after_addChild]
  split
  · exact compiled_node.2 ⟨ho, List.forall_mem_append.2 ⟨hi, List.forall_mem_singleton.2 hc⟩, he⟩
  · exact h

theorem Compiled.exclude (h : c.Compiled) (hc : child.Compiled) :
    ((Edit.exclude child).after c).Compiled := by
  obtain ⟨own, includes, excludes⟩ := c
  obtain ⟨ho, hi, he⟩ := compiled_node.1 h
  rw [Edit.after_exclude]
  split
  · exact compiled_node.2 ⟨ho, hi, List.forall_mem_append.2 ⟨he, List.forall_mem_singleton.2 hc⟩⟩
  · exact h

theorem Compiled.setLocales (h : c.Compiled) (locales : List Text) (deep : Bool) :
    (c.setLocales locales deep).Compiled := by
  cases deep with
  | true => exact fun r hr => h r (allRules_setLocalesDeep locales c ▸ hr)
  | false => exact h.modifyOwn h.own

theorem Compiled.at? : ∀ {place : List Part} {c d : ProjectConfig}, c.Compiled → at? place c = some d →
    d.Compiled
  | [], _, _, h, e => Option.some.inj e ▸ h
  | .included i :: place, node _ includes _, d, h, e => by
    obtain ⟨c, hc, e⟩ := Option.bind_eq_some_iff.1 e
    exact Compiled.at? ((compiled_node.1 h).2.1 c (List.mem_of_getElem? hc)) e
  | .excluded i :: place, node _ _ excludes, d, h, e => by
    obtain ⟨c, hc, e⟩ := Option.bind_eq_some_iff.1 e
    exact Compiled.at? ((compiled_node.1 h).2.2 c (List.mem_of_getElem? hc)) e

mutual

theorem Compiled.step : ∀ (s : Step) {c : ProjectConfig}, c.Fresh → c.Compiled → (step s c).Compiled
  | .setRoot dir base, _, _, h => h.setRoot dir base
  | .addEnvironment _, _, _, h => h.modifyOwn h.own
  | .addPaths dir ds, _, _, h => h.addPaths dir ds
  | .addRules dir ds, _, _, h => h.addRules dir ds
  | .addChild path steps, _, _, h =>
    h.addChild (Compiled.stepAll steps (fresh_ofPath path) (compiled_ofPath path))
  | .exclude path steps, _, _, h =>
    h.exclude (Compiled.stepAll steps (fresh_ofPath path) (compiled_ofPath path))
  | .setLocales locales deep, _, _, h => h.setLocales locales deep
  | .filter place q, c, hc, h | .allLocales place, c, hc, h => by
    -- a question changes only what has been computed
    intro r hr
    rw [← allRules_bare, (step_spec _ hc).2] at hr
    exact h r (allRules_bare c ▸ hr)

theorem Compiled.stepAll : ∀ (ss : List Step) {c : ProjectConfig}, c.Fresh → c.Compiled →
    (stepAll ss c).Compiled
  | [], _, _, h => h
  | s :: ss, _, hc, h => Compiled.stepAll ss (step_spec s hc).1 (Compiled.step s hc h)

end

theorem Reachable.compiled (h : c.Reachable) : c.Compiled := by
  obtain ⟨path, steps, place, h⟩ := h
  exact (Compiled.stepAll steps (fresh_ofPath path) (compiled_ofPath path)).at? h

end ProjectConfig

end LocalePaths
