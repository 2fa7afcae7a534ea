import LocalePaths.Proofs.Filter.Decision
import LocalePaths.Proofs.NameMap

/-!
# What has been computed before

A configuration is fresh if the lists of locales and the filter caches in it are what would be computed
from its declarations now (`ProjectConfig.Fresh`). Then a query is answered as if nothing had been
computed before (`resolve_spec`): `ProjectConfig.answer` gives the answer from the declarations alone.
The query changes nothing but what has been computed (`ProjectConfig.bare`), and keeps it fresh.
-/

namespace LocalePaths

namespace Settings
variable {s : Settings} {all : List Text} {q : FilterQuery}

/-- What has been computed from the settings is what would be computed now, where `all` are all
locales. -/
structure Fresh (s : Settings) (all : List Text) : Prop where
  known : ∀ ls, s.knownLocales = some ls → ls = all
  caches : ∀ e ∈ s.caches, e.2.uncompiled = (FilterCache.build e.1 s.groups s.rules).value

theorem fresh_invalidate (s : Settings) (all : List Text) : s.invalidate.Fresh all := ⟨nofun, nofun⟩

theorem Fresh.cacheFor (h : s.Fresh all) (locale : Text) :
    (s.cacheFor locale).value.uncompiled = (FilterCache.build locale s.groups s.rules).value := by
  unfold Settings.cacheFor
  cases hf : NameMap.find locale s.caches with
  | some cache => exact h.caches _ (NameMap.mem_of_find hf)
  | none =>
    rw [FilterCache.value_build]
    simp [FilterCache.uncompiled, Function.comp_def, FilterRule.uncompiled, FilterRule.localized,
      Matcher.uncompiled, PathGroup.localized, Matcher.withEnv]

/-- Deciding answers by the declarations and keeps a cache that is fresh. -/
theorem Fresh.decide (h : s.Fresh all) : (s.decide q).value.1 = s.declaredAction q ∧
    (s.decide q).value.2.Fresh all ∧ (s.decide q).value.2.invalidate = s.invalidate := by
  have cache := h.cacheFor q.locale
  refine ⟨FilterCache.decide_eq_declaredAction cache, ⟨h.known, ?_⟩, rfl⟩
  refine List.forall_mem_cons.2 ⟨?_, fun e he => h.caches e (List.mem_filter.1 he).1⟩
  exact (FilterCache.value_decide ..).2.trans cache

theorem declaredAction_congr {s s' : Settings} (h : s.invalidate = s'.invalidate) :
    s.declaredAction q = s'.declaredAction q := by
  have : s.invalidate.declaredAction q = s'.invalidate.declaredAction q := by rw [h]
  exact this

end Settings

namespace ProjectConfig

mutual

/-- The configuration before anything has been computed. -/
def bare : ProjectConfig → ProjectConfig
  | node own includes excludes => node own.invalidate (bareAll includes) (bareAll excludes)

def bareAll : List ProjectConfig → List ProjectConfig
  | [] => []
  | c :: cs => bare c :: bareAll cs

end

mutual

/-- What has been computed is what would be computed now, on the configuration and on all that it
includes or excludes. -/
def Fresh : ProjectConfig → Prop
  | node own includes excludes => own.Fresh (node own includes excludes).declaredLocales ∧
    FreshAll includes ∧ FreshAll excludes

def FreshAll : List ProjectConfig → Prop
  | [] => True
  | c :: cs => c.Fresh ∧ FreshAll cs

end

mutual

/-- The action that a configuration has for a query, from its declarations alone. -/
def answer (gated : Bool) (q : FilterQuery) :
    ProjectConfig → Except FilterError (Option FilterAction)
  | node own includes excludes => do
    if gated && !(node own includes excludes).declaredLocales.contains q.locale then return none
    if ← answerExcludes { q with entity := none } excludes then return some .error
    let below ← answerIncludes q none includes
    return strongest below (← own.declaredAction q)

def answerExcludes (q : FilterQuery) : List ProjectConfig → Except FilterError Bool
  | [] => return false
  | c :: cs => do
    if (← answer true q c) = some .error then return true
    answerExcludes q cs

def answerIncludes (q : FilterQuery) (above : Option FilterAction) :
    List ProjectConfig → Except FilterError (Option FilterAction)
  | [] => return above
  | c :: cs => do answerIncludes q (strongest above (← answer false q c)) cs

end

mutual

theorem configs_bare : ∀ c : ProjectConfig, c.bare.configs = c.configs.map bare
  | node _ includes _ => congrArg (_ :: ·) (configsOf_bareAll includes)

theorem configsOf_bareAll : ∀ cs : List ProjectConfig,
    configsOf (bareAll cs) = (configsOf cs).map bare
  | [] => rfl
  | c :: cs => by
    simp only [bareAll, configsOf, List.map_append, configs_bare c, configsOf_bareAll cs]

end

theorem declaredLocales_node (own : Settings) (includes excludes : List ProjectConfig) :
    (node own includes excludes).declaredLocales = sortedSet
      (own.declaredLocales ++ (configsOf includes).flatMap fun d => d.own.declaredLocales) := rfl

theorem flatMap_configsOf_bareAll (cs : List ProjectConfig) :
    (configsOf (bareAll cs)).flatMap (fun d => d.own.declaredLocales) =
      (configsOf cs).flatMap fun d => d.own.declaredLocales := by
  rw [configsOf_bareAll, List.flatMap_map]
  congr 1
  funext d
  cases d
  rfl

theorem declaredLocales_congr {own own' : Settings} {includes includes' : List ProjectConfig}
    (excludes excludes' : List ProjectConfig) (ho : own'.invalidate = own.invalidate)
    (hi : bareAll includes' = bareAll includes) :
    (node own' includes' excludes').declaredLocales = (node own includes excludes).declaredLocales := by
  have ho : own'.invalidate.declaredLocales = own.invalidate.declaredLocales :=
    congrArg Settings.declaredLocales ho
  have ho : own'.declaredLocales = own.declaredLocales := ho
  rw [declaredLocales_node, declaredLocales_node, ho, ← flatMap_configsOf_bareAll includes', hi,
    flatMap_configsOf_bareAll]

theorem Fresh.allLocales {c : ProjectConfig} (h : c.Fresh) : c.allLocales = c.declaredLocales := by
  obtain ⟨own, includes, excludes⟩ := c
  show own.knownLocales.getD _ = _
  cases hk : own.knownLocales with
  | none => rfl
  | some ls => exact h.1.known ls hk

/-- A configuration stays fresh when something is computed on it and on its parts. -/
theorem compute_fresh {own own' : Settings} {includes includes' excludes excludes' : List ProjectConfig}
    (h : own'.Fresh (node own includes excludes).declaredLocales) (ho : own'.invalidate = own.invalidate)
    (hi : FreshAll includes' ∧ bareAll includes' = bareAll includes)
    (he : FreshAll excludes' ∧ bareAll excludes' = bareAll excludes) :
    (node own' includes' excludes').Fresh ∧
      (node own' includes' excludes').bare = (node own includes excludes).bare := by
  refine ⟨⟨?_, hi.1, he.1⟩, ?_⟩
  · rwa [declaredLocales_congr excludes excludes' ho hi.2]
  · simp only [bare, ho, hi.2, he.2]

def learned (gated : Bool) (c : ProjectConfig) : Settings :=
  if gated then { c.own with knownLocales := some c.allLocales } else c.own

theorem value_resolve (gated : Bool) (q : FilterQuery) (own : Settings)
    (includes excludes : List ProjectConfig) :
    (resolve gated q (node own includes excludes)).value =
      let own' := learned gated (node own includes excludes)
      if gated && !(node own includes excludes).allLocales.contains q.locale then
        (.ok none, node own' includes excludes)
      else
        match (resolveExcludes { q with entity := none } excludes).value with
        | (.error e, excludes) => (.error e, node own' includes excludes)
        | (.ok true, excludes) => (.ok (some .error), node own' includes excludes)
        | (.ok false, excludes) =>
          match (resolveIncludes q none includes).value with
          | (.error e, includes) => (.error e, node own' includes excludes)
          | (.ok below, includes) =>
            ((own'.decide q).value.1.map (strongest below),
              node (own'.decide q).value.2 includes excludes) := by
  unfold resolve learned
  simp only [ProjectConfig.own]
  split
  · rfl
  · simp only [Traced.value_bind]
    rcases (resolveExcludes { q with entity := none } excludes).value with ⟨e | hit, excludes'⟩
    · rfl
    · cases hit with
      | true => rfl
      | false =>
        simp only [Traced.value_bind]
        rcases (resolveIncludes q none includes).value with ⟨e | below, includes'⟩ <;> rfl

theorem learned_spec (gated : Bool) {c : ProjectConfig} (h : c.Fresh) :
    (learned gated c).Fresh c.declaredLocales ∧ (learned gated c).invalidate = c.own.invalidate := by
  have all := h.allLocales
  obtain ⟨own, includes, excludes⟩ := c
  unfold learned
  split
  · exact ⟨⟨fun ls hl => all ▸ (Option.some.inj hl).symm, h.1.caches⟩, rfl⟩
  · exact ⟨h.1, rfl⟩

mutual

/-- A query of a fresh configuration is answered by the declarations alone; it keeps the configuration
fresh and its declarations as they are. -/
theorem resolve_spec (gated : Bool) (q : FilterQuery) : ∀ c : ProjectConfig, c.Fresh →
    (resolve gated q c).value.1 = answer gated q c ∧
      (resolve gated q c).value.2.Fresh ∧ (resolve gated q c).value.2.bare = c.bare
  | node own includes excludes, ⟨ho, hi, he⟩ => by
    obtain ⟨ae, ke⟩ := resolveExcludes_spec { q with entity := none } excludes he
    obtain ⟨ai, ki⟩ := resolveIncludes_spec q none includes hi
    have fresh : (node own includes excludes).Fresh := ⟨ho, hi, he⟩
    obtain ⟨ho', bo⟩ := learned_spec gated fresh
    obtain ⟨decided, ho'', bo'⟩ := ho'.decide (q := q)
    have same : (learned gated (node own includes excludes)).declaredAction q = own.declaredAction q :=
      Settings.declaredAction_congr bo
    rw [value_resolve, answer, fresh.allLocales, ← ae]
    generalize learned gated (node own includes excludes) = own' at *
    generalize (resolveExcludes { q with entity := none } excludes).value = x at ke ⊢
    generalize hy : (resolveIncludes q none includes).value = y at ai ki ⊢
    obtain ⟨hit, excludes'⟩ := x
    obtain ⟨below, includes'⟩ := y
    -- the query ends at the gate, at the excludes, at a failing include, or at the settings
    split
    · exact ⟨rfl, compute_fresh ho' bo ⟨hi, rfl⟩ ⟨he, rfl⟩⟩
    · cases hit with
      | error e => exact ⟨rfl, compute_fresh ho' bo ⟨hi, rfl⟩ ke⟩
      | ok hit =>
        cases hit with
        | true => exact ⟨rfl, compute_fresh ho' bo ⟨hi, rfl⟩ ke⟩
        | false =>
          simp only
          rw [← ai]
          cases below with
          | error e => exact ⟨rfl, compute_fresh ho' bo ki ke⟩
          | ok below =>
            refine ⟨?_, compute_fresh ho'' (bo'.trans bo) ki ke⟩
            show Except.map _ (own'.decide q).value.1 = _
            rw [decided, same]
            cases own.declaredAction q <;> rfl

theorem resolveExcludes_spec (q : FilterQuery) : ∀ cs : List ProjectConfig, FreshAll cs →
    (resolveExcludes q cs).value.1 = answerExcludes q cs ∧
      FreshAll (resolveExcludes q cs).value.2 ∧ bareAll (resolveExcludes q cs).value.2 = bareAll cs
  | [], _ => ⟨rfl, trivial, rfl⟩
  | c :: cs, ⟨hc, hcs⟩ => by
    obtain ⟨a, f, b⟩ := resolve_spec true q c hc
    obtain ⟨as, fs, bs⟩ := resolveExcludes_spec q cs hcs
    unfold resolveExcludes answerExcludes
    simp only [Traced.value_bind]
    rw [← a]
    have stop : FreshAll ((resolve true q c).value.2 :: cs) ∧
        bareAll ((resolve true q c).value.2 :: cs) = bareAll (c :: cs) :=
      ⟨⟨f, hcs⟩, congrArg (· :: bareAll cs) b⟩
    have go : FreshAll ((resolve true q c).value.2 :: (resolveExcludes q cs).value.2) ∧
        bareAll ((resolve true q c).value.2 :: (resolveExcludes q cs).value.2) = bareAll (c :: cs) :=
      ⟨⟨f, fs⟩, congrArg₂ (· :: ·) b bs⟩
    rcases (resolve true q c).value.1 with e | _ | action
    · exact ⟨rfl, stop⟩
    · exact ⟨as, go⟩
    · cases action with
      | error => exact ⟨rfl, stop⟩
      | warning | ignore => exact ⟨as, go⟩

theorem resolveIncludes_spec (q : FilterQuery) (above : Option FilterAction) :
    ∀ cs : List ProjectConfig, FreshAll cs →
      (resolveIncludes q above cs).value.1 = answerIncludes q above cs ∧
        FreshAll (resolveIncludes q above cs).value.2 ∧
          bareAll (resolveIncludes q above cs).value.2 = bareAll cs
  | [], _ => ⟨rfl, trivial, rfl⟩
  | c :: cs, ⟨hc, hcs⟩ => by
    obtain ⟨a, f, b⟩ := resolve_spec false q c hc
    have later := fun above => resolveIncludes_spec q above cs hcs
    unfold resolveIncludes answerIncludes
    simp only [Traced.value_bind]
    rw [← a]
    cases h : (resolve false q c).value.1 with
    | error e => exact ⟨rfl, ⟨f, hcs⟩, congrArg (· :: _) b⟩
    | ok action =>
      obtain ⟨as, fs, bs⟩ := later (strongest above action)
      exact ⟨as, ⟨f, fs⟩, congrArg₂ (· :: ·) b bs⟩

end

theorem declaredLocales_bare (c : ProjectConfig) : c.bare.declaredLocales = c.declaredLocales := by
  obtain ⟨own, includes, excludes⟩ := c
  rw [bare, declaredLocales_node, flatMap_configsOf_bareAll]
  rfl

mutual

theorem answer_bare (gated : Bool) (q : FilterQuery) :
    ∀ c : ProjectConfig, answer gated q c.bare = answer gated q c
  | node own includes excludes => by
    have locales := declaredLocales_bare (node own includes excludes)
    rw [bare] at locales ⊢
    simp only [answer, locales, answerExcludes_bare, answerIncludes_bare]
    rfl

theorem answerExcludes_bare (q : FilterQuery) :
    ∀ cs : List ProjectConfig, answerExcludes q (bareAll cs) = answerExcludes q cs
  | [] => rfl
  | c :: cs => by simp only [bareAll, answerExcludes, answer_bare true q c, answerExcludes_bare q cs]

theorem answerIncludes_bare (q : FilterQuery) (above : Option FilterAction) :
    ∀ cs : List ProjectConfig, answerIncludes q above (bareAll cs) = answerIncludes q above cs
  | [] => rfl
  | c :: cs => by simp only [bareAll, answerIncludes, answer_bare false q c, answerIncludes_bare q _ cs]

end

theorem value_filter {c : ProjectConfig} (h : c.Fresh) (q : FilterQuery) :
    (c.filter q).value.1 = (answer true q c).map (·.getD .ignore) := by
  have := (resolve_spec true q c h).1
  unfold filter conclude
  simp only [Traced.value_bind, this]
  cases answer true q c <;> rfl

end ProjectConfig

end LocalePaths
