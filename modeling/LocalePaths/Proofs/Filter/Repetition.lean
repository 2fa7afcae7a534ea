import LocalePaths.Proofs.Filter.Corresponds
import LocalePaths.Proofs.Filter.Flat
import LocalePaths.Proofs.Filter.Reports

/-!
# Repeated questions

What has been computed is kept: a query only adds to it (`ProjectConfig.Advances`), and whatever has been
added since, the same query computes nothing any more (`quiet_resolve`). So a question that is asked again
has the same answer, and neither builds a cache nor compiles an expression, and in all questions together no
configuration builds a cache twice (`askAll_memoized`).
-/

namespace LocalePaths

/-- Whether the event reports that something is computed that is kept. -/
def Event.isWork : Event → Bool
  | cacheBuilt .. | regexCompiled .. => true
  | _ => false

namespace Traced
variable {α β : Type} {a : α} {t : Traced α} {f : α → Traced β}

/-- Nothing is computed on the way that is kept. -/
def Quiet (t : Traced α) : Prop := ∀ e ∈ t.events, e.isWork = false

@[simp] theorem quiet_pure : (pure a : Traced α).Quiet := nofun

@[simp] theorem quiet_bind : (t >>= f).Quiet ↔ t.Quiet ∧ (f t.value).Quiet := List.forall_mem_append

@[simp] theorem quiet_report {e : Event} : (report e).Quiet ↔ e.isWork = false :=
  List.forall_mem_singleton

end Traced

section
variable {path : Text} {entity : Option Text}

namespace Matcher
variable {m n : Matcher}

/-- The matchers are the same, and the second one is compiled if the first one is. -/
structure Advances (m n : Matcher) : Prop where
  same : m.uncompiled = n.uncompiled
  compiled : m.compiled → n.compiled

theorem Advances.refl (m : Matcher) : m.Advances m := ⟨rfl, id⟩

theorem Advances.trans {o : Matcher} (h : m.Advances n) (h' : n.Advances o) : m.Advances o :=
  ⟨h.same.trans h'.same, h'.compiled ∘ h.compiled⟩

theorem Advances.isMatch (h : m.Advances n) (path : Text) : n.isMatch path = m.isMatch path := by
  rw [← isMatch_uncompiled, ← h.same, isMatch_uncompiled]

theorem advances_tracedIsMatch (m : Matcher) (path : Text) : m.Advances (m.tracedIsMatch path).value.2 :=
  ⟨rfl, fun _ => rfl⟩

theorem quiet_reportMatch {α : Type} (m : Matcher) (matched : α → Bool) (answer : Except PatternError α) :
    (m.reportMatch path matched answer).Quiet := by
  cases answer with
  | error e => exact Traced.quiet_pure
  | ok a => exact Traced.quiet_report.2 rfl

theorem quiet_tracedIsMatch (h : (m.tracedIsMatch path).value.2.Advances n) :
    (n.tracedIsMatch path).Quiet := by
  have compiled : n.compiled = true := h.compiled rfl
  have ready : n.ensureCompiled.Quiet := by simp [ensureCompiled, compiled, Traced.Quiet]
  exact Traced.quiet_bind.2 ⟨ready, Traced.quiet_bind.2 ⟨quiet_reportMatch _ _ _, Traced.quiet_pure⟩⟩

end Matcher

namespace FilterRule
variable {r s : FilterRule}

/-- The rules are the same, and the path of the second one is compiled if that of the first one is. -/
structure Advances (r s : FilterRule) : Prop where
  path : r.path.Advances s.path
  key : r.key = s.key
  action : r.action = s.action

theorem Advances.refl (r : FilterRule) : r.Advances r := ⟨.refl _, rfl, rfl⟩

theorem Advances.trans {t : FilterRule} (h : r.Advances s) (h' : s.Advances t) : r.Advances t :=
  ⟨h.path.trans h'.path, h.key.trans h'.key, h.action.trans h'.action⟩

theorem Advances.selects (h : r.Advances s) (entity : Option Text) : s.selects entity = r.selects entity := by
  unfold FilterRule.selects
  rw [h.key]

theorem Advances.isAbout (h : r.Advances s) (path : Text) (entity : Option Text) :
    s.isAbout path entity = r.isAbout path entity := by
  unfold FilterRule.isAbout
  rw [h.selects, h.path.isMatch]

theorem advances_applies (r : FilterRule) (path : Text) (entity : Option Text) :
    r.Advances (r.applies path entity).value.2 := by
  unfold applies
  rcases r.selects entity with e | _ | _
  · exact .refl r
  · exact .refl r
  · exact ⟨r.path.advances_tracedIsMatch path, rfl, rfl⟩

theorem quiet_applies (h : (r.applies path entity).value.2.Advances s) : (s.applies path entity).Quiet := by
  have selects := ((r.advances_applies path entity).trans h).selects entity
  unfold applies at h ⊢
  rw [selects]
  cases selected : r.selects entity with
  | error e => exact Traced.quiet_pure
  | ok selected' =>
    rw [selected] at h
    cases selected' with
    | false => exact Traced.quiet_pure
    | true => exact Traced.quiet_bind.2 ⟨Matcher.quiet_tracedIsMatch h.path, Traced.quiet_pure⟩

end FilterRule

namespace FilterCache
variable {c d : FilterCache} {ms ns : List Matcher} {rs ss : List FilterRule}

/-- The caches are the same, and in the second one everything is compiled that is in the first one. -/
structure Advances (c d : FilterCache) : Prop where
  paths : List.Forall₂ Matcher.Advances c.paths d.paths
  rules : List.Forall₂ FilterRule.Advances c.rules d.rules

theorem advances_paths (ms : List Matcher) : List.Forall₂ Matcher.Advances ms ms :=
  List.forall₂_same.2 fun m _ => .refl m

theorem advances_rules (rs : List FilterRule) : List.Forall₂ FilterRule.Advances rs rs :=
  List.forall₂_same.2 fun r _ => .refl r

theorem Advances.refl (c : FilterCache) : c.Advances c := ⟨advances_paths _, advances_rules _⟩

theorem forall₂_trans {α : Type} {R : α → α → Prop} (trans : ∀ {a b c}, R a b → R b c → R a c)
    {as bs cs : List α} (h : List.Forall₂ R as bs) (h' : List.Forall₂ R bs cs) : List.Forall₂ R as cs := by
  induction h generalizing cs with
  | nil => exact h'
  | cons first _ ih =>
    cases h' with
    | cons first' later' => exact .cons (trans first first') (ih later')

theorem Advances.trans {e : FilterCache} (h : c.Advances d) (h' : d.Advances e) : c.Advances e :=
  ⟨forall₂_trans .trans h.paths h'.paths, forall₂_trans .trans h.rules h'.rules⟩

theorem advances_anyMatch (path : Text) : ∀ ms : List Matcher,
    List.Forall₂ Matcher.Advances ms (anyMatch path ms).value.2
  | [] => .nil
  | m :: ms => by
    have first := m.advances_tracedIsMatch path
    unfold anyMatch
    simp only [Traced.value_bind]
    rcases (m.tracedIsMatch path).value.1 with e | _ | _
    · exact .cons first (advances_paths ms)
    · exact .cons first (advances_anyMatch path ms)
    · exact .cons first (advances_paths ms)

theorem anyMatch_of_advances (h : List.Forall₂ Matcher.Advances ms ns) :
    (anyMatch path ns).value.1 = (anyMatch path ms).value.1 := by
  rw [(value_anyMatch ..).1, (value_anyMatch ..).1]
  induction h with
  | nil => rfl
  | cons first _ ih => simp only [List.anyM, first.isMatch, ih]

theorem quiet_anyMatch_cons {m n : Matcher} (first : (m.tracedIsMatch path).value.2.Advances n)
    (later : m.isMatch path = .ok false → (anyMatch path ns).Quiet) : (anyMatch path (n :: ns)).Quiet := by
  have same : n.isMatch path = m.isMatch path := ((m.advances_tracedIsMatch path).trans first).isMatch path
  unfold anyMatch
  refine Traced.quiet_bind.2 ⟨Matcher.quiet_tracedIsMatch first, ?_⟩
  rw [Matcher.value_tracedIsMatch, same]
  cases answer : m.isMatch path with
  | error e => exact Traced.quiet_pure
  | ok found =>
    cases found with
    | false => exact Traced.quiet_bind.2 ⟨later answer, Traced.quiet_pure⟩
    | true => exact Traced.quiet_pure

/-- Where a path has been looked for, nothing is compiled when it is looked for again. -/
theorem quiet_anyMatch : ∀ {ms ns : List Matcher},
    List.Forall₂ Matcher.Advances (anyMatch path ms).value.2 ns → (anyMatch path ns).Quiet
  | [], _, .nil => Traced.quiet_pure
  | m :: ms, ns, h => by
    unfold anyMatch at h
    simp only [Traced.value_bind, Matcher.value_tracedIsMatch] at h
    rcases answer : m.isMatch path with e | _ | _ <;> rw [answer] at h <;>
      obtain _ | ⟨first, later⟩ := h
    · exact quiet_anyMatch_cons first fun e => by simp [answer] at e
    · exact quiet_anyMatch_cons first fun _ => quiet_anyMatch later
    · exact quiet_anyMatch_cons first fun e => by simp [answer] at e

theorem advances_firstApplying (path : Text) (entity : Option Text) : ∀ rs : List FilterRule,
    List.Forall₂ FilterRule.Advances rs (firstApplying path entity rs).value.2
  | [] => .nil
  | r :: rs => by
    have first := r.advances_applies path entity
    unfold firstApplying
    simp only [Traced.value_bind]
    rcases (r.applies path entity).value.1 with e | _ | _
    · exact .cons first (advances_rules rs)
    · exact .cons first (advances_firstApplying path entity rs)
    · exact .cons first (advances_rules rs)

theorem quiet_firstApplying_cons {r s : FilterRule} (first : (r.applies path entity).value.2.Advances s)
    (later : (r.applies path entity).value.1 = .ok false → (firstApplying path entity ss).Quiet) :
    (firstApplying path entity (s :: ss)).Quiet := by
  have same : (s.applies path entity).value.1 = (r.applies path entity).value.1 := by
    rw [(s.value_applies path entity).1, (r.value_applies path entity).1]
    exact ((r.advances_applies path entity).trans first).isAbout path entity
  unfold firstApplying
  simp only [Traced.quiet_bind]
  refine ⟨FilterRule.quiet_applies first, ?_⟩
  rw [same]
  cases answer : (r.applies path entity).value.1 with
  | error e => exact Traced.quiet_pure
  | ok applies =>
    refine Traced.quiet_bind.2 ⟨Traced.quiet_report.2 rfl, ?_⟩
    cases applies with
    | false => exact Traced.quiet_bind.2 ⟨later answer, Traced.quiet_pure⟩
    | true => exact Traced.quiet_pure

theorem quiet_firstApplying : ∀ {rs ss : List FilterRule},
    List.Forall₂ FilterRule.Advances (firstApplying path entity rs).value.2 ss →
      (firstApplying path entity ss).Quiet
  | [], _, .nil => Traced.quiet_pure
  | r :: rs, ss, h => by
    unfold firstApplying at h
    simp only [Traced.value_bind] at h
    rcases answer : (r.applies path entity).value.1 with e | _ | _ <;> rw [answer] at h <;>
      obtain _ | ⟨first, later⟩ := h
    · exact quiet_firstApplying_cons first fun e => by simp [answer] at e
    · exact quiet_firstApplying_cons first fun _ => quiet_firstApplying later
    · exact quiet_firstApplying_cons first fun e => by simp [answer] at e

theorem advances_decide (c : FilterCache) (path : Text) (entity : Option Text) :
    c.Advances (c.decide path entity).value.2 := by
  have paths := advances_anyMatch path c.paths
  unfold decide
  simp only [Traced.value_bind]
  rcases (anyMatch path c.paths).value.1 with e | _ | _
  · exact ⟨paths, advances_rules _⟩
  · exact ⟨paths, advances_rules _⟩
  · exact ⟨paths, advances_firstApplying path entity c.rules⟩

theorem quiet_decide (h : (c.decide path entity).value.2.Advances d) : (d.decide path entity).Quiet := by
  have covered : (anyMatch path d.paths).value.1 = (anyMatch path c.paths).value.1 :=
    anyMatch_of_advances ((c.advances_decide path entity).trans h).paths
  unfold decide at h ⊢
  simp only [Traced.value_bind] at h
  simp only [Traced.quiet_bind]
  rw [covered]
  rcases answer : (anyMatch path c.paths).value.1 with e | _ | _ <;> rw [answer] at h
  · exact ⟨quiet_anyMatch h.paths, Traced.quiet_pure⟩
  · exact ⟨quiet_anyMatch h.paths, Traced.quiet_pure⟩
  · exact ⟨quiet_anyMatch h.paths, Traced.quiet_bind.2 ⟨quiet_firstApplying h.rules, Traced.quiet_pure⟩⟩

end FilterCache

namespace Settings
variable {s t : Settings} {q : FilterQuery}

/-- The settings declare the same, and what has been computed from the first ones has been computed from the
second ones. -/
structure Advances (s t : Settings) : Prop where
  same : s.invalidate = t.invalidate
  caches : ∀ {locale cache}, NameMap.find locale s.caches = some cache →
    ∃ cache', NameMap.find locale t.caches = some cache' ∧ cache.Advances cache'

theorem Advances.refl (s : Settings) : s.Advances s := ⟨rfl, fun h => ⟨_, h, .refl _⟩⟩

theorem Advances.trans {u : Settings} (h : s.Advances t) (h' : t.Advances u) : s.Advances u := by
  refine ⟨h.same.trans h'.same, fun found => ?_⟩
  obtain ⟨cache', found', first⟩ := h.caches found
  obtain ⟨cache'', found'', later⟩ := h'.caches found'
  exact ⟨cache'', found'', first.trans later⟩

theorem advances_decide (s : Settings) (q : FilterQuery) : s.Advances (s.decide q).value.2 := by
  refine ⟨rfl, fun {locale cache} found => ?_⟩
  show ∃ cache', NameMap.find locale (s.keepCache q.locale _).caches = some cache' ∧ _
  rw [find_keepCache]
  by_cases asked : locale = q.locale
  · rw [if_pos asked]
    refine ⟨_, rfl, ?_⟩
    have cached : (s.cacheFor q.locale).value = cache := by
      simp [cacheFor, ← asked, found]
    rw [cached]
    exact cache.advances_decide q.path q.entity
  · rw [if_neg asked]
    exact ⟨cache, found, .refl cache⟩

theorem quiet_decide (h : (s.decide q).value.2.Advances t) : (t.decide q).Quiet := by
  have kept : NameMap.find q.locale (s.decide q).value.2.caches =
      some ((s.cacheFor q.locale).value.decide q.path q.entity).value.2 := by
    show NameMap.find q.locale (s.keepCache q.locale _).caches = _
    rw [find_keepCache, if_pos rfl]
    rfl
  obtain ⟨cache, found, advances⟩ := h.caches kept
  have cached : t.cacheFor q.locale = pure cache := by
    simp [cacheFor, found]
  unfold decide
  rw [cached]
  exact Traced.quiet_bind.2 ⟨Traced.quiet_pure,
    Traced.quiet_bind.2 ⟨FilterCache.quiet_decide advances, Traced.quiet_pure⟩⟩

end Settings

namespace ProjectConfig
variable {c d : ProjectConfig} {q : FilterQuery}

/-- The trees are the same, and what has been computed in the first one has been computed in the second
one. -/
def Advances (c d : ProjectConfig) : Prop := Corresponds Settings.Advances Settings.Advances c d

def AdvancesAll (cs ds : List ProjectConfig) : Prop :=
  CorrespondsAll Settings.Advances Settings.Advances cs ds

theorem Advances.refl (c : ProjectConfig) : c.Advances c := corresponds_refl .refl c

theorem advancesAll_refl (cs : List ProjectConfig) : AdvancesAll cs cs := correspondsAll_refl .refl cs

theorem Advances.trans {e : ProjectConfig} (h : c.Advances d) (h' : d.Advances e) : c.Advances e :=
  Corresponds.trans (fun _ _ _ => .trans) h h'

theorem Advances.bare (h : c.Advances d) : d.bare = c.bare := (Corresponds.bare (fun _ _ => (·.same)) h).symm

theorem advances_learned (gated : Bool) (c : ProjectConfig) : c.own.Advances (learned gated c) := by
  cases gated
  · exact .refl _
  · exact ⟨rfl, fun found => ⟨_, found, .refl _⟩⟩

mutual

/-- A query keeps what has been computed. -/
theorem advances_resolve (gated : Bool) (q : FilterQuery) : ∀ c : ProjectConfig,
    c.Advances (resolve gated q c).value.2
  | node own includes excludes => by
    have excluded := advances_resolveExcludes { q with entity := none } excludes
    have included := advances_resolveIncludes q none includes
    have known := advances_learned gated (node own includes excludes)
    have decided := known.trans (Settings.advances_decide _ q)
    rw [value_resolve]
    generalize learned gated (node own includes excludes) = own' at *
    generalize (resolveExcludes { q with entity := none } excludes).value = x at *
    generalize (resolveIncludes q none includes).value = y at *
    obtain ⟨hit, excludes'⟩ := x
    obtain ⟨below, includes'⟩ := y
    split
    · exact .node known (advancesAll_refl _) (advancesAll_refl _)
    · rcases hit with e | _ | _
      · exact .node known (advancesAll_refl _) excluded
      · cases below with
        | error e => exact .node known included excluded
        | ok below => exact .node decided included excluded
      · exact .node known (advancesAll_refl _) excluded

theorem advances_resolveExcludes (q : FilterQuery) : ∀ cs : List ProjectConfig,
    AdvancesAll cs (resolveExcludes q cs).value.2
  | [] => .nil
  | c :: cs => by
    have first := advances_resolve true q c
    have later := advances_resolveExcludes q cs
    unfold resolveExcludes
    simp only [Traced.value_bind]
    rcases (resolve true q c).value.1 with e | _ | action
    · exact .cons first (advancesAll_refl cs)
    · exact .cons first later
    · cases action with
      | error => exact .cons first (advancesAll_refl cs)
      | warning | ignore => exact .cons first later

theorem advances_resolveIncludes (q : FilterQuery) : ∀ (above : Option FilterAction)
    (cs : List ProjectConfig), AdvancesAll cs (resolveIncludes q above cs).value.2
  | _, [] => .nil
  | above, c :: cs => by
    have first := advances_resolve false q c
    have later := fun above => advances_resolveIncludes q above cs
    unfold resolveIncludes
    simp only [Traced.value_bind]
    cases (resolve false q c).value.1 with
    | error e => exact .cons first (advancesAll_refl cs)
    | ok action => exact .cons first (later _)

end

/-! ### Answers are repeated -/

theorem resolve_of_bare (gated : Bool) (q : FilterQuery) (hc : c.Fresh) (hd : d.Fresh)
    (same : d.bare = c.bare) : (resolve gated q d).value.1 = (resolve gated q c).value.1 := by
  rw [(resolve_spec gated q d hd).1, (resolve_spec gated q c hc).1, ← answer_bare, same, answer_bare]

theorem resolveExcludes_of_bare {cs ds : List ProjectConfig} (q : FilterQuery) (hc : FreshAll cs)
    (hd : FreshAll ds) (same : bareAll ds = bareAll cs) :
    (resolveExcludes q ds).value.1 = (resolveExcludes q cs).value.1 := by
  rw [(resolveExcludes_spec q ds hd).1, (resolveExcludes_spec q cs hc).1, ← answerExcludes_bare, same,
    answerExcludes_bare]

theorem resolveIncludes_of_bare {cs ds : List ProjectConfig} (q : FilterQuery)
    (above : Option FilterAction) (hc : FreshAll cs) (hd : FreshAll ds) (same : bareAll ds = bareAll cs) :
    (resolveIncludes q above ds).value.1 = (resolveIncludes q above cs).value.1 := by
  rw [(resolveIncludes_spec q above ds hd).1, (resolveIncludes_spec q above cs hc).1,
    ← answerIncludes_bare, same, answerIncludes_bare]

theorem allLocales_of_bare (hc : c.Fresh) (hd : d.Fresh) (same : d.bare = c.bare) :
    d.allLocales = c.allLocales := by
  rw [hd.allLocales, hc.allLocales, ← declaredLocales_bare d, same, declaredLocales_bare]

/-! ### Nothing is computed again -/

/-- A query computes nothing if the gate is closed, or if none of the parts that it comes to does. -/
theorem quiet_node {gated : Bool} {own : Settings} {includes excludes : List ProjectConfig}
    (excluded : (gated && !(node own includes excludes).allLocales.contains q.locale) = false →
      (resolveExcludes { q with entity := none } excludes).Quiet ∧
        ((resolveExcludes { q with entity := none } excludes).value.1 = .ok false →
          (resolveIncludes q none includes).Quiet ∧
            ∀ below, (resolveIncludes q none includes).value.1 = .ok below →
              ((learned gated (node own includes excludes)).decide q).Quiet)) :
    (resolve gated q (node own includes excludes)).Quiet := by
  unfold Traced.Quiet
  rw [events_resolve]
  split
  · exact nofun
  · rename_i opened
    obtain ⟨quiet, included⟩ := excluded (by simpa using opened)
    refine List.forall_mem_append.2 ⟨quiet, ?_⟩
    rcases hit : (resolveExcludes { q with entity := none } excludes).value.1 with e | _ | _
    · exact nofun
    · obtain ⟨quiet, decided⟩ := included hit
      refine List.forall_mem_append.2 ⟨quiet, ?_⟩
      cases below : (resolveIncludes q none includes).value.1 with
      | error e => exact nofun
      | ok action => exact decided action below
    · exact List.forall_mem_singleton.2 rfl

theorem quiet_conclude (q : FilterQuery) (answer : Except FilterError (Option FilterAction)) :
    (conclude q answer).Quiet := by
  cases answer with
  | error e => exact Traced.quiet_pure
  | ok action => exact Traced.quiet_bind.2 ⟨Traced.quiet_report.2 rfl, Traced.quiet_pure⟩

theorem quiet_resolveExcludes_cons {ds : List ProjectConfig} (first : (resolve true q d).Quiet)
    (later : ∀ a, (resolve true q d).value.1 = .ok a → a ≠ some .error → (resolveExcludes q ds).Quiet) :
    (resolveExcludes q (d :: ds)).Quiet := by
  unfold resolveExcludes
  simp only [Traced.quiet_bind]
  refine ⟨first, quiet_conclude _ _, ?_⟩
  rcases answer : (resolve true q d).value.1 with e | _ | action
  · exact Traced.quiet_pure
  · exact Traced.quiet_bind.2 ⟨later none answer nofun, Traced.quiet_pure⟩
  · cases action with
    | error => exact Traced.quiet_pure
    | warning | ignore => exact Traced.quiet_bind.2 ⟨later _ answer nofun, Traced.quiet_pure⟩

theorem quiet_resolveIncludes_cons {ds : List ProjectConfig} {above : Option FilterAction}
    (first : (resolve false q d).Quiet) (later : ∀ a, (resolve false q d).value.1 = .ok a →
      (resolveIncludes q (strongest above a) ds).Quiet) : (resolveIncludes q above (d :: ds)).Quiet := by
  unfold resolveIncludes
  simp only [Traced.quiet_bind]
  refine ⟨first, ?_⟩
  cases answer : (resolve false q d).value.1 with
  | error e => exact Traced.quiet_pure
  | ok a => exact Traced.quiet_bind.2 ⟨later a answer, Traced.quiet_pure⟩

mutual

/-- Where a query has been answered, it computes nothing when it is asked again. -/
theorem quiet_resolve (gated : Bool) (q : FilterQuery) : ∀ {c d : ProjectConfig}, c.Fresh → d.Fresh →
    (resolve gated q c).value.2.Advances d → (resolve gated q d).Quiet
  | node own includes excludes, node own' includes' excludes', hc, hd, h => by
    have same : (node own' includes' excludes').bare = (node own includes excludes).bare :=
      h.bare.trans (resolve_spec gated q _ hc).2.2
    have locales := allLocales_of_bare hc hd same
    obtain ⟨-, sameIncludes, sameExcludes⟩ := ProjectConfig.node.inj same
    have known := advances_learned gated (node own' includes' excludes')
    have excluded := quiet_resolveExcludes { q with entity := none } hc.2.2 hd.2.2
    have included := quiet_resolveIncludes q none hc.2.1 hd.2.1
    have hit := resolveExcludes_of_bare { q with entity := none } hc.2.2 hd.2.2 sameExcludes
    have below := resolveIncludes_of_bare q none hc.2.1 hd.2.1 sameIncludes
    refine quiet_node fun opened => ?_
    rw [locales] at opened
    rw [value_resolve] at h
    simp only [if_neg (Bool.eq_false_iff.1 opened)] at h
    rw [hit, below]
    generalize (resolveExcludes { q with entity := none } excludes).value = x at *
    generalize (resolveIncludes q none includes).value = y at *
    obtain ⟨found, rest⟩ := x
    obtain ⟨action, rest'⟩ := y
    -- the excludes have always been asked, the includes and the settings only if these find nothing
    rcases found with e | _ | _
    · cases h with
      | node _ _ excludes => exact ⟨excluded excludes, nofun⟩
    · cases action with
      | error e =>
        cases h with
        | node _ includes excludes => exact ⟨excluded excludes, fun _ => ⟨included includes, nofun⟩⟩
      | ok action =>
        cases h with
        | node own includes excludes =>
          exact ⟨excluded excludes, fun _ => ⟨included includes, fun _ _ =>
            Settings.quiet_decide (own.trans known)⟩⟩
    · cases h with
      | node _ _ excludes => exact ⟨excluded excludes, nofun⟩

theorem quiet_resolveExcludes (q : FilterQuery) : ∀ {cs ds : List ProjectConfig}, FreshAll cs →
    FreshAll ds → AdvancesAll (resolveExcludes q cs).value.2 ds → (resolveExcludes q ds).Quiet
  | [], _, _, _, .nil => Traced.quiet_pure
  | c :: cs, ds, hc, hd, h => by
    obtain ⟨rest, kept, asked⟩ := resolveExcludes_cons q c cs
    rw [kept] at h
    cases h with
    | cons first others =>
      have same := (Advances.bare first).trans (resolve_spec true q c hc.1).2.2
      refine quiet_resolveExcludes_cons (quiet_resolve true q hc.1 hd.1 first) fun a answer go => ?_
      rw [resolve_of_bare true q hc.1 hd.1 same] at answer
      rw [asked a answer go] at others
      exact quiet_resolveExcludes q hc.2 hd.2 others

theorem quiet_resolveIncludes (q : FilterQuery) : ∀ (above : Option FilterAction)
    {cs ds : List ProjectConfig}, FreshAll cs → FreshAll ds →
      AdvancesAll (resolveIncludes q above cs).value.2 ds → (resolveIncludes q above ds).Quiet
  | _, [], _, _, _, .nil => Traced.quiet_pure
  | above, c :: cs, ds, hc, hd, h => by
    obtain ⟨rest, kept, asked⟩ := resolveIncludes_cons q above c cs
    rw [kept] at h
    cases h with
    | cons first others =>
      have same := (Advances.bare first).trans (resolve_spec false q c hc.1).2.2
      refine quiet_resolveIncludes_cons (quiet_resolve false q hc.1 hd.1 first) fun a answer => ?_
      rw [resolve_of_bare false q hc.1 hd.1 same] at answer
      rw [asked a answer] at others
      exact quiet_resolveIncludes q _ hc.2 hd.2 others

end

/-! ### Questions one after another -/

theorem at?_modifyAt (f : ProjectConfig → ProjectConfig) : ∀ (place : List Part) (c : ProjectConfig),
    at? place (modifyAt f place c) = (at? place c).map f
  | [], _ => rfl
  | .included i :: place, node _ includes _ => by
    simp only [modifyAt, at?, List.getElem?_modify]
    cases includes[i]? with
    | none => rfl
    | some c => simpa using at?_modifyAt f place c
  | .excluded i :: place, node _ _ excludes => by
    simp only [modifyAt, at?, List.getElem?_modify]
    cases excludes[i]? with
    | none => rfl
    | some c => simpa using at?_modifyAt f place c

theorem ask_spec (a : Question) (hc : c.Fresh) :
    (ask a c).value.2.Fresh ∧ (ask a c).value.2.bare = c.bare :=
  modifyAt_spec (fun d hd => (resolve_spec true a.query d hd).2) a.place hc

theorem advances_ask (a : Question) (c : ProjectConfig) : c.Advances (ask a c).value.2 :=
  corresponds_modifyAt .refl (advances_resolve true a.query) a.place c

theorem value_ask (a : Question) (hc : c.Fresh) : (ask a c).value.1 =
    (at? a.place c.bare).map fun d => (answer true a.query d).map (·.getD .ignore) := by
  rw [at?_bare, Option.map_map]
  show (at? a.place c).map _ = _
  cases found : at? a.place c with
  | none => rfl
  | some d =>
    have bare := answer_bare true a.query d
    simp [value_filter (hc.at? found), bare]

theorem quiet_filter (q : FilterQuery) (hc : c.Fresh) (hd : d.Fresh)
    (h : (c.filter q).value.2.Advances d) : (d.filter q).Quiet :=
  Traced.quiet_bind.2 ⟨quiet_resolve true q hc hd h,
    Traced.quiet_bind.2 ⟨quiet_conclude _ _, Traced.quiet_pure⟩⟩

/-- The same question is answered in the same way, and nothing is computed for it. -/
theorem ask_again {a : Question} (hc : c.Fresh) (hd : d.Fresh) (h : (ask a c).value.2.Advances d) :
    (ask a d).value.1 = (ask a c).value.1 ∧ (ask a d).Quiet := by
  have same : d.bare = c.bare := h.bare.trans (ask_spec a hc).2
  refine ⟨by rw [value_ask a hd, same, value_ask a hc], ?_⟩
  have there : (at? a.place d).map bare = (at? a.place c).map bare := by
    rw [← at?_bare, same, at?_bare]
  show ∀ e ∈ ((at? a.place d).map fun d => (d.filter a.query).events).getD [], e.isWork = false
  cases found : at? a.place c with
  | none =>
    rw [found, Option.map_none, Option.map_eq_none_iff] at there
    rw [there]
    exact nofun
  | some e =>
    have after : at? a.place (ask a c).value.2 = some (e.filter a.query).value.2 :=
      (at?_modifyAt ..).trans (by rw [found, Option.map_some])
    obtain ⟨e', found', advances⟩ := Corresponds.at? h after
    rw [found']
    exact quiet_filter a.query (hc.at? found) (hd.at? found') advances

theorem askAll_spec (asked : List Question) (hc : c.Fresh) :
    (askAll asked c).value.2.Fresh ∧ c.Advances (askAll asked c).value.2 := by
  induction asked generalizing c with
  | nil => exact ⟨hc, .refl c⟩
  | cons a as ih =>
    obtain ⟨fresh, later⟩ := ih (ask_spec a hc).1
    exact ⟨fresh, (advances_ask a c).trans later⟩

theorem ask_after_askAll {asked : List Question} {a : Question} {i : Nat} (hc : c.Fresh)
    (h : asked[i]? = some a) :
    (askAll asked c).value.1[i]? = some (ask a (askAll asked c).value.2).value.1 ∧
      (ask a (askAll asked c).value.2).Quiet := by
  induction asked generalizing c i with
  | nil => cases h
  | cons first as ih =>
    have fresh := (ask_spec first hc).1
    cases i with
    | zero =>
      cases h
      obtain ⟨fresh', later⟩ := askAll_spec as fresh
      obtain ⟨same, quiet⟩ := ask_again hc fresh' later
      exact ⟨congrArg some same.symm, quiet⟩
    | succ i => exact ih fresh h

/-- In questions one after another no configuration builds a cache for a locale twice. A question that is
asked again has the same answer, and neither a cache is built nor an expression compiled for it. -/
theorem askAll_memoized (hc : c.Fresh) (asked : List Question) :
    ((reportsOfAll asked c).map Located.event = (askAll asked c).events ∧
      ∀ place locale, builds place locale (reportsOfAll asked c) ≤ 1) ∧
    ∀ (i : Nat) (a : Question), asked[i]? = some a →
      (askAll asked c).value.1[i]? = some (ask a (askAll asked c).value.2).value.1 ∧
        (ask a (askAll asked c).value.2).Quiet :=
  ⟨⟨event_reportsOfAll asked c, fun place _ => builds_reportsOfAll_le place asked c⟩,
    fun _ _ => ask_after_askAll hc⟩

def browserAsked : Question := ⟨[], "de".toList, "de/browser/a.ftl".toList, none⟩

/-- A file in an include, an entity in an excluded file, and the include itself. -/
def layersAsked : List Question :=
  [browserAsked, ⟨[], "de".toList, "de/browser/old/a.ftl".toList, some "title".toList⟩,
    ⟨[.included 0], "de".toList, "de/browser/b.ftl".toList, none⟩]

/-- The questions build a cache in each of the three configurations and compile four expressions; afterwards
the first one needs nothing. -/
theorem layers_askAll : layers.Fresh ∧ layersAsked[0]? = some browserAsked ∧
    (askAll layersAsked layers).events.countP Event.isWork = 7 ∧
    builds [.excluded 0] "de".toList (reportsOfAll layersAsked layers) = 1 ∧
    builds [.excluded 0] "de".toList (reportsOfAll layersAsked layers) ≤ 1 ∧
    (ask browserAsked (askAll layersAsked layers).value.2).value.1 = some (.ok .warning) ∧
    (ask browserAsked (askAll layersAsked layers).value.2).Quiet := by
  have reachable : layers.Reachable := ⟨_, _, [], rfl⟩
  have first : layersAsked[0]? = some browserAsked := rfl
  obtain ⟨⟨-, once⟩, again⟩ := askAll_memoized reachable.fresh layersAsked
  obtain ⟨same, quiet⟩ := again 0 browserAsked first
  refine ⟨reachable.fresh, first, by decide +kernel, by decide +kernel, once _ _, ?_, quiet⟩
  have answered : (askAll layersAsked layers).value.1[0]? = some (some (.ok .warning)) := by decide +kernel
  exact Option.some.inj (same.symm.trans answered)

end ProjectConfig

end

end LocalePaths
