import LocalePaths.Proofs.Filter.History

/-!
# Who reports what

The reports of a query do not say which configuration makes them. `ProjectConfig.reports` gives them
together with the places of the configurations, and without the places they are the reports of the query
(`event_reports`).

At every place a cache is built exactly when there is none yet: the caches for a locale that are built at a
place, and the one that is there before, make up the one that is there afterwards (`builds_reports`). So none
is built twice.
-/

namespace LocalePaths

/-- Whether an event reports that a cache for the locale is built. -/
def Event.buildsCache (locale : Text) : Event → Bool
  | cacheBuilt built _ _ => built = locale
  | _ => false

section
variable {locale path : Text} {entity : Option Text}

namespace Traced
variable {α β : Type}

/-- How many caches for a locale are built on the way. -/
def builds (locale : Text) (t : Traced α) : Nat := t.events.countP (Event.buildsCache locale)

@[simp] theorem builds_pure (a : α) : (pure a : Traced α).builds locale = 0 := rfl

@[simp] theorem builds_bind (t : Traced α) (f : α → Traced β) :
    (t >>= f).builds locale = t.builds locale + (f t.value).builds locale := List.countP_append

@[simp] theorem builds_map (f : α → β) (t : Traced α) : (f <$> t).builds locale = t.builds locale :=
  congrArg (List.countP _) (events_map f t)

@[simp] theorem builds_compile (source : Text) : (Pattern.compile source).builds locale = 0 := rfl

@[simp] theorem builds_ruleEvaluate (pattern : Text) (applies : Bool) :
    (report (.ruleEvaluate path pattern applies)).builds locale = 0 := rfl

@[simp] theorem builds_cacheBuilt (built : Text) (paths rules : Nat) :
    (report (.cacheBuilt built paths rules)).builds locale = if built = locale then 1 else 0 := by
  simp [builds, report, Event.buildsCache]

@[simp] theorem builds_tracedIsMatch (m : Matcher) : (m.tracedIsMatch path).builds locale = 0 := by
  unfold Matcher.tracedIsMatch Matcher.ensureCompiled Matcher.reportMatch
  cases h : m.compiled <;> cases h' : Matcher.isMatch { m with compiled := true } path <;>
    simp [builds, report, Event.buildsCache, h']

end Traced

namespace FilterRule

@[simp] theorem builds_withLocale (r : FilterRule) (bound : Text) :
    (r.withLocale bound).builds locale = 0 := rfl

@[simp] theorem builds_applies (r : FilterRule) : (r.applies path entity).builds locale = 0 := by
  unfold applies
  rcases r.selects entity with e | _ | _ <;> simp

end FilterRule

namespace FilterCache

@[simp] theorem builds_anyMatch : ∀ ms : List Matcher, (anyMatch path ms).builds locale = 0
  | [] => rfl
  | m :: ms => by
    unfold anyMatch
    simp only [Traced.builds_bind, Traced.builds_tracedIsMatch]
    rcases (m.tracedIsMatch path).value.1 with e | _ | _ <;> simp [builds_anyMatch ms]

@[simp] theorem builds_firstApplying : ∀ rs : List FilterRule,
    (firstApplying path entity rs).builds locale = 0
  | [] => rfl
  | r :: rs => by
    unfold firstApplying
    simp only [Traced.builds_bind, FilterRule.builds_applies]
    rcases (r.applies path entity).value.1 with e | _ | _ <;> simp [builds_firstApplying rs]

@[simp] theorem builds_decide (c : FilterCache) : (c.decide path entity).builds locale = 0 := by
  unfold decide
  simp only [Traced.builds_bind, builds_anyMatch]
  rcases (anyMatch path c.paths).value.1 with e | _ | _ <;> simp

@[simp] theorem builds_bindAll (bound : Text) : ∀ ms : List Matcher,
    (bindAll bound ms).builds locale = 0
  | [] => rfl
  | m :: ms => by simp [bindAll, builds_bindAll bound ms]

@[simp] theorem builds_bindRules (bound : Text) : ∀ rs : List FilterRule,
    (bindRules bound rs).builds locale = 0
  | [] => rfl
  | r :: rs => by simp [bindRules, builds_bindRules bound rs]

theorem builds_build (bound : Text) (groups : List PathGroup) (rules : List FilterRule) :
    (build bound groups rules).builds locale = if bound = locale then 1 else 0 := by
  simp [build]

end FilterCache

namespace Settings
variable {s : Settings}

def hasCache (s : Settings) (locale : Text) : Bool := (NameMap.find locale s.caches).isSome

theorem find_keepCache (s : Settings) (kept : Text) (cache : FilterCache) :
    NameMap.find locale (s.keepCache kept cache).caches =
      if locale = kept then some cache else NameMap.find locale s.caches := by
  unfold keepCache
  rw [NameMap.find_cons]
  split
  · rfl
  · rename_i other
    exact NameMap.find_filter fun e _ same => by simpa [same] using other

/-- Deciding builds the cache of the query's locale if there is none, and keeps it. -/
theorem builds_decide (s : Settings) (q : FilterQuery) :
    (s.decide q).builds locale + (s.hasCache locale).toNat =
      ((s.decide q).value.2.hasCache locale).toNat := by
  have kept : (s.decide q).value.2.hasCache locale = (locale = q.locale || s.hasCache locale) := by
    show (NameMap.find locale (s.keepCache q.locale _).caches).isSome = _
    rw [find_keepCache]
    by_cases h : locale = q.locale <;> simp [h, hasCache]
  have built : (s.decide q).builds locale = (s.cacheFor q.locale).builds locale := by
    simp [Settings.decide]
  rw [kept, built]
  unfold cacheFor
  cases found : NameMap.find q.locale s.caches with
  | none =>
    rw [FilterCache.builds_build]
    by_cases h : locale = q.locale
    · simp [hasCache, h, found]
    · simp [h, Ne.symm h]
  | some cache =>
    by_cases h : locale = q.locale
    · simp [hasCache, h, found]
    · simp [h]

end Settings

namespace ProjectConfig

/-- A report with the place of the configuration that makes it. -/
structure Located where
  place : List Part
  event : Event

def Located.under (part : Part) (e : Located) : Located := { e with place := part :: e.place }

def here (es : List Event) : List Located := es.map (Located.mk [])

/-- The reports at parts that follow one another, from number `i` on. -/
def inParts (part : Nat → Part) : Nat → List (List Located) → List Located
  | _, [] => []
  | i, es :: ess => es.map (Located.under (part i)) ++ inParts part (i + 1) ess

mutual

/-- The reports of `resolve` with their places. -/
def reports (gated : Bool) (q : FilterQuery) : ProjectConfig → List Located
  | node own includes excludes =>
    if gated && !(node own includes excludes).allLocales.contains q.locale then []
    else
      inParts .excluded 0 (reportsOfExcludes { q with entity := none } excludes) ++
        match (resolveExcludes { q with entity := none } excludes).value.1 with
        | .error _ => []
        | .ok true => here [.excludeHit q.locale q.path]
        | .ok false =>
          inParts .included 0 (reportsOfIncludes q none includes) ++
            match (resolveIncludes q none includes).value.1 with
            | .error _ => []
            | .ok _ => here (own.decide q).events

/-- The reports of each of the excluded configurations that are asked. -/
def reportsOfExcludes (q : FilterQuery) : List ProjectConfig → List (List Located)
  | [] => []
  | c :: cs =>
    let answer := (resolve true q c).value.1
    (reports true q c ++ here (conclude q answer).events) ::
      match answer with
      | .error _ | .ok (some .error) => []
      | .ok _ => reportsOfExcludes q cs

/-- The reports of each of the included configurations that are asked. -/
def reportsOfIncludes (q : FilterQuery) (above : Option FilterAction) :
    List ProjectConfig → List (List Located)
  | [] => []
  | c :: cs =>
    reports false q c ::
      match (resolve false q c).value.1 with
      | .error _ => []
      | .ok action => reportsOfIncludes q (strongest above action) cs

end

theorem events_resolve (gated : Bool) (q : FilterQuery) (own : Settings)
    (includes excludes : List ProjectConfig) :
    (resolve gated q (node own includes excludes)).events =
      if gated && !(node own includes excludes).allLocales.contains q.locale then []
      else (resolveExcludes { q with entity := none } excludes).events ++
        match (resolveExcludes { q with entity := none } excludes).value.1 with
        | .error _ => []
        | .ok true => [.excludeHit q.locale q.path]
        | .ok false => (resolveIncludes q none includes).events ++
          match (resolveIncludes q none includes).value.1 with
          | .error _ => []
          | .ok _ => ((learned gated (node own includes excludes)).decide q).events := by
  unfold resolve learned
  simp only [ProjectConfig.own]
  split
  · rfl
  · simp only [Traced.events_bind]
    rcases (resolveExcludes { q with entity := none } excludes).value.1 with e | _ | _
    · simp
    · simp only [Traced.events_bind]
      cases (resolveIncludes q none includes).value.1 <;> simp
    · rfl

theorem event_here (es : List Event) : (here es).map Located.event = es := by
  simp [here, Function.comp_def]

theorem event_inParts (part : Nat → Part) : ∀ (i : Nat) (ess : List (List Located)),
    (inParts part i ess).map Located.event = ess.flatMap fun es => es.map Located.event
  | _, [] => rfl
  | i, es :: ess => by
    simp only [inParts, List.map_append, List.map_map, event_inParts part (i + 1) ess, List.flatMap_cons]
    rfl

mutual

theorem event_reports (gated : Bool) (q : FilterQuery) : ∀ c : ProjectConfig,
    (reports gated q c).map Located.event = (resolve gated q c).events
  | node own includes excludes => by
    have excluded := event_reportsOfExcludes { q with entity := none } excludes
    have included := event_reportsOfIncludes q none includes
    have decided : ((learned gated (node own includes excludes)).decide q).events =
        (own.decide q).events := by
      cases gated <;> rfl
    rw [reports, events_resolve]
    generalize (resolveExcludes { q with entity := none } excludes) = x at excluded ⊢
    generalize (resolveIncludes q none includes) = y at included ⊢
    split
    · rfl
    · rw [List.map_append, event_inParts, excluded]
      rcases x.value.1 with e | _ | _
      · rfl
      · rw [List.map_append, event_inParts, included]
        cases y.value.1 with
        | error e => rfl
        | ok below => rw [event_here, decided]
      · rfl

theorem event_reportsOfExcludes (q : FilterQuery) : ∀ cs : List ProjectConfig,
    (reportsOfExcludes q cs).flatMap (fun es => es.map Located.event) = (resolveExcludes q cs).events
  | [] => rfl
  | c :: cs => by
    unfold reportsOfExcludes resolveExcludes
    simp only [List.flatMap_cons, List.map_append, event_reports, event_here, Traced.events_bind,
      List.append_assoc]
    rcases (resolve true q c).value.1 with e | _ | action
    · simp [conclude]
    · simp [conclude, event_reportsOfExcludes q cs]
    · cases action <;> simp [conclude, event_reportsOfExcludes q cs]

theorem event_reportsOfIncludes (q : FilterQuery) (above : Option FilterAction) :
    ∀ cs : List ProjectConfig, (reportsOfIncludes q above cs).flatMap (fun es => es.map Located.event) =
      (resolveIncludes q above cs).events
  | [] => rfl
  | c :: cs => by
    unfold reportsOfIncludes resolveIncludes
    simp only [List.flatMap_cons, event_reports, Traced.events_bind]
    rcases (resolve false q c).value.1 with e | action
    · rfl
    · simp [event_reportsOfIncludes q _ cs]

end

/-! ### Caches are built once -/

/-- How many caches for a locale are built at a place. -/
def builds (place : List Part) (locale : Text) (es : List Located) : Nat :=
  es.countP fun e => e.place = place && e.event.buildsCache locale

/-- How many caches for a locale there are at a place: one or none. -/
def cachesAt (place : List Part) (locale : Text) (c : ProjectConfig) : Nat :=
  ((at? place c).any fun d => d.own.hasCache locale).toNat

section
variable {place : List Part} {part : Nat → Part} {es fs : List Located}

@[simp] theorem builds_nil : builds place locale [] = 0 := rfl

@[simp] theorem builds_append :
    builds place locale (es ++ fs) = builds place locale es + builds place locale fs := List.countP_append

@[simp] theorem builds_here (t : List Event) :
    builds [] locale (here t) = t.countP (Event.buildsCache locale) := by
  simp [builds, here, List.countP_map, Function.comp_def]

@[simp] theorem builds_here_cons (p : Part) (t : List Event) :
    builds (p :: place) locale (here t) = 0 := by
  simp [builds, here]

@[simp] theorem builds_under_nil (p : Part) : builds [] locale (es.map (.under p)) = 0 := by
  simp [builds, Located.under]

@[simp] theorem builds_under_cons (p p' : Part) : builds (p :: place) locale (es.map (.under p')) =
    if p' = p then builds place locale es else 0 := by
  by_cases h : p' = p <;> simp [builds, Located.under, List.countP_map, Function.comp_def, h]

@[simp] theorem builds_inParts_nil : ∀ (i : Nat) (ess : List (List Located)),
    builds [] locale (inParts part i ess) = 0
  | _, [] => rfl
  | i, es :: ess => by simp [inParts, builds_inParts_nil (i + 1) ess]

theorem builds_inParts_of_ne {p : Part} : ∀ (i : Nat) (ess : List (List Located)),
    (∀ k, part (i + k) ≠ p) → builds (p :: place) locale (inParts part i ess) = 0
  | _, [], _ => rfl
  | i, es :: ess, h => by
    have later : builds (p :: place) locale (inParts part (i + 1) ess) = 0 :=
      builds_inParts_of_ne (i + 1) ess fun k => by
        rw [Nat.add_right_comm]
        exact h (k + 1)
    have first : part i ≠ p := h 0
    rw [inParts, builds_append, builds_under_cons, if_neg first, later]

theorem builds_inParts_add (inj : ∀ {i j}, part i = part j → i = j) (i k : Nat) (ess : List (List Located)) :
    builds (part (i + k) :: place) locale (inParts part i ess) = builds place locale (ess[k]?.getD []) := by
  induction ess generalizing i k with
  | nil => rfl
  | cons es ess ih =>
    cases k with
    | zero =>
      have later : builds (part i :: place) locale (inParts part (i + 1) ess) = 0 :=
        builds_inParts_of_ne _ _ fun k e => by
          have := inj e
          omega
      simp [inParts, later]
    | succ k =>
      have other : part i ≠ part (i + (k + 1)) := fun e => by
        have := inj e
        omega
      have later := ih (i + 1) k
      rw [Nat.add_right_comm] at later
      simp [inParts, other, ← later, Nat.add_assoc]

theorem builds_inParts (inj : ∀ {i j}, part i = part j → i = j) (k : Nat) (ess : List (List Located)) :
    builds (part k :: place) locale (inParts part 0 ess) = builds place locale (ess[k]?.getD []) := by
  have h : builds (part (0 + k) :: place) locale (inParts part 0 ess) = _ := builds_inParts_add inj 0 k ess
  rwa [Nat.zero_add] at h

end

@[simp] theorem builds_conclude (place : List Part) (q : FilterQuery)
    (answer : Except FilterError (Option FilterAction)) :
    builds place locale (here (conclude q answer).events) = 0 := by
  cases place with
  | nil => cases answer <;> rfl
  | cons => exact builds_here_cons ..

/-- How many caches for a locale there are at a place of the configuration with a number. -/
def cachesOf (k : Nat) (place : List Part) (locale : Text) (cs : List ProjectConfig) : Nat :=
  (cs[k]?.map (cachesAt place locale)).getD 0

@[simp] theorem cachesAt_nil (own : Settings) (includes excludes : List ProjectConfig) :
    cachesAt [] locale (node own includes excludes) = (own.hasCache locale).toNat := rfl

@[simp] theorem cachesAt_included (k : Nat) (place : List Part) (own : Settings)
    (includes excludes : List ProjectConfig) : cachesAt (.included k :: place) locale
      (node own includes excludes) = cachesOf k place locale includes := by
  unfold cachesAt cachesOf at?
  cases includes[k]? <;> rfl

@[simp] theorem cachesAt_excluded (k : Nat) (place : List Part) (own : Settings)
    (includes excludes : List ProjectConfig) : cachesAt (.excluded k :: place) locale
      (node own includes excludes) = cachesOf k place locale excludes := by
  unfold cachesAt cachesOf at?
  cases excludes[k]? <;> rfl

/-- The first exclude is asked, and unless it fails or makes the file an error the others are. -/
theorem resolveExcludes_cons (q : FilterQuery) (c : ProjectConfig) (cs : List ProjectConfig) :
    ∃ rest, (resolveExcludes q (c :: cs)).value.2 = (resolve true q c).value.2 :: rest ∧
      ∀ a, (resolve true q c).value.1 = .ok a → a ≠ some .error →
        rest = (resolveExcludes q cs).value.2 := by
  rw [resolveExcludes]
  simp only [Traced.value_bind]
  rcases (resolve true q c).value.1 with e | _ | action
  · exact ⟨_, rfl, fun _ failed => by cases failed⟩
  · exact ⟨_, rfl, fun _ _ _ => rfl⟩
  · cases action with
    | error => exact ⟨_, rfl, fun _ answer go => absurd (Except.ok.inj answer).symm go⟩
    | warning | ignore => exact ⟨_, rfl, fun _ _ _ => rfl⟩

theorem resolveIncludes_cons (q : FilterQuery) (above : Option FilterAction) (c : ProjectConfig)
    (cs : List ProjectConfig) :
    ∃ rest, (resolveIncludes q above (c :: cs)).value.2 = (resolve false q c).value.2 :: rest ∧
      ∀ a, (resolve false q c).value.1 = .ok a →
        rest = (resolveIncludes q (strongest above a) cs).value.2 := by
  rw [resolveIncludes]
  simp only [Traced.value_bind]
  cases (resolve false q c).value.1 with
  | error e => exact ⟨_, rfl, fun _ failed => by cases failed⟩
  | ok a => exact ⟨_, rfl, fun _ answer => Except.ok.inj answer ▸ rfl⟩

mutual

/-- A cache that is there after a query has been there before, or the query has built it. -/
theorem builds_reports (gated : Bool) (q : FilterQuery) : ∀ (place : List Part) (c : ProjectConfig),
    builds place locale (reports gated q c) + cachesAt place locale c =
      cachesAt place locale (resolve gated q c).value.2
  | place, node own includes excludes => by
    have excluded := fun k rest => builds_reportsOfExcludes { q with entity := none } rest k excludes
    have included := fun k rest => builds_reportsOfIncludes q rest k none includes
    have known : (learned gated (node own includes excludes)).hasCache locale = own.hasCache locale := by
      cases gated <;> rfl
    have decided : (own.decide q).events.countP (Event.buildsCache locale) + (own.hasCache locale).toNat =
        (((learned gated (node own includes excludes)).decide q).value.2.hasCache locale).toNat := by
      cases gated <;> exact own.builds_decide q
    rw [reports, value_resolve]
    generalize learned gated (node own includes excludes) = own' at known decided ⊢
    generalize (resolveExcludes { q with entity := none } excludes).value = x at excluded ⊢
    generalize (resolveIncludes q none includes).value = y at included ⊢
    obtain ⟨hit, excludes'⟩ := x
    obtain ⟨below, includes'⟩ := y
    -- of the reports only those of one part are made at the place
    rcases place with _ | ⟨k | k, rest⟩
    · split
      · simp [known]
      · rcases hit with e | _ | _
        · simp [known]
        · cases below with
          | error e => simp [known]
          | ok below => simpa using decided
        · simp [known, Event.buildsCache]
    · have included := included k rest
      split
      · simp
      · rcases hit with e | _ | _
        · simp [builds_inParts_of_ne]
        · cases below <;> simpa [builds_inParts_of_ne, builds_inParts Part.included.inj] using included
        · simp [builds_inParts_of_ne]
    · have excluded := excluded k rest
      split
      · simp
      · rcases hit with e | _ | _
        · simpa [builds_inParts Part.excluded.inj] using excluded
        · cases below <;> simpa [builds_inParts_of_ne, builds_inParts Part.excluded.inj] using excluded
        · simpa [builds_inParts Part.excluded.inj] using excluded

theorem builds_reportsOfExcludes (q : FilterQuery) (place : List Part) :
    ∀ (k : Nat) (cs : List ProjectConfig),
      builds place locale ((reportsOfExcludes q cs)[k]?.getD []) + cachesOf k place locale cs =
        cachesOf k place locale (resolveExcludes q cs).value.2
  | _, [] => rfl
  | 0, c :: cs => by
    have first := builds_reports true q place c
    obtain ⟨rest, kept, -⟩ := resolveExcludes_cons q c cs
    simp [reportsOfExcludes, cachesOf, kept, first]
  | k + 1, c :: cs => by
    have later := builds_reportsOfExcludes q place k cs
    unfold resolveExcludes reportsOfExcludes
    simp only [Traced.value_bind]
    -- nothing is asked after a failure or an error
    rcases (resolve true q c).value.1 with e | _ | action
    · exact Nat.zero_add _
    · exact later
    · cases action with
      | error => exact Nat.zero_add _
      | warning | ignore => exact later

theorem builds_reportsOfIncludes (q : FilterQuery) (place : List Part) :
    ∀ (k : Nat) (above : Option FilterAction) (cs : List ProjectConfig),
      builds place locale ((reportsOfIncludes q above cs)[k]?.getD []) + cachesOf k place locale cs =
        cachesOf k place locale (resolveIncludes q above cs).value.2
  | _, _, [] => rfl
  | 0, above, c :: cs => by
    have first := builds_reports false q place c
    obtain ⟨rest, kept, -⟩ := resolveIncludes_cons q above c cs
    simp [reportsOfIncludes, cachesOf, kept, first]
  | k + 1, above, c :: cs => by
    have later := fun above => builds_reportsOfIncludes q place k above cs
    unfold resolveIncludes reportsOfIncludes
    simp only [Traced.value_bind]
    cases (resolve false q c).value.1 with
    | error e => exact Nat.zero_add _
    | ok action => exact later (strongest above action)

end

/-! ### Questions one after another -/

/-- A question about the configuration at a place. -/
structure Question where
  place : List Part
  query : FilterQuery

/-- The answer, if there is a configuration at the place, and the configuration afterwards. -/
def ask (a : Question) (c : ProjectConfig) :
    Traced (Option (Except FilterError FilterAction) × ProjectConfig) where
  value := ((at? a.place c).map fun d => (d.filter a.query).value.1,
    modifyAt (fun d => (d.filter a.query).value.2) a.place c)
  events := ((at? a.place c).map fun d => (d.filter a.query).events).getD []

def askAll : List Question → ProjectConfig →
    Traced (List (Option (Except FilterError FilterAction)) × ProjectConfig)
  | [], c => return ([], c)
  | a :: as, c => do
    let (answer, c) ← ask a c
    let (answers, c) ← askAll as c
    return (answer :: answers, c)

/-- The reports of `filter` at a place with their places. -/
def reportsAt (q : FilterQuery) : List Part → ProjectConfig → List Located
  | [], c => reports true q c ++ here (conclude q (resolve true q c).value.1).events
  | .included i :: place, node _ includes _ =>
    ((includes[i]?.map (reportsAt q place)).getD []).map (.under (.included i))
  | .excluded i :: place, node _ _ excludes =>
    ((excludes[i]?.map (reportsAt q place)).getD []).map (.under (.excluded i))

/-- The reports of questions with their places. -/
def reportsOfAll : List Question → ProjectConfig → List Located
  | [], _ => []
  | a :: as, c => reportsAt a.query a.place c ++ reportsOfAll as (ask a c).value.2

theorem event_reportsAt (q : FilterQuery) : ∀ (place : List Part) (c : ProjectConfig),
    (reportsAt q place c).map Located.event = (ask ⟨place, q⟩ c).events
  | [], c => by
    simp [reportsAt, ask, at?, filter, event_reports, event_here]
  | .included i :: place, node own includes excludes => by
    simp only [reportsAt, ask, at?, List.map_map]
    cases includes[i]? with
    | none => rfl
    | some c => exact event_reportsAt q place c
  | .excluded i :: place, node own includes excludes => by
    simp only [reportsAt, ask, at?, List.map_map]
    cases excludes[i]? with
    | none => rfl
    | some c => exact event_reportsAt q place c

theorem event_reportsOfAll : ∀ (asked : List Question) (c : ProjectConfig),
    (reportsOfAll asked c).map Located.event = (askAll asked c).events
  | [], _ => rfl
  | a :: as, c => by
    simp [reportsOfAll, askAll, event_reportsAt, event_reportsOfAll as]

/-- What holds of the configuration that is asked holds of the list that it is in. -/
theorem builds_modify {place : List Part} {f : ProjectConfig → ProjectConfig}
    {made : ProjectConfig → List Located}
    (h : ∀ c, builds place locale (made c) + cachesAt place locale c = cachesAt place locale (f c))
    (i k : Nat) (cs : List ProjectConfig) :
    (if i = k then builds place locale ((cs[i]?.map made).getD []) else 0) + cachesOf k place locale cs =
      cachesOf k place locale (cs.modify i f) := by
  unfold cachesOf
  rw [List.getElem?_modify]
  by_cases same : i = k
  · subst same
    cases cs[i]? with
    | none => simp
    | some c => simpa using h c
  · cases cs[k]? <;> simp [same]

theorem builds_reportsAt (q : FilterQuery) : ∀ (asked place : List Part) (c : ProjectConfig),
    builds place locale (reportsAt q asked c) + cachesAt place locale c =
      cachesAt place locale (ask ⟨asked, q⟩ c).value.2
  | [], place, c => by
    rw [reportsAt, builds_append, builds_conclude]
    exact builds_reports true q place c
  | .included i :: asked, place, node own includes excludes => by
    rcases place with _ | ⟨k | k, rest⟩
    · simp [reportsAt, ask, modifyAt]
    · have below := builds_modify (builds_reportsAt q asked rest) i k includes
      simpa [reportsAt, ask, modifyAt] using below
    · simp [reportsAt, ask, modifyAt]
  | .excluded i :: asked, place, node own includes excludes => by
    rcases place with _ | ⟨k | k, rest⟩
    · simp [reportsAt, ask, modifyAt]
    · simp [reportsAt, ask, modifyAt]
    · have below := builds_modify (builds_reportsAt q asked rest) i k excludes
      simpa [reportsAt, ask, modifyAt] using below

/-- The caches that questions build are those that are there afterwards and not before. -/
theorem builds_reportsOfAll (place : List Part) : ∀ (asked : List Question) (c : ProjectConfig),
    builds place locale (reportsOfAll asked c) + cachesAt place locale c =
      cachesAt place locale (askAll asked c).value.2
  | [], _ => Nat.zero_add _
  | a :: as, c => by
    have first : builds place locale (reportsAt a.query a.place c) + cachesAt place locale c =
        cachesAt place locale (ask a c).value.2 := builds_reportsAt a.query a.place place c
    have later := builds_reportsOfAll place as (ask a c).value.2
    have run : (askAll (a :: as) c).value.2 = (askAll as (ask a c).value.2).value.2 := rfl
    rw [reportsOfAll, builds_append, run]
    omega

theorem builds_reportsOfAll_le (place : List Part) (asked : List Question) (c : ProjectConfig) :
    builds place locale (reportsOfAll asked c) ≤ 1 := by
  have made : builds place locale (reportsOfAll asked c) + cachesAt place locale c =
      cachesAt place locale (askAll asked c).value.2 := builds_reportsOfAll place asked c
  have one : cachesAt place locale (askAll asked c).value.2 ≤ 1 := Bool.toNat_le _
  omega

end ProjectConfig

end

end LocalePaths
