import LocalePaths.Proofs.Filter.Order
import LocalePaths.Proofs.Filter.Refusal

/-!
# Additions weaken no decision

Path groups, includes and excludes can be added to a configuration without a decision becoming weaker
(`ProjectConfig.rank_filter_le_of_adds`). What is added has its own locales, so that a query for which
there was no locale before can be answered, a file can be covered that was not, and there is more to take
the strongest of. All that was there before is still there (`ProjectConfig.Grows`).

Rules are not among these additions: a later rule can replace an error by less.
-/

namespace LocalePaths

namespace Settings
variable {s t : Settings} {q : FilterQuery}

/-- The settings `t` have all path groups of `s`, and the same rules and set locales. -/
structure Extends (s t : Settings) : Prop where
  locales : t.locales = s.locales
  rules : t.rules = s.rules
  groups : ∀ g ∈ s.groups, g ∈ t.groups

theorem Extends.refl (s : Settings) : s.Extends s := ⟨rfl, rfl, fun _ hg => hg⟩

theorem Extends.declaredLocales (h : s.Extends t) {locale : Text} (hl : locale ∈ s.declaredLocales) :
    locale ∈ t.declaredLocales := by
  simp only [Settings.declaredLocales, List.mem_append, List.mem_flatMap, h.locales] at hl ⊢
  rcases hl with set | ⟨g, hg, hl⟩
  · exact .inl set
  · exact .inr ⟨g, h.groups g hg, hl⟩

theorem Extends.covers (h : s.Extends t) {covered : Bool} (hs : s.covers q = .ok true)
    (ht : t.covers q = .ok covered) : covered = true := by
  obtain ⟨g, hg, found⟩ := exists_of_anyM_eq_true (mapError_eq_ok_iff.1 hs)
  obtain ⟨hg, applies⟩ := List.mem_filter.1 hg
  cases covered with
  | true => rfl
  | false =>
    have missed := forall_of_anyM_eq_false (mapError_eq_ok_iff.1 ht) g
      (List.mem_filter.2 ⟨h.groups g hg, applies⟩)
    cases found.symm.trans missed

end Settings

namespace ProjectConfig
variable {c d x : ProjectConfig} {q : FilterQuery}

theorem weaker_of_extends {s t : Settings} (h : s.Extends t) :
    Weaker (s.declaredAction q) (t.declaredAction q) := fun hs ht => by
  obtain ⟨covered, coveredBefore, hs⟩ := bind_eq_ok_iff.1 hs
  obtain ⟨covered', coveredAfter, ht⟩ := bind_eq_ok_iff.1 ht
  cases covered with
  | false =>
    cases hs
    exact Nat.zero_le _
  | true =>
    obtain rfl := h.covers coveredBefore coveredAfter
    have same : t.ruleAction q = s.ruleAction q := by simp only [Settings.ruleAction, h.rules]
    rw [if_pos rfl, same] at ht
    cases hs.symm.trans ht
    exact Nat.le_refl _

/-- All that is in the include tree of `c` is in that of `d`, perhaps with more path groups, and all that
`c` excludes is excluded by `d`. -/
structure Grows (c d : ProjectConfig) : Prop where
  nodes : ∀ s ∈ c.postorder, ∃ t ∈ d.postorder, s.Extends t
  excludes : ∀ x ∈ c.excludes, x ∈ d.excludes

theorem Grows.declaredLocales (h : c.Grows d) {locale : Text} (hl : locale ∈ c.declaredLocales) :
    locale ∈ d.declaredLocales := by
  obtain ⟨s, hs, hl⟩ := (mem_configs_locales c locale).1 (mem_sortedSet.1 hl)
  obtain ⟨t, ht, more⟩ := h.nodes s hs
  exact mem_sortedSet.2 ((mem_configs_locales d locale).2 ⟨t, ht, more.declaredLocales hl⟩)

theorem Grows.answerExcludes (h : c.Grows d) {hit : Bool} (hc : answerExcludes q c.excludes = .ok true)
    (hd : answerExcludes q d.excludes = .ok hit) : hit = true := by
  rw [answerExcludes_eq] at hc hd
  obtain ⟨x, hx, found⟩ := exists_of_anyM_eq_true hc
  cases hit with
  | true => rfl
  | false => cases found.symm.trans (forall_of_anyM_eq_false hd x (h.excludes x hx))

theorem Grows.strongestDeclared (h : c.Grows d) (q : FilterQuery) :
    Weaker (strongestDeclared q c.postorder) (strongestDeclared q d.postorder) :=
  strongestDeclared_weaker fun s hs => (h.nodes s hs).imp fun _ ⟨ht, more⟩ => ⟨ht, weaker_of_extends more⟩

theorem strength_le_error (a : Option FilterAction) : strength a ≤ strength (some .error) := by
  cases a with
  | none => exact Nat.zero_le _
  | some a => cases a <;> decide

theorem Grows.answer (h : c.Grows d) (hc : c.Layered) (hd : d.Layered) (q : FilterQuery) :
    Weaker (answer true q c) (answer true q d) := fun {a b} ha hb => by
  rw [hc.answer_eq] at ha
  rw [hd.answer_eq] at hb
  cases known : c.declaredLocales.contains q.locale with
  | false =>
    rw [known] at ha
    cases ha
    exact Nat.zero_le _
  | true =>
    have known' : d.declaredLocales.contains q.locale = true :=
      List.contains_iff_mem.2 (h.declaredLocales (List.contains_iff_mem.1 known))
    rw [known] at ha
    rw [known'] at hb
    obtain ⟨hit, before, ha⟩ := bind_eq_ok_iff.1 ha
    obtain ⟨hit', after, hb⟩ := bind_eq_ok_iff.1 hb
    cases hit' with
    | true =>
      cases hb
      exact strength_le_error a
    | false =>
      cases hit with
      | true => cases h.answerExcludes before after
      | false => exact h.strongestDeclared q ha hb

/-! ### Changes that add -/

theorem Grows.refl (c : ProjectConfig) : c.Grows c := ⟨fun s hs => ⟨s, hs, .refl s⟩, fun _ hx => hx⟩

theorem mem_postorder_node {own s : Settings} {includes excludes : List ProjectConfig} :
    s ∈ (node own includes excludes).postorder ↔ s ∈ postorderAll includes ∨ s = own := by
  rw [postorder, List.mem_append, List.mem_singleton]

theorem mem_postorderAll_append {s : Settings} {cs ds : List ProjectConfig} :
    s ∈ postorderAll (cs ++ ds) ↔ s ∈ postorderAll cs ∨ s ∈ postorderAll ds := by
  induction cs with
  | nil => simp [postorderAll]
  | cons c cs ih => simp only [List.cons_append, postorderAll, List.mem_append, ih, or_assoc]

theorem grows_modifyOwn {f : Settings → Settings} (h : c.own.Extends (f c.own)) :
    c.Grows (c.modifyOwn f) := by
  obtain ⟨own, includes, excludes⟩ := c
  refine ⟨fun s hs => ?_, fun _ hx => hx⟩
  rcases mem_postorder_node.1 hs with hs | rfl
  · exact ⟨s, mem_postorder_node.2 (.inl hs), .refl s⟩
  · exact ⟨f s, mem_postorder_node.2 (.inr rfl), h⟩

theorem grows_addChild (x c : ProjectConfig) : c.Grows ((Edit.addChild x).after c) := by
  obtain ⟨own, includes, excludes⟩ := c
  rw [Edit.after_addChild]
  split
  · refine ⟨fun s hs => ?_, fun _ hx => hx⟩
    rcases mem_postorder_node.1 hs with hs | rfl
    · exact ⟨s, mem_postorder_node.2 (.inl (mem_postorderAll_append.2 (.inl hs))), .refl s⟩
    · exact ⟨s.invalidate, mem_postorder_node.2 (.inr rfl), rfl, rfl, fun _ hg => hg⟩
  · exact .refl _

theorem grows_exclude (x c : ProjectConfig) : c.Grows ((Edit.exclude x).after c) := by
  obtain ⟨own, includes, excludes⟩ := c
  rw [Edit.after_exclude]
  split
  · exact ⟨fun s hs => ⟨s, hs, .refl s⟩, fun y hy => List.mem_append_left _ hy⟩
  · exact .refl _

theorem grows_addPaths (dir : Option Text) (ds : List PathDeclaration) (c : ProjectConfig) :
    c.Grows ((Edit.addPaths dir ds).after c) := by
  rcases Edit.after_addPaths dir ds c with same | ⟨groups, -, added⟩
  · rw [same]
    exact .refl c
  · rw [added]
    exact grows_modifyOwn ⟨rfl, rfl, fun g hg => List.mem_append_left groups hg⟩

/-- The change adds path groups, or includes or excludes a configuration that can be made. -/
def Change.Adds : Change → Prop
  | .addPaths _ => True
  | .addChild x | .exclude x => x.Reachable
  | .setRoot _ | .addRules _ => False

theorem grows_perform {change : Change} (hc : c.Reachable) (adds : change.Adds) (dir : Option Text) :
    let d := (perform dir change).after c
    c.Grows d ∧ d.Fresh ∧ d.Layered := by
  cases change with
  | setRoot base => cases adds
  | addRules ds => cases adds
  | addPaths ds =>
    exact ⟨grows_addPaths dir ds c, hc.fresh.addPaths dir ds, hc.layered.own dir (.addPaths ds) trivial⟩
  | addChild x =>
    exact ⟨grows_addChild x c, hc.fresh.addChild adds.fresh, hc.layered.addChild adds.layered⟩
  | exclude x => exact ⟨grows_exclude x c, hc.fresh.exclude adds.fresh, hc.layered.exclude⟩

theorem rank_getD (a : Option FilterAction) : (a.getD .ignore).rank = strength a - 1 := by
  cases a with
  | none => rfl
  | some a => cases a <;> rfl

/-- However path groups, an include or an exclude are added, unless a query fails before or afterwards, its
answer afterwards is at least as strong. -/
theorem rank_filter_le_of_adds {change : Change} {dir : Option Text} {a b : FilterAction}
    (hc : c.Reachable) (adds : change.Adds) (before : (c.filter q).value.1 = .ok a)
    (after : (((perform dir change).after c).filter q).value.1 = .ok b) : a.rank ≤ b.rank := by
  obtain ⟨grows, fresh, layered⟩ := grows_perform hc adds dir
  rw [value_filter hc.fresh] at before
  rw [value_filter fresh] at after
  cases answered : answer true q c with
  | error e =>
    rw [answered] at before
    cases before
  | ok a' =>
    cases answered' : answer true q ((perform dir change).after c) with
    | error e =>
      rw [answered'] at after
      cases after
    | ok b' =>
      rw [answered] at before
      rw [answered'] at after
      cases before
      cases after
      have le := grows.answer hc.layered layered q answered answered'
      rw [rank_getD, rank_getD]
      omega

/-- Files with warnings for no locale. Only what is excluded, the old ones, has a locale. -/
def unlocalized : ProjectConfig :=
  run none [.addPaths none [⟨"{locale}/**".toList, none, none, none, none⟩],
    .addRules none [⟨.one "{locale}/**".toList, .warning, none⟩],
    .exclude none [.addPaths none [⟨"{locale}/old/**".toList, none, none, none, none⟩],
      .setLocales ["de".toList] false]]

/-- Some of the files for a locale, without warnings. -/
def german : ProjectConfig :=
  run none [.addPaths none [⟨"{locale}/*".toList, none, some ["de".toList], none, none⟩],
    .addRules none [⟨.one "{locale}/*".toList, .ignore, none⟩]]

/-- The include brings the locale, and with it the warnings. -/
theorem german_rank_filter : german.Reachable ∧
    (unlocalized.filter ⟨"de".toList, "de/a.ftl".toList, none⟩).value.1 = .ok .ignore ∧
    (((perform none (.addChild german)).after unlocalized).filter
      ⟨"de".toList, "de/a.ftl".toList, none⟩).value.1 = .ok .warning ∧
    FilterAction.rank .ignore ≤ FilterAction.rank .warning := by
  have adds : german.Reachable := ⟨_, _, [], rfl⟩
  have before : (unlocalized.filter ⟨"de".toList, "de/a.ftl".toList, none⟩).value.1 = .ok .ignore := by
    decide +kernel
  have after : (((perform none (.addChild german)).after unlocalized).filter
      ⟨"de".toList, "de/a.ftl".toList, none⟩).value.1 = .ok .warning := by
    decide +kernel
  have reachable : unlocalized.Reachable := ⟨_, _, [], rfl⟩
  have allowed : Change.Adds (.addChild german) := adds
  exact ⟨adds, before, after, rank_filter_le_of_adds reachable allowed before after⟩

end ProjectConfig

end LocalePaths
