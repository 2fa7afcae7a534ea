import LocalePaths.Proofs.Filter.Flat
import Mathlib.Data.List.Forall2

/-!
# What the order of declarations decides

Of everything that is declared only the rules of a configuration depend on their order. How the
configurations are nested under the root, in which order they are included and excluded, and in which
order a configuration has its path groups (`ProjectConfig.Rearranged`) changes neither the list of all
locales nor any decision (`ProjectConfig.Rearranged.decides`). It can change which failure is met
first, and whether an excluded configuration makes a file an error before one is met.
-/

namespace LocalePaths

section
variable {α : Type} {R : α → α → Prop} {l m : List α} {a b : α}

/-- The elements of `l`, put in another order, are one by one related to those of `m`. -/
def Reordered (R : α → α → Prop) (l m : List α) : Prop := ∃ xs, xs.Perm l ∧ List.Forall₂ R xs m

theorem exists_right_of_forall₂ (h : List.Forall₂ R l m) (ha : a ∈ l) : ∃ b ∈ m, R a b := by
  induction h with
  | nil => cases ha
  | cons first _ ih =>
    rcases List.mem_cons.1 ha with rfl | ha
    · exact ⟨_, List.mem_cons_self, first⟩
    · obtain ⟨b, hb, r⟩ := ih ha
      exact ⟨b, List.mem_cons_of_mem _ hb, r⟩

theorem Reordered.right (h : Reordered R l m) (ha : a ∈ l) : ∃ b ∈ m, R a b := by
  obtain ⟨xs, perm, related⟩ := h
  exact exists_right_of_forall₂ related (perm.mem_iff.2 ha)

theorem Reordered.left (h : Reordered R l m) (hb : b ∈ m) : ∃ a ∈ l, R a b := by
  obtain ⟨xs, perm, related⟩ := h
  obtain ⟨a, ha, r⟩ := exists_right_of_forall₂ related.flip hb
  exact ⟨a, perm.mem_iff.1 ha, r⟩

end

theorem get?_insertMany_unit (ts : List Text) (m : NameMap Unit) (n : Text) :
    (m.insertMany (ts.map fun t => (t, ()))).get? n = if n ∈ ts then some () else m.get? n := by
  induction ts generalizing m with
  | nil => simp [NameMap.insertMany]
  | cons t ts ih =>
    show ((m.insert t ()).insertMany (ts.map fun t => (t, ()))).get? n = _
    rw [ih, NameMap.get?_insert]
    by_cases here : n = t <;> by_cases later : n ∈ ts <;> simp [here, later]

theorem mem_sortedSet {ts : List Text} {t : Text} : t ∈ sortedSet ts ↔ t ∈ ts := by
  rw [sortedSet, ← NameMap.contains_iff, NameMap.contains, NameMap.ofList, get?_insertMany_unit]
  split <;> simp [*]

theorem sortedSet_congr {ts us : List Text} (h : ∀ t, t ∈ ts ↔ t ∈ us) : sortedSet ts = sortedSet us := by
  refine congrArg NameMap.names (NameMap.ext_get? fun n => ?_)
  unfold NameMap.ofList
  rw [get?_insertMany_unit, get?_insertMany_unit]
  simp only [h]

namespace Settings
variable {s t : Settings} {q : FilterQuery}

/-- The settings have the same set locales, the same rules in the same order, and the same path groups
in any order. -/
structure Redeclares (s t : Settings) : Prop where
  locales : t.locales = s.locales
  rules : t.rules = s.rules
  groups : t.groups.Perm s.groups

instance (s t : Settings) : Decidable (s.Redeclares t) :=
  decidable_of_iff (t.locales = s.locales ∧ t.rules = s.rules ∧ t.groups.Perm s.groups)
    ⟨fun ⟨locales, rules, groups⟩ => ⟨locales, rules, groups⟩,
      fun ⟨locales, rules, groups⟩ => ⟨locales, rules, groups⟩⟩

theorem Redeclares.mem_declaredLocales (h : s.Redeclares t) (locale : Text) :
    locale ∈ t.declaredLocales ↔ locale ∈ s.declaredLocales := by
  simp only [declaredLocales, h.locales, List.mem_append, List.mem_flatMap, h.groups.mem_iff]

theorem Redeclares.covers (h : s.Redeclares t) : Compatible (s.covers q) (t.covers q) := by
  have same : ∀ g, g ∈ t.groups.filter (fun g => g.appliesTo q.locale) ↔
      g ∈ s.groups.filter fun g => g.appliesTo q.locale := fun g => (h.groups.filter _).mem_iff
  exact (Compatible.anyM (fun g hg => ⟨g, (same g).2 hg, .refl _⟩)
    fun g hg => ⟨g, (same g).1 hg, .refl _⟩).mapError _

theorem Redeclares.declaredAction (h : s.Redeclares t) :
    Compatible (s.declaredAction q) (t.declaredAction q) := by
  refine h.covers.bind fun covered => ?_
  have same : t.ruleAction q = s.ruleAction q := by simp only [ruleAction, h.rules]
  rw [same]
  exact .refl _

end Settings

namespace ProjectConfig
variable {c d : ProjectConfig} {q : FilterQuery}

theorem strength_injective {a b : Option FilterAction} (h : strength a = strength b) : a = b := by
  cases a with
  | none =>
    cases b with
    | none => rfl
    | some b => cases b <;> cases h
  | some a =>
    cases b with
    | none => cases a <;> cases h
    | some b => cases a <;> cases b <;> first | rfl | cases h

/-- The second action is at least as strong as the first one, unless one of them fails. -/
def Weaker (x y : Except FilterError (Option FilterAction)) : Prop :=
  ∀ {a b}, x = .ok a → y = .ok b → strength a ≤ strength b

theorem weaker_of_compatible {x y : Except FilterError (Option FilterAction)} (h : Compatible x y) :
    Weaker x y := fun hx hy => h hx hy ▸ Nat.le_refl _

/-- The strongest declared action is at least as strong as one of settings each of which has a counterpart
that declares no less. -/
theorem strongestDeclared_weaker {ss ts : List Settings}
    (h : ∀ s ∈ ss, ∃ t ∈ ts, Weaker (s.declaredAction q) (t.declaredAction q)) :
    Weaker (strongestDeclared q ss) (strongestDeclared q ts) := fun ha hb => by
  rcases (strongestDeclared_eq_ok ha).1 with rfl | ⟨s, hs, declared⟩
  · exact Nat.zero_le _
  · obtain ⟨t, ht, weaker⟩ := h s hs
    obtain ⟨b, declared', le⟩ := (strongestDeclared_eq_ok hb).2 t ht
    exact Nat.le_trans (weaker declared declared') le

theorem strongestDeclared_compatible {ss ts : List Settings}
    (left : ∀ s ∈ ss, ∃ t ∈ ts, Compatible (s.declaredAction q) (t.declaredAction q))
    (right : ∀ t ∈ ts, ∃ s ∈ ss, Compatible (t.declaredAction q) (s.declaredAction q)) :
    Compatible (strongestDeclared q ss) (strongestDeclared q ts) := by
  have weaker : Weaker (strongestDeclared q ss) (strongestDeclared q ts) :=
    strongestDeclared_weaker fun s hs => (left s hs).imp fun _ ⟨ht, agree⟩ => ⟨ht, weaker_of_compatible agree⟩
  have stronger : Weaker (strongestDeclared q ts) (strongestDeclared q ss) :=
    strongestDeclared_weaker fun t ht => (right t ht).imp fun _ ⟨hs, agree⟩ => ⟨hs, weaker_of_compatible agree⟩
  exact fun _ _ ha hb => strength_injective (Nat.le_antisymm (weaker ha hb) (stronger hb ha))

/-! ### Answers -/

theorem answerExcludes_eq (q : FilterQuery) (cs : List ProjectConfig) : answerExcludes q cs =
    cs.anyM fun c => (fun action => decide (action = some .error)) <$> answer true q c := by
  induction cs with
  | nil => rfl
  | cons c cs ih =>
    rw [answerExcludes, List.anyM, ih]
    rcases answer true q c with e | _ | action
    · rfl
    · rfl
    · cases action <;> rfl

/-- The answer of a configuration that can be made, from its excludes and from its include tree one
after another. -/
theorem Layered.answer_eq (h : c.Layered) (gated : Bool) (q : FilterQuery) : answer gated q c = (do
    if gated && !c.declaredLocales.contains q.locale then return none
    if ← answerExcludes { q with entity := none } c.excludes then return some .error
    strongestDeclared q c.postorder) := by
  obtain ⟨own, includes, excludes⟩ := c
  have below := answerIncludes_eq_strongestDeclared q none includes h.1
  rw [answer, postorder, strongestDeclared_append, strongestDeclared_singleton, below]
  cases strongestDeclared q (postorderAll includes) <;> rfl

/-- Configurations with the same locales answer alike if what they exclude and what is declared in their
include trees does. -/
theorem Layered.answer_compatible (hc : c.Layered) (hd : d.Layered)
    (locales : c.declaredLocales = d.declaredLocales)
    (excluded : Compatible (answerExcludes { q with entity := none } c.excludes)
      (answerExcludes { q with entity := none } d.excludes))
    (declared : Compatible (strongestDeclared q c.postorder) (strongestDeclared q d.postorder)) :
    Compatible (answer true q c) (answer true q d) := by
  rw [hc.answer_eq, hd.answer_eq, locales]
  cases d.declaredLocales.contains q.locale with
  | false => exact .refl _
  | true =>
    refine excluded.bind fun hit => ?_
    cases hit with
    | true => exact .refl _
    | false => exact declared

/-! ### The same nodes -/

/-- Two include trees consist of the same nodes, nested in any way. -/
def SameNodes (c d : ProjectConfig) : Prop :=
  Reordered Settings.Redeclares (c.configs.map own) (d.configs.map own)

/-- Two configurations differ only in how the nodes of the include trees are nested, in the order of
their path groups, and in the order of what is excluded. -/
structure Rearranged (c d : ProjectConfig) : Prop where
  nodes : c.SameNodes d
  excludes : Reordered SameNodes c.excludes d.excludes

theorem SameNodes.right (h : c.SameNodes d) {s : Settings} (hs : s ∈ c.postorder) :
    ∃ t ∈ d.postorder, s.Redeclares t := by
  obtain ⟨t, ht, r⟩ := Reordered.right h ((postorder_perm c).mem_iff.1 hs)
  exact ⟨t, (postorder_perm d).mem_iff.2 ht, r⟩

theorem SameNodes.left (h : c.SameNodes d) {t : Settings} (ht : t ∈ d.postorder) :
    ∃ s ∈ c.postorder, s.Redeclares t := by
  obtain ⟨s, hs, r⟩ := Reordered.left h ((postorder_perm d).mem_iff.1 ht)
  exact ⟨s, (postorder_perm c).mem_iff.2 hs, r⟩

theorem mem_configs_locales (c : ProjectConfig) (locale : Text) :
    locale ∈ c.configs.flatMap (fun d => d.own.declaredLocales) ↔
      ∃ s ∈ c.postorder, locale ∈ s.declaredLocales := by
  simp [(postorder_perm c).mem_iff]

theorem SameNodes.declaredLocales (h : c.SameNodes d) : c.declaredLocales = d.declaredLocales := by
  refine sortedSet_congr fun locale => ?_
  rw [mem_configs_locales, mem_configs_locales]
  constructor
  · rintro ⟨s, hs, hl⟩
    obtain ⟨t, ht, r⟩ := h.right hs
    exact ⟨t, ht, (r.mem_declaredLocales locale).2 hl⟩
  · rintro ⟨t, ht, hl⟩
    obtain ⟨s, hs, r⟩ := h.left ht
    exact ⟨s, hs, (r.mem_declaredLocales locale).1 hl⟩

theorem SameNodes.strongestDeclared (h : c.SameNodes d) (q : FilterQuery) :
    Compatible (strongestDeclared q c.postorder) (strongestDeclared q d.postorder) := by
  refine strongestDeclared_compatible (fun s hs => ?_) fun t ht => ?_
  · obtain ⟨t, ht, r⟩ := h.right hs
    exact ⟨t, ht, r.declaredAction⟩
  · obtain ⟨s, hs, r⟩ := h.left ht
    exact ⟨s, hs, fun _ _ e e' => (r.declaredAction e' e).symm⟩

theorem SameNodes.answer (h : c.SameNodes d) (hc : c.Layered) (hd : d.Layered)
    (he : Compatible (answerExcludes { q with entity := none } c.excludes)
      (answerExcludes { q with entity := none } d.excludes)) :
    Compatible (answer true q c) (answer true q d) :=
  hc.answer_compatible hd h.declaredLocales he (h.strongestDeclared q)

/-- What excludes none answers like any configuration with the same nodes. -/
theorem SameNodes.answer_of_excludeNone (h : c.SameNodes d)
    (hc : c.excludes = [] ∧ ExcludeNone c.includes) (hd : d.excludes = [] ∧ ExcludeNone d.includes) :
    Compatible (ProjectConfig.answer true q c) (ProjectConfig.answer true q d) := by
  have layered : ∀ {x : ProjectConfig}, x.excludes = [] ∧ ExcludeNone x.includes → x.Layered :=
    fun hx => ⟨hx.2, hx.1 ▸ nofun⟩
  refine h.answer (layered hc) (layered hd) ?_
  rw [hc.1, hd.1]
  exact .refl _

theorem Rearranged.answer (h : c.Rearranged d) (hc : c.Layered) (hd : d.Layered) :
    Compatible (ProjectConfig.answer true q c) (ProjectConfig.answer true q d) := by
  refine h.nodes.answer hc hd ?_
  have agree : ∀ x ∈ c.excludes, ∀ y ∈ d.excludes, x.SameNodes y → Compatible
      ((fun action => decide (action = some .error)) <$>
        ProjectConfig.answer true { q with entity := none } x)
      ((fun action => decide (action = some .error)) <$>
        ProjectConfig.answer true { q with entity := none } y) := fun x hx y hy same =>
    (same.answer_of_excludeNone (hc.2.of_mem hx) (hd.2.of_mem hy)).map _
  rw [answerExcludes_eq, answerExcludes_eq]
  refine .anyM (fun x hx => ?_) fun y hy => ?_
  · obtain ⟨y, hy, same⟩ := h.excludes.right hx
    exact ⟨y, hy, agree x hx y hy same⟩
  · obtain ⟨x, hx, same⟩ := h.excludes.left hy
    exact ⟨x, hx, agree x hx y hy same⟩

/-- Configurations with the same declarations, nested and ordered in any way, have the same locales, and
unless a decision fails for one of them they decide alike. -/
theorem Rearranged.decides (h : c.Rearranged d) (hc : c.Reachable) (hd : d.Reachable) :
    c.allLocales = d.allLocales ∧
      ∀ q, Compatible (c.filter q).value.1 (d.filter q).value.1 := by
  refine ⟨?_, fun q => ?_⟩
  · rw [hc.fresh.allLocales, hd.fresh.allLocales, h.nodes.declaredLocales]
  · rw [value_filter hc.fresh, value_filter hd.fresh]
    exact (h.answer hc.layered hd.layered).map _

def folders (names : List Text) : Step :=
  .addPaths none (names.map fun name => ⟨name ++ "/{locale}/**".toList, none, none, none, none⟩)

def chatRules : List Step :=
  [folders ["chat".toList], .addRules none [⟨.one "chat/**".toList, .warning, none⟩,
    ⟨.one "chat/de/*".toList, .ignore, none⟩]]

def without (name : Text) : Step :=
  .exclude none [folders [name], .setLocales ["de".toList] false]

/-- A configuration that includes another one, which includes a third. -/
def stacked : ProjectConfig :=
  run none [folders ["mail".toList, "news".toList], .setLocales ["de".toList] false,
    .addChild none [folders ["web".toList], .addChild none chatRules],
    without "web/old".toList, without "chat/old".toList]

/-- The same with both included side by side, and in another order. -/
def sideBySide : ProjectConfig :=
  run none [folders ["news".toList, "mail".toList], without "chat/old".toList, .addChild none chatRules,
    .addChild none [folders ["web".toList]], .setLocales ["de".toList] false, without "web/old".toList]

theorem stacked_rearranged : stacked.Rearranged sideBySide := by
  have nodes : List.Forall₂ Settings.Redeclares
      ([0, 2, 1].filterMap fun i => (stacked.configs.map own)[i]?) (sideBySide.configs.map own) := by
    decide +kernel
  have excludes : List.Forall₂
      (fun x y : ProjectConfig =>
        List.Forall₂ Settings.Redeclares (x.configs.map own) (y.configs.map own))
      stacked.excludes.reverse sideBySide.excludes := by
    decide +kernel
  exact ⟨⟨_, by decide +kernel, nodes⟩,
    ⟨_, List.reverse_perm _, excludes.imp fun _ _ same => ⟨_, .refl _, same⟩⟩⟩

theorem sideBySide_decides : stacked.allLocales = sideBySide.allLocales ∧
    (stacked.filter ⟨"de".toList, "chat/de/a.ftl".toList, none⟩).value.1 = .ok .ignore ∧
    ∀ action, (sideBySide.filter ⟨"de".toList, "chat/de/a.ftl".toList, none⟩).value.1 = .ok action →
      action = .ignore := by
  obtain ⟨locales, alike⟩ := stacked_rearranged.decides ⟨_, _, [], rfl⟩ ⟨_, _, [], rfl⟩
  have ignored : (stacked.filter ⟨"de".toList, "chat/de/a.ftl".toList, none⟩).value.1 = .ok .ignore := by
    decide +kernel
  exact ⟨locales, ignored, fun _ h => (alike _ ignored h).symm⟩

end ProjectConfig

end LocalePaths
