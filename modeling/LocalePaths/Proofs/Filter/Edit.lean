import LocalePaths.Filter.Edit
import Mathlib.Logic.Basic

/-!
# Changes in place

A call that is refused has changed nothing if what can fail comes before what is assigned
(`Edit.Atomic`). That holds of all calls (`ProjectConfig.atomic_perform`), so that a call leaves the
configuration with the change (`Edit.on`), or as it was (`Edit.after_eq`).
-/

namespace LocalePaths

/-! ### What is read -/

/-- No rule is added. -/
def Edit.Quiet (es : List Event) : Prop := ∀ path key action, Event.ruleAdded path key action ∉ es

theorem Edit.Quiet.append {es fs : List Event} (h : Quiet es) (h' : Quiet fs) : Quiet (es ++ fs) :=
  fun path key action mem => (List.mem_append.1 mem).elim (h path key action) (h' path key action)

namespace Checked
variable {α β : Type} {x : Checked α} {f : α → Checked β}

def value (x : Checked α) : Except FilterError α := x.run.value

def events (x : Checked α) : List Event := x.run.events

@[simp] theorem value_pure (a : α) : value (pure a) = .ok a := rfl

@[simp] theorem value_throw (e : FilterError) : value (throw e : Checked α) = .error e := rfl

theorem value_bind (x : Checked α) (f : α → Checked β) :
    value (x >>= f) = value x >>= fun a => value (f a) := by
  obtain ⟨r, es⟩ := x
  cases r <;> rfl

theorem value_mapM (f : α → Checked β) : ∀ l : List α, value (l.mapM f) = l.mapM fun a => value (f a)
  | [] => rfl
  | a :: l => by
    simp only [List.mapM_cons, value_bind, value_mapM f l, value_pure]
    rfl

/-- What is read reports no rule. -/
def IsQuiet (x : Checked α) : Prop := Edit.Quiet (events x)

namespace IsQuiet

theorem pure (a : α) : IsQuiet (Pure.pure a : Checked α) := fun _ _ _ => List.not_mem_nil

theorem throw (e : FilterError) : IsQuiet (MonadExcept.throw e : Checked α) :=
  fun _ _ _ => List.not_mem_nil

theorem compile (source : Text) : IsQuiet (Pattern.compile source : Checked Pattern) :=
  fun _ _ _ mem => nomatch List.mem_singleton.1 mem

theorem lift (r : Except FilterError α) : IsQuiet (liftM r : Checked α) := fun _ _ _ => List.not_mem_nil

theorem bind (hx : IsQuiet x) (hf : ∀ a, IsQuiet (f a)) : IsQuiet (x >>= f) := by
  obtain ⟨r, es⟩ := x
  cases r with
  | ok a => exact hx.append (hf a)
  | error e => exact hx.append fun _ _ _ => List.not_mem_nil

theorem mapM (hf : ∀ a, IsQuiet (f a)) : ∀ l : List α, IsQuiet (l.mapM f)
  | [] => .pure []
  | a :: l => by
    rw [List.mapM_cons]
    exact .bind (hf a) fun b => .bind (mapM hf l) fun bs => .pure (b :: bs)

end IsQuiet

end Checked

namespace Settings
open Checked (IsQuiet)
variable (dir : Option Text) (s : Settings)

theorem quiet_rootAt (base : Text) : IsQuiet (s.rootAt dir base) := by
  unfold rootAt
  cases s.path with
  | none => exact .pure _
  | some path =>
    simp only
    cases Path.absolute? dir (Path.join (Path.directory path) base) with
    | none => exact .throw _
    | some root => exact .pure _

theorem quiet_matcher (source : Text) : IsQuiet (s.matcher dir source) := by
  refine .bind (.compile source) fun p => ?_
  cases s.root with
  | none => exact .pure _
  | some root =>
    simp only
    cases Path.absolute? dir root with
    | none => exact .throw _
    | some _ => exact .pure _

theorem quiet_group (d : PathDeclaration) : IsQuiet (s.group dir d) := by
  refine .bind (quiet_matcher dir s d.l10n) fun l10n => ?_
  cases d.reference with
  | none => exact .pure _
  | some reference => exact .bind (quiet_matcher dir s reference) fun m => .pure _

theorem quiet_rulesAt (d : RuleDeclaration) : IsQuiet (s.rulesAt dir d) := by
  have each (path : Text) := (quiet_matcher dir s path).bind fun m => .lift (rulesFor m d.action d.key)
  exact .bind (.mapM each d.path.values) fun rules => .pure _

end Settings

/-! ### Calls -/

namespace Edit
variable {α β : Type} {x : Edit α} {f : α → Edit β} {c : ProjectConfig}

theorem run_bind (x : Edit α) (f : α → Edit β) (c : ProjectConfig) : (x >>= f).run.run c =
    x.run.run c >>= fun r => match r with
      | (.ok a, c) => (f a).run.run c
      | (.error e, c) => pure (.error e, c) := by
  show (x.run.run c >>= fun r => (ExceptT.bindCont f r.1).run r.2) = _
  congr 1
  funext r
  obtain ⟨r, c⟩ := r
  cases r <;> rfl

theorem bind_of_ok {a : α} (h : x.answer c = .ok a) :
    (x >>= f).answer c = (f a).answer (x.after c) ∧ (x >>= f).after c = (f a).after (x.after c) ∧
      (x >>= f).events c = x.events c ++ (f a).events (x.after c) := by
  unfold answer after events at *
  rw [run_bind]
  generalize x.run.run c = t at *
  obtain ⟨⟨r, c'⟩, es⟩ := t
  cases h
  exact ⟨rfl, rfl, rfl⟩

theorem bind_of_error {e : FilterError} (h : x.answer c = .error e) :
    (x >>= f).answer c = .error e ∧ (x >>= f).after c = x.after c ∧
      (x >>= f).events c = x.events c := by
  unfold answer after events at *
  rw [run_bind]
  generalize x.run.run c = t at *
  obtain ⟨⟨r, c'⟩, es⟩ := t
  cases h
  exact ⟨rfl, rfl, List.append_nil es⟩

theorem run_read (f : Settings → Checked α) (c : ProjectConfig) :
    (read f).run.run c = ⟨(Checked.value (f c.own), c), Checked.events (f c.own)⟩ := by
  exact congrArg (Traced.mk (Checked.value (f c.own), c)) (List.append_nil _)

/-- The call leaves the configuration as it is and reports no rule. -/
def Untouched (x : Edit α) (c : ProjectConfig) : Prop := x.after c = c ∧ Quiet (x.events c)

/-- The call, if it is refused, leaves the configuration as it is. -/
def Atomic (x : Edit α) : Prop := ∀ c e, x.answer c = .error e → Untouched x c

/-- The call is never refused. -/
def Total (x : Edit α) : Prop := ∀ c, ∃ a, x.answer c = .ok a

/-- The configuration after the call, unless it is refused. -/
def on (x : Edit Unit) (c : ProjectConfig) : Except FilterError ProjectConfig :=
  (fun _ => x.after c) <$> x.answer c

theorem answer_read_bind (g : Settings → Checked α) (f : α → Edit β) (c : ProjectConfig) :
    (read g >>= f).answer c = Checked.value (g c.own) >>= fun a => (f a).answer c := by
  unfold answer
  rw [run_bind, run_read]
  cases Checked.value (g c.own) <;> rfl

theorem on_read_bind (g : Settings → Checked α) (f : α → Edit Unit) (c : ProjectConfig) :
    (read g >>= f).on c = Checked.value (g c.own) >>= fun a => (f a).on c := by
  unfold on answer after
  rw [run_bind, run_read]
  cases Checked.value (g c.own) <;> rfl

/-! ### Calls that assign last -/

namespace Total

theorem assign (f : Settings → Settings) : Total (Edit.assign f) := fun _ => ⟨(), rfl⟩

theorem bind (hx : Total x) (hf : ∀ a, Total (f a)) : Total (x >>= f) := by
  intro c
  obtain ⟨a, ha⟩ := hx c
  obtain ⟨b, hb⟩ := hf a (x.after c)
  exact ⟨b, (bind_of_ok ha).1.trans hb⟩

theorem atomic (hx : Total x) : Atomic x := by
  intro c e he
  obtain ⟨a, ha⟩ := hx c
  cases ha.symm.trans he

end Total

/-- A call that reads before something that is never refused is atomic. -/
theorem atomic_read_bind {g : Settings → Checked α} (quiet : ∀ s, (g s).IsQuiet)
    (hf : ∀ a, Total (f a)) : Atomic (read g >>= f) := by
  intro c e refused
  have answer : (read g).answer c = Checked.value (g c.own) := congrArg (·.value.1) (run_read g c)
  cases h : Checked.value (g c.own) with
  | ok a =>
    rw [answer_read_bind, h] at refused
    exact absurd refused (by obtain ⟨b, hb⟩ := hf a c; simp [bind, Except.bind, hb])
  | error e' =>
    obtain ⟨-, after, events⟩ := bind_of_error (f := f) (answer.trans h)
    refine ⟨after.trans (congrArg (·.value.2) (run_read g c)), events ▸ ?_⟩
    rw [Edit.events, run_read]
    exact quiet c.own

theorem atomic_throw (e : FilterError) : Atomic (throw e : Edit α) :=
  fun _ _ _ => ⟨rfl, fun _ _ _ => List.not_mem_nil⟩

theorem atomic_setRoot (dir : Option Text) (base : Text) : Atomic (setRoot dir base) :=
  atomic_read_bind (Settings.quiet_rootAt dir · base) fun _ => .assign _

theorem atomic_addPaths (dir : Option Text) (ds : List PathDeclaration) : Atomic (addPaths dir ds) :=
  atomic_read_bind (fun s => .mapM (s.quiet_group dir) ds) fun _ => .bind (.assign _) fun _ => .assign _

theorem atomic_addRules (dir : Option Text) (ds : List RuleDeclaration) : Atomic (addRules dir ds) :=
  atomic_read_bind (fun s => .mapM (s.quiet_rulesAt dir) ds) fun _ =>
    .bind (fun _ => ⟨(), rfl⟩) fun _ => .bind (.assign _) fun _ => .assign _

theorem atomic_addChild (child : ProjectConfig) : Atomic (addChild child) := by
  unfold addChild
  split
  · exact Total.atomic (.bind (fun _ => ⟨(), rfl⟩) fun _ => .assign _)
  · exact atomic_throw _

theorem atomic_exclude (child : ProjectConfig) : Atomic (exclude child) := by
  unfold exclude
  split
  · exact Total.atomic fun _ => ⟨(), rfl⟩
  · exact atomic_throw _

/-! ### What calls do -/

theorem on_setRoot (dir : Option Text) (base : Text) (c : ProjectConfig) : (setRoot dir base).on c =
    (fun root => c.modifyOwn fun s => { s with root }) <$> Checked.value (c.own.rootAt dir base) :=
  on_read_bind ..

theorem on_addPaths (dir : Option Text) (ds : List PathDeclaration) (c : ProjectConfig) :
    (addPaths dir ds).on c =
      (fun groups => c.modifyOwn fun s => { s with groups := s.groups ++ groups }.invalidate) <$>
        ds.mapM fun d => Checked.value (c.own.group dir d) := by
  rw [← Checked.value_mapM]
  refine (on_read_bind ..).trans ?_
  cases c
  rfl

end Edit

namespace ProjectConfig
variable {c : ProjectConfig}

/-- The configuration with more rules. -/
def withRules (c : ProjectConfig) (rules : List FilterRule) : ProjectConfig :=
  c.modifyOwn fun s => { s with rules := s.rules ++ rules }.invalidate

/-- The configuration after a change that may be refused. -/
def orKeep (c : ProjectConfig) : Except FilterError ProjectConfig → ProjectConfig
  | .ok c' => c'
  | .error _ => c

end ProjectConfig

namespace Edit
variable {x : Edit Unit} {c d : ProjectConfig} {dir : Option Text}

theorem on_addRules (dir : Option Text) (ds : List RuleDeclaration) (c : ProjectConfig) :
    (addRules dir ds).on c = (fun rules => c.withRules rules.flatten) <$>
      ds.mapM fun d => Checked.value (c.own.rulesAt dir d) := by
  rw [← Checked.value_mapM]
  refine (on_read_bind ..).trans ?_
  cases c
  rfl

theorem after_addChild (child c : ProjectConfig) : (addChild child).after c =
    if child.excludes.isEmpty then .node c.own.invalidate (c.includes ++ [child]) c.excludes else c := by
  unfold addChild
  split <;> rfl

theorem after_exclude (child c : ProjectConfig) : (exclude child).after c =
    if child.configs.all fun d => d.excludes.isEmpty then
      .node c.own c.includes (c.excludes ++ [child])
    else c := by
  unfold exclude
  split <;> rfl

/-- A call leaves the configuration with the change, or as it was. -/
theorem Atomic.after_eq (atomic : Atomic x) (c : ProjectConfig) : x.after c = c.orKeep (x.on c) := by
  unfold on
  cases h : x.answer c with
  | ok a => rfl
  | error e => exact (atomic c e h).1

theorem Atomic.after_cases {α : Type} {y : Except FilterError α} {change : α → ProjectConfig}
    (atomic : Atomic x) (on : x.on c = change <$> y) :
    x.after c = c ∨ ∃ a, y = .ok a ∧ x.after c = change a := by
  rw [atomic.after_eq, on]
  cases y with
  | error e => exact .inl rfl
  | ok a => exact .inr ⟨a, rfl, rfl⟩

theorem after_setRoot (dir : Option Text) (base : Text) (c : ProjectConfig) :
    (setRoot dir base).after c = c ∨ ∃ root, Checked.value (c.own.rootAt dir base) = .ok root ∧
      (setRoot dir base).after c = c.modifyOwn fun s => { s with root } :=
  (atomic_setRoot dir base).after_cases (on_setRoot dir base c)

theorem after_addPaths (dir : Option Text) (ds : List PathDeclaration) (c : ProjectConfig) :
    (addPaths dir ds).after c = c ∨
      ∃ groups, (ds.mapM fun d => Checked.value (c.own.group dir d)) = .ok groups ∧
        (addPaths dir ds).after c =
          c.modifyOwn fun s => { s with groups := s.groups ++ groups }.invalidate :=
  (atomic_addPaths dir ds).after_cases (on_addPaths dir ds c)

theorem after_addRules (dir : Option Text) (ds : List RuleDeclaration) (c : ProjectConfig) :
    (addRules dir ds).after c = c ∨
      ∃ rules, (ds.mapM fun d => Checked.value (c.own.rulesAt dir d)) = .ok rules ∧
        (addRules dir ds).after c = c.withRules rules.flatten :=
  (atomic_addRules dir ds).after_cases (on_addRules dir ds c)

end Edit

namespace ProjectConfig

theorem atomic_perform (dir : Option Text) (change : Change) : (perform dir change).Atomic := by
  cases change with
  | setRoot base => exact Edit.atomic_setRoot dir base
  | addPaths ds => exact Edit.atomic_addPaths dir ds
  | addRules ds => exact Edit.atomic_addRules dir ds
  | addChild child => exact Edit.atomic_addChild child
  | exclude child => exact Edit.atomic_exclude child

/-- The change is one of the settings, not of what is included or excluded. -/
def Change.IsOwn : Change → Prop
  | .setRoot _ | .addPaths _ | .addRules _ => True
  | .addChild _ | .exclude _ => False

theorem exists_modifyOwn {α : Type} {c d : ProjectConfig} {y : Except FilterError α}
    {f : α → Settings → Settings} (h : d = c ∨ ∃ a, y = .ok a ∧ d = c.modifyOwn (f a)) :
    ∃ g, d = c.modifyOwn g := by
  rcases h with rfl | ⟨a, -, rfl⟩
  · refine ⟨id, ?_⟩
    cases d
    rfl
  · exact ⟨f a, rfl⟩

theorem after_own {change : Change} (own : change.IsOwn) (dir : Option Text) (c : ProjectConfig) :
    ∃ f, (perform dir change).after c = c.modifyOwn f := by
  cases change with
  | setRoot base => exact exists_modifyOwn (Edit.after_setRoot dir base c)
  | addPaths ds => exact exists_modifyOwn (Edit.after_addPaths dir ds c)
  | addRules ds => exact exists_modifyOwn (Edit.after_addRules dir ds c)
  | addChild child => cases own
  | exclude child => cases own

end ProjectConfig

end LocalePaths
