import LocalePaths.Proofs.Piece.Generation

/-!
# Decompositions

`Environment.DecomposesAll` takes a text apart into the texts of nodes. What has been taken is a list of
portions, one for each wildcard and for the first occurrence of each variable, in the order in which they
end; later occurrences of a variable take its text again. What a bound variable stands for is taken apart in
its place.

Two decompositions are compared at the first portion at which they differ (`Portion.Earlier`): there a
wildcard prefers the longer text, and a variable without a value the shorter one.
-/

namespace LocalePaths

open Relation

/-- What a portion of a path is the text of. -/
inductive Slot where
  | wildcard (id : Nat)
  | named (x : Text)
  deriving DecidableEq

namespace Slot

/-- The name under which the text of the slot is captured. -/
def name : Slot → Text
  | wildcard id => starName id
  | named x => x

/-- The group that captures the text of the slot. -/
def group : Slot → Text
  | wildcard id => starName id
  | named x => Piece.groupName x

theorem wildcard_ne_named (id : Nat) (x : Text) : wildcard id ≠ named x := nofun

theorem group_injective {s s' : Slot} (h : s.group = s'.group) : s = s' := by
  cases s with
  | wildcard id =>
    cases s' with
    | wildcard id' => rw [starName_injective h]
    | named x => exact absurd h.symm (Piece.groupName_ne_starName x id)
  | named x =>
    cases s' with
    | wildcard id => exact absurd h (Piece.groupName_ne_starName x id)
    | named x' => rw [Piece.groupName_injective h]

theorem bindingName_group (s : Slot) : Piece.bindingName s.group = s.name := by
  cases s with
  | wildcard id => rfl
  | named x => rfl

end Slot

/-- Which text is preferred for a portion, if there is a choice. -/
inductive Preference where
  | longer
  | shorter
  | fixed
  deriving DecidableEq

/-- Whether a text of the first length is preferred to one of the second. -/
def Preference.Prefers : Preference → Nat → Nat → Prop
  | longer, m, n => n < m
  | shorter, m, n => m < n
  | fixed, _, _ => False

/-- A part of a path: the text of a wildcard or of the first occurrence of a variable. -/
structure Portion where
  slot : Slot
  preference : Preference
  text : Text
  deriving DecidableEq

namespace Portion
variable {ds es fs : List Portion} {d : Portion} {s s' : Slot} {name : Text}

/-- The portions are of the same slot, and the text of the first one is preferred. -/
def Before (d e : Portion) : Prop :=
  d.slot = e.slot ∧ d.preference = e.preference ∧ d.preference.Prefers d.text.length e.text.length

/-- At the first portion at which the lists differ, that of the first list is preferred. -/
def Earlier (ds es : List Portion) : Prop :=
  ∃ common d e ds' es', ds = common ++ d :: ds' ∧ es = common ++ e :: es' ∧ d.Before e

/-- The order does not depend on what comes after the first difference. -/
theorem Earlier.append (h : Earlier ds es) (ds' es' : List Portion) : Earlier (ds ++ ds') (es ++ es') := by
  obtain ⟨common, d, e, xs, ys, rfl, rfl, before⟩ := h
  exact ⟨common, d, e, xs ++ ds', ys ++ es', by simp, by simp, before⟩

/-- The text of the first portion of a slot. -/
def textAt (ds : List Portion) (s : Slot) : Option Text := (ds.find? fun d => d.slot = s).map (·.text)

/-- The text of the first portion with a name. -/
def valueOf (ds : List Portion) (name : Text) : Option Text :=
  (ds.find? fun d => d.slot.name = name).map (·.text)

@[simp] theorem textAt_nil : textAt [] s = none := rfl

theorem textAt_append : textAt (ds ++ es) s = (textAt ds s).or (textAt es s) := by
  simp only [textAt, List.find?_append]
  cases ds.find? fun d => d.slot = s <;> rfl

theorem textAt_singleton : textAt [d] s = if d.slot = s then some d.text else none := by
  unfold textAt
  by_cases h : d.slot = s <;> simp [h]

theorem textAt_concat_self (ds : List Portion) (s : Slot) (prefers : Preference) (t : Text) :
    textAt (ds ++ [⟨s, prefers, t⟩]) s = some ((textAt ds s).getD t) := by
  rw [textAt_append, textAt_singleton, if_pos rfl]
  cases textAt ds s <;> rfl

theorem textAt_concat_of_ne {prefers : Preference} {t : Text} (h : s' ≠ s) :
    textAt (ds ++ [⟨s', prefers, t⟩]) s = textAt ds s := by
  rw [textAt_append, textAt_singleton, if_neg h, Option.or_none]

theorem isSome_textAt : (textAt ds s).isSome ↔ ∃ d ∈ ds, d.slot = s := by
  simp [textAt]

end Portion

namespace Environment
variable {env : Environment} {ds ds' : List Portion} {n : Node} {ns : List Node} {t x : Text}

open Portion

mutual

/-- After the portions `ds` the node takes the text; `ds'` are the portions then. -/
inductive Decomposes (env : Environment) : (ds : List Portion) → Node → Text → (ds' : List Portion) → Prop
  | literal {ds : List Portion} {t : Text} : Decomposes env ds (.literal t) t ds
  | wildcard {ds : List Portion} {n : Node} {id : Nat} {t : Text} : n.wildcardId = some id → n.Spans t →
    Decomposes env ds n t (ds ++ [⟨.wildcard id, .longer, t⟩])
  | again {ds : List Portion} {n : Node} {x t : Text} : n.variableName = some x →
    textAt ds (.named x) = some t → Decomposes env ds n t ds
  | free {ds : List Portion} {n : Node} {x t : Text} : n.variableName = some x →
    textAt ds (.named x) = none → env.Resolves x none → Piece.InLine t →
      Decomposes env ds n t (ds ++ [⟨.named x, .shorter, t⟩])
  | bound {ds ds' : List Portion} {n : Node} {x t : Text} {ns : List Node} : n.variableName = some x →
    textAt ds (.named x) = none → env.Resolves x (some ns) → DecomposesAll env ds ns t ds' →
      Decomposes env ds n t (ds' ++ [⟨.named x, .fixed, t⟩])

inductive DecomposesAll (env : Environment) :
    (ds : List Portion) → List Node → Text → (ds' : List Portion) → Prop
  | nil {ds : List Portion} : DecomposesAll env ds [] [] ds
  | cons {ds mid ds' : List Portion} {n : Node} {ns : List Node} {a b : Text} :
    Decomposes env ds n a mid → DecomposesAll env mid ns b ds' →
      DecomposesAll env ds (n :: ns) (a ++ b) ds'

end

theorem decomposes_literal {u : Text} : env.Decomposes ds (.literal u) t ds' ↔ t = u ∧ ds' = ds := by
  constructor
  · intro h
    cases h with
    | literal => exact ⟨rfl, rfl⟩
    | wildcard hn | again hn | free hn | bound hn => cases hn
  · rintro ⟨rfl, rfl⟩
    exact .literal

theorem decomposes_wildcard {id : Nat} (hn : n.wildcardId = some id) : env.Decomposes ds n t ds' ↔
    n.Spans t ∧ ds' = ds ++ [⟨.wildcard id, .longer, t⟩] := by
  constructor
  · intro h
    cases h with
    | literal => cases hn
    | wildcard hi spans =>
      cases hn.symm.trans hi
      exact ⟨spans, rfl⟩
    | again hx | free hx | bound hx => cases (wildcardId_of_variableName hx).symm.trans hn
  · rintro ⟨spans, rfl⟩
    exact .wildcard hn spans

theorem decomposes_again {u : Text} (hn : n.variableName = some x) (taken : textAt ds (.named x) = some u) :
    env.Decomposes ds n t ds' ↔ t = u ∧ ds' = ds := by
  constructor
  · intro h
    cases h with
    | literal => cases hn
    | wildcard hi => cases (wildcardId_of_variableName hn).symm.trans hi
    | again hy taken' =>
      cases hn.symm.trans hy
      exact ⟨Option.some.inj (taken'.symm.trans taken), rfl⟩
    | free hy fresh | bound hy fresh =>
      cases hn.symm.trans hy
      cases taken.symm.trans fresh
  · rintro ⟨rfl, rfl⟩
    exact .again hn taken

theorem decomposes_free (hn : n.variableName = some x) (fresh : textAt ds (.named x) = none)
    (hf : env.Resolves x none) : env.Decomposes ds n t ds' ↔
      Piece.InLine t ∧ ds' = ds ++ [⟨.named x, .shorter, t⟩] := by
  constructor
  · intro h
    cases h with
    | literal => cases hn
    | wildcard hi => cases (wildcardId_of_variableName hn).symm.trans hi
    | again hy taken =>
      cases hn.symm.trans hy
      cases taken.symm.trans fresh
    | free hy _ _ ht =>
      cases hn.symm.trans hy
      exact ⟨ht, rfl⟩
    | bound hy _ hb =>
      cases hn.symm.trans hy
      cases hf.unique hb
  · rintro ⟨ht, rfl⟩
    exact .free hn fresh hf ht

theorem decomposes_bound (hn : n.variableName = some x) (fresh : textAt ds (.named x) = none)
    (hb : env.Resolves x (some ns)) : env.Decomposes ds n t ds' ↔
      ∃ mid, env.DecomposesAll ds ns t mid ∧ ds' = mid ++ [⟨.named x, .fixed, t⟩] := by
  constructor
  · intro h
    cases h with
    | literal => cases hn
    | wildcard hi => cases (wildcardId_of_variableName hn).symm.trans hi
    | again hy taken =>
      cases hn.symm.trans hy
      cases taken.symm.trans fresh
    | free hy _ hf =>
      cases hn.symm.trans hy
      cases hf.unique hb
    | bound hy _ hb' h =>
      cases hn.symm.trans hy
      cases hb.unique hb'
      exact ⟨_, h, rfl⟩
  · rintro ⟨mid, h, rfl⟩
    exact .bound hn fresh hb h

theorem decomposesAll_nil : env.DecomposesAll ds [] t ds' ↔ t = [] ∧ ds' = ds := by
  constructor
  · intro h
    cases h
    exact ⟨rfl, rfl⟩
  · rintro ⟨rfl, rfl⟩
    exact .nil

theorem decomposesAll_cons : env.DecomposesAll ds (n :: ns) t ds' ↔
    ∃ a b mid, t = a ++ b ∧ env.Decomposes ds n a mid ∧ env.DecomposesAll mid ns b ds' := by
  constructor
  · intro h
    cases h with
    | cons hn hns => exact ⟨_, _, _, rfl, hn, hns⟩
  · rintro ⟨a, b, mid, rfl, hn, hns⟩
    exact .cons hn hns

mutual

theorem Decomposes.exists_append : ∀ {ds n t ds'}, env.Decomposes ds n t ds' → ∃ es, ds' = ds ++ es
  | _, _, _, _, .literal | _, _, _, _, .again .. => ⟨[], (List.append_nil _).symm⟩
  | _, _, _, _, .wildcard .. | _, _, _, _, .free .. => ⟨_, rfl⟩
  | _, _, _, _, .bound _ _ _ h => by
    obtain ⟨es, e⟩ := h.exists_append
    exact ⟨_, by rw [e, List.append_assoc]⟩

theorem DecomposesAll.exists_append : ∀ {ds ns t ds'}, env.DecomposesAll ds ns t ds' → ∃ es, ds' = ds ++ es
  | _, _, _, _, .nil => ⟨[], (List.append_nil _).symm⟩
  | _, _, _, _, .cons h hs => by
    obtain ⟨es, e⟩ := h.exists_append
    obtain ⟨fs, e'⟩ := hs.exists_append
    exact ⟨es ++ fs, by rw [e', e, List.append_assoc]⟩

end

/-- The variables that have portions do not lead back to themselves. -/
def Settled (env : Environment) (ds : List Portion) : Prop :=
  ∀ x, (textAt ds (.named x)).isSome → Acc env.OccursIn x

theorem settled_nil : env.Settled [] := nofun

theorem Settled.concat {s : Slot} {prefers : Preference} (h : env.Settled ds)
    (acc : ∀ x, s = .named x → Acc env.OccursIn x) : env.Settled (ds ++ [⟨s, prefers, t⟩]) := fun x hx => by
  by_cases e : s = .named x
  · exact acc x e
  · rw [textAt_concat_of_ne e] at hx
    exact h x hx

mutual

/-- What a variable that takes a text stands for does not lead back to the variable. -/
theorem Decomposes.settled : ∀ {ds n t ds'}, env.Decomposes ds n t ds' → env.Settled ds →
    env.Settled ds' ∧ ∀ x, n.variableName = some x → Acc env.OccursIn x
  | _, _, _, _, .literal, h => ⟨h, fun _ hx => by cases hx⟩
  | _, _, _, _, .wildcard hn _, h => by
    refine ⟨h.concat fun y e => absurd e (Slot.wildcard_ne_named _ y), fun y hy => ?_⟩
    cases (wildcardId_of_variableName hy).symm.trans hn
  | _, _, _, _, .again hn taken, h => ⟨h, fun x hx => by
    cases hx.symm.trans hn
    exact h _ (Option.isSome_iff_exists.2 ⟨_, taken⟩)⟩
  | _, _, _, _, .free (x := x) hn _ hf _, h => by
    refine ⟨h.concat fun y e => Slot.named.inj e ▸ acc_of_free hf, fun y hy => ?_⟩
    cases hy.symm.trans hn
    exact acc_of_free hf
  | _, _, _, _, .bound (x := x) hn _ hb body, h => by
    obtain ⟨h, inner⟩ := body.settled h
    have acc : Acc env.OccursIn x := acc_of_bound hb inner
    refine ⟨h.concat fun y e => Slot.named.inj e ▸ acc, fun y hy => ?_⟩
    cases hy.symm.trans hn
    exact acc

theorem DecomposesAll.settled : ∀ {ds ns t ds'}, env.DecomposesAll ds ns t ds' → env.Settled ds →
    env.Settled ds' ∧ ∀ n ∈ ns, ∀ x, n.variableName = some x → Acc env.OccursIn x
  | _, _, _, _, .nil, h => ⟨h, nofun⟩
  | _, _, _, _, .cons first later, h => by
    obtain ⟨h, acc⟩ := first.settled h
    obtain ⟨h, accs⟩ := later.settled h
    exact ⟨h, List.forall_mem_cons.2 ⟨acc, accs⟩⟩

end

end Environment

end LocalePaths
