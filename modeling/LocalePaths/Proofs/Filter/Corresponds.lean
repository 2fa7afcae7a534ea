import LocalePaths.Proofs.Filter.History

/-!
# Trees node by node

Two trees of configurations correspond if they have the same shape and their settings are related node by
node (`ProjectConfig.Corresponds`). The relation can be another one in the excluded trees. Corresponding
trees have corresponding configurations at every place (`Corresponds.at?`).
-/

namespace LocalePaths

namespace ProjectConfig
variable {E R : Settings → Settings → Prop} {c d e : ProjectConfig} {cs ds es : List ProjectConfig}

mutual

/-- The trees have the same shape. The settings in the include trees are related by `R`, those in the
excluded trees by `E`. -/
inductive Corresponds (E : Settings → Settings → Prop) :
    (R : Settings → Settings → Prop) → ProjectConfig → ProjectConfig → Prop
  | node {R : Settings → Settings → Prop} {own own' : Settings}
      {includes includes' excludes excludes' : List ProjectConfig} :
    R own own' → CorrespondsAll E R includes includes' → CorrespondsAll E E excludes excludes' →
      Corresponds E R (.node own includes excludes) (.node own' includes' excludes')

inductive CorrespondsAll (E : Settings → Settings → Prop) :
    (R : Settings → Settings → Prop) → List ProjectConfig → List ProjectConfig → Prop
  | nil {R : Settings → Settings → Prop} : CorrespondsAll E R [] []
  | cons {R : Settings → Settings → Prop} {c d : ProjectConfig} {cs ds : List ProjectConfig} :
    Corresponds E R c d → CorrespondsAll E R cs ds → CorrespondsAll E R (c :: cs) (d :: ds)

end

mutual

def decideCorresponds {E : Settings → Settings → Prop} [DecidableRel E] (R : Settings → Settings → Prop)
    [DecidableRel R] : (c d : ProjectConfig) → Decidable (Corresponds E R c d)
  | .node s cs es, .node t ds fs =>
    have : Decidable (CorrespondsAll E R cs ds) := decideCorrespondsAll R cs ds
    have : Decidable (CorrespondsAll E E es fs) := decideCorrespondsAll E es fs
    decidable_of_iff (R s t ∧ CorrespondsAll E R cs ds ∧ CorrespondsAll E E es fs)
      ⟨fun h => .node h.1 h.2.1 h.2.2, fun | .node own includes excludes => ⟨own, includes, excludes⟩⟩

def decideCorrespondsAll {E : Settings → Settings → Prop} [DecidableRel E]
    (R : Settings → Settings → Prop) [DecidableRel R] :
    (cs ds : List ProjectConfig) → Decidable (CorrespondsAll E R cs ds)
  | [], [] => isTrue .nil
  | [], _ :: _ => isFalse nofun
  | _ :: _, [] => isFalse nofun
  | c :: cs, d :: ds =>
    have : Decidable (Corresponds E R c d) := decideCorresponds R c d
    have : Decidable (CorrespondsAll E R cs ds) := decideCorrespondsAll R cs ds
    decidable_of_iff (Corresponds E R c d ∧ CorrespondsAll E R cs ds)
      ⟨fun h => .cons h.1 h.2, fun | .cons first later => ⟨first, later⟩⟩

end

instance [DecidableRel E] [DecidableRel R] : DecidableRel (Corresponds E R) := decideCorresponds R

mutual

theorem Corresponds.locales {R : Settings → Settings → Prop} {c d : ProjectConfig}
    (same : ∀ s t, R s t → s.declaredLocales = t.declaredLocales) : Corresponds E R c d →
      c.configs.flatMap (fun e => e.own.declaredLocales) = d.configs.flatMap fun e => e.own.declaredLocales
  | .node own includes _ => by
    simp only [configs, List.flatMap_cons]
    exact congrArg₂ (· ++ ·) (same _ _ own) (CorrespondsAll.locales same includes)

theorem CorrespondsAll.locales {R : Settings → Settings → Prop} {cs ds : List ProjectConfig}
    (same : ∀ s t, R s t → s.declaredLocales = t.declaredLocales) : CorrespondsAll E R cs ds →
      (configsOf cs).flatMap (fun e => e.own.declaredLocales) =
        (configsOf ds).flatMap fun e => e.own.declaredLocales
  | .nil => rfl
  | .cons first later => by
    simp only [configsOf, List.flatMap_append]
    exact congrArg₂ (· ++ ·) (Corresponds.locales same first) (CorrespondsAll.locales same later)

end

mutual

theorem corresponds_refl (refl : ∀ s, R s s) : ∀ c : ProjectConfig, Corresponds R R c c
  | .node own includes excludes =>
    .node (refl own) (correspondsAll_refl refl includes) (correspondsAll_refl refl excludes)

theorem correspondsAll_refl (refl : ∀ s, R s s) : ∀ cs : List ProjectConfig, CorrespondsAll R R cs cs
  | [] => .nil
  | c :: cs => .cons (corresponds_refl refl c) (correspondsAll_refl refl cs)

end

mutual

theorem Corresponds.trans (trans : ∀ s t u, R s t → R t u → R s u) : ∀ {c d e : ProjectConfig},
    Corresponds R R c d → Corresponds R R d e → Corresponds R R c e
  | _, _, _, .node own includes excludes, .node own' includes' excludes' =>
    .node (trans _ _ _ own own') (CorrespondsAll.trans trans includes includes')
      (CorrespondsAll.trans trans excludes excludes')

theorem CorrespondsAll.trans (trans : ∀ s t u, R s t → R t u → R s u) :
    ∀ {cs ds es : List ProjectConfig},
      CorrespondsAll R R cs ds → CorrespondsAll R R ds es → CorrespondsAll R R cs es
  | _, _, _, .nil, .nil => .nil
  | _, _, _, .cons first later, .cons first' later' =>
    .cons (Corresponds.trans trans first first') (CorrespondsAll.trans trans later later')

end

mutual

theorem Corresponds.bare (same : ∀ s t, R s t → s.invalidate = t.invalidate) :
    ∀ {c d : ProjectConfig}, Corresponds R R c d → c.bare = d.bare
  | _, _, .node own includes excludes => by
    simp only [ProjectConfig.bare, same _ _ own, CorrespondsAll.bare same includes,
      CorrespondsAll.bare same excludes]

theorem CorrespondsAll.bare (same : ∀ s t, R s t → s.invalidate = t.invalidate) :
    ∀ {cs ds : List ProjectConfig}, CorrespondsAll R R cs ds → bareAll cs = bareAll ds
  | _, _, .nil => rfl
  | _, _, .cons first later => by
    simp only [bareAll, Corresponds.bare same first, CorrespondsAll.bare same later]

end

section
variable {f : ProjectConfig → ProjectConfig} (refl : ∀ s, R s s) (hf : ∀ c, Corresponds R R c (f c))
include refl hf

theorem correspondsAll_modify : ∀ (i : Nat) (cs : List ProjectConfig),
    CorrespondsAll R R cs (cs.modify i f)
  | _, [] => by
    rw [List.modify_nil]
    exact .nil
  | 0, c :: cs => .cons (hf c) (correspondsAll_refl refl cs)
  | i + 1, c :: cs => .cons (corresponds_refl refl c) (correspondsAll_modify i cs)

theorem corresponds_modifyAt : ∀ (place : List Part) (c : ProjectConfig),
    Corresponds R R c (modifyAt f place c)
  | [], c => hf c
  | .included i :: place, .node own includes excludes =>
    .node (refl own) (correspondsAll_modify refl (corresponds_modifyAt place) i includes)
      (correspondsAll_refl refl excludes)
  | .excluded i :: place, .node own includes excludes =>
    .node (refl own) (correspondsAll_refl refl includes)
      (correspondsAll_modify refl (corresponds_modifyAt place) i excludes)

end

theorem CorrespondsAll.getElem? (h : CorrespondsAll E R cs ds) {i : Nat} (hc : cs[i]? = some c) :
    ∃ d, ds[i]? = some d ∧ Corresponds E R c d := by
  induction i generalizing cs ds with
  | zero =>
    cases h with
    | nil => cases hc
    | cons first later =>
      cases hc
      exact ⟨_, rfl, first⟩
  | succ i ih =>
    cases h with
    | nil => cases hc
    | cons first later => exact ih later hc

theorem Corresponds.at? : ∀ {place : List Part} {c d e : ProjectConfig}, Corresponds R R c d →
    ProjectConfig.at? place c = some e → ∃ e', ProjectConfig.at? place d = some e' ∧ Corresponds R R e e'
  | [], _, d, _, h, found => ⟨d, rfl, Option.some.inj found ▸ h⟩
  | .included i :: place, _, _, e, .node _ includes _, found => by
    obtain ⟨c, hc, found⟩ := Option.bind_eq_some_iff.1 found
    obtain ⟨d, hd, h⟩ := includes.getElem? hc
    obtain ⟨e', found', h⟩ := h.at? found
    exact ⟨e', Option.bind_eq_some_iff.2 ⟨d, hd, found'⟩, h⟩
  | .excluded i :: place, _, _, e, .node _ _ excludes, found => by
    obtain ⟨c, hc, found⟩ := Option.bind_eq_some_iff.1 found
    obtain ⟨d, hd, h⟩ := excludes.getElem? hc
    obtain ⟨e', found', h⟩ := h.at? found
    exact ⟨e', Option.bind_eq_some_iff.2 ⟨d, hd, found'⟩, h⟩

end ProjectConfig

end LocalePaths
