import LocalePaths.Proofs.Piece.Spelling
import LocalePaths.Proofs.Regex.Relabel

/-!
# What written pieces are read as

The written form of pieces is read as an expression that differs from the meaning of the pieces in two ways
only: groups are labelled by their numbers, and a row that matches nothing more is left out
(`Piece.read`). Under the other labels it matches as the pieces do (`Piece.renames_read`), and it is what
the reader makes of the written form of a translation (`Piece.TranslatesAll.leads`). So a search for what is
written finds what a search for the pieces finds (`Piece.TranslatesAll.parse?_wholeSource`). Only what nests
too deep is refused (`Piece.TranslatesAll.parse?_wholeSource_eq_none`).
-/

namespace LocalePaths

namespace Piece
open Regex (Quiet Reading Renames nestLimit spell)
open Regex.Read (Fails IsName Leads joined labelOf)

variable {env : Environment} {e f : Text → Text} {h : Regex → Regex} {o o' a b : List Text} {n : Node}
  {p : Piece} {ns : List Node} {ps : List Piece} {r s : Regex} {g x t u : Text} {l d k : Nat}

/-! ### The expression that is read -/

mutual

/-- What a piece is read as in front of `r`, if its groups are labelled by `f`. -/
def read (f : Text → Text) : Piece → Regex → Regex
  | text t, r => spell t r
  | star group, r => joined (grouped (group.map f) (.many .notSlash true)) r
  | starstar group ending, r =>
    let content := joined (.seq (.char .dot) (.many .dot true)) (spell ending .empty)
    joined (.times (grouped (group.map f) content) 0 (some 1) true) r
  | free group, r => joined (.group (f group) false (.seq (.char .dot) (.many .dot false))) r
  | bound group body, r => joined (.group (f group) false (readAll f body .empty)) r
  | again group, r => joined (.backref (f group)) r

def readAll (f : Text → Text) : List Piece → Regex → Regex
  | [], r => r
  | p :: ps, r => p.read f (readAll f ps r)

end

theorem renames_grouped (hf : Function.Injective f) (hr : Renames f r s) :
    ∀ group : Option Text, Renames f (grouped (group.map f) r) (grouped group s)
  | none => hr
  | some g => hr.group hf g

mutual

/-- What a piece is read as matches as the piece does. -/
theorem renames_read (hf : Function.Injective f) : ∀ (p : Piece) {r s : Regex}, Renames f r s →
    Renames f (p.read f r) (.seq p.regex s)
  | text t, _, _, hr => hr.spell t
  | star group, _, _, hr => (renames_grouped hf (.many .notSlash true) group).joined hr
  | starstar group ending, _, _, hr => by
    have content : Renames f (joined (.seq (.char .dot) (.many .dot true)) (spell ending .empty))
        (.seq (.char .dot) (.seq (.many .dot true) (.text ending))) :=
      Renames.seq_assoc.1 <|
        ((Renames.char .dot).seq (.many .dot true)).joined (Renames.empty.spell ending).seq_empty
    exact (renames_grouped hf content group).optional.joined hr
  | free group, _, _, hr => (((Renames.char .dot).seq (.many .dot false)).group hf group).joined hr
  | bound group body, _, _, hr => ((renames_readAll hf body .empty).seq_empty.group hf group).joined hr
  | again group, _, _, hr => (Renames.backref hf group).joined hr

theorem renames_readAll (hf : Function.Injective f) : ∀ (ps : List Piece) {r s : Regex}, Renames f r s →
    Renames f (readAll f ps r) (.seq (regexes ps) s)
  | [], _, _, hr => hr.empty_seq
  | p :: ps, _, _, hr => Renames.seq_assoc.2 (renames_read hf p (renames_readAll hf ps hr))

end

/-! ### Labels -/

/-- The group can be opened after the groups `o`: its label is the next number. -/
def IsNext (f : Text → Text) (o : List Text) (g : Text) : Prop :=
  IsName g ∧ f g = labelOf (o.length + 1)

/-- The groups are labelled by their numbers; the latest one comes first. -/
def Numbered (f : Text → Text) : List Text → Prop
  | [] => True
  | g :: o => f g = labelOf (o.length + 1) ∧ Numbered f o

/-- The labels of groups by their numbers. Any other name becomes a text that is no number. -/
def labelIn : List Text → Text → Text
  | [], x => 'v' :: x
  | g :: o, x => if x = g then labelOf (o.length + 1) else labelIn o x

theorem Numbered.of_append {o' : List Text} : ∀ {o : List Text}, Numbered f (o ++ o') → Numbered f o'
  | [], h => h
  | _ :: _, h => of_append h.2

theorem Numbered.congr : ∀ {o : List Text}, (∀ g ∈ o, f g = e g) → Numbered e o → Numbered f o
  | [], _, _ => trivial
  | _ :: _, same, h =>
    have ⟨first, others⟩ := List.forall_mem_cons.1 same
    ⟨first.trans h.1, h.2.congr others⟩

theorem numbered_labelIn : ∀ {o : List Text}, o.Nodup → Numbered (labelIn o) o
  | [], _ => trivial
  | g :: o, distinct => by
    obtain ⟨hg, distinct⟩ := List.nodup_cons.1 distinct
    refine ⟨if_pos rfl, (numbered_labelIn distinct).congr fun x hx => if_neg ?_⟩
    rintro rfl
    exact hg hx

theorem labelOf_injective {i j : Nat} (h : labelOf i = labelOf j) : i = j :=
  starName_injective (congrArg ('s' :: ·) h)

theorem le_length_of_labelIn : ∀ {o : List Text}, labelIn o x = labelOf k → k ≤ o.length
  | [], h => by
    have digit : ('v').isDigit = true :=
      Nat.isDigit_of_mem_toDigits (by decide) (by decide) (h ▸ List.mem_cons_self : 'v' ∈ labelOf k)
    exact absurd digit (by decide)
  | g :: o, h => by
    unfold labelIn at h
    split at h
    · exact (labelOf_injective h).ge
    · exact Nat.le_succ_of_le (le_length_of_labelIn h)

theorem labelIn_injective : ∀ o : List Text, Function.Injective (labelIn o)
  | [], _, _, h => (List.cons.inj h).2
  | g :: o, x, y, h => by
    have other {z : Text} : labelIn o z ≠ labelOf (o.length + 1) := fun e =>
      absurd (le_length_of_labelIn e) (Nat.not_succ_le_self _)
    unfold labelIn at h
    split at h <;> split at h
    · exact ‹x = g›.trans ‹y = g›.symm
    · exact absurd h.symm other
    · exact absurd h other
    · exact labelIn_injective o h

theorem Numbered.map_zipIdx {α : Type} (F : Text → Text → α) : ∀ {o : List Text}, Numbered f o →
    (o.reverse.zipIdx.map fun (g, i) => F g (labelOf (i + 1))) = o.reverse.map fun g => F g (f g)
  | [], _ => rfl
  | g :: o, ⟨latest, numbered⟩ => by
    rw [List.reverse_cons, List.zipIdx_append, List.map_append, List.map_append, numbered.map_zipIdx F]
    simp [latest]

theorem openOnce_snd : (openOnce o g).2 = (openOnce o g).1.toList ++ o := by
  unfold openOnce
  split <;> rfl

theorem reverse_toList (group : Option Text) : group.toList.reverse = group.toList := by
  cases group <;> rfl

mutual

theorem Translates.opened_eq : ∀ {o n p o'}, Translates env o n p o' → o' = p.groups.reverse ++ o
  | _, _, _, _, .literal | _, _, _, _, .again .. | _, _, _, _, .free .. => rfl
  | _, _, _, _, .star | _, _, _, _, .starstar => by rw [groups, reverse_toList, openOnce_snd]
  | _, _, _, _, .bound _ _ _ h => by rw [h.opened_eq, groups, List.reverse_cons, List.append_assoc]; rfl

theorem TranslatesAll.opened_eq : ∀ {o ns ps o'}, TranslatesAll env o ns ps o' →
    o' = (groupsOf ps).reverse ++ o
  | _, _, _, _, .nil => rfl
  | _, _, _, _, .cons hn h => by
    rw [h.opened_eq, hn.opened_eq, groupsOf, List.reverse_append, List.append_assoc]

end

theorem Numbered.before (h : TranslatesAll env o ns ps o') (numbered : Numbered f o') : Numbered f o := by
  rw [h.opened_eq] at numbered
  exact numbered.of_append

/-! ### Reading what is written -/

theorem quotes_isSpecial : Regex.Quotes isSpecial where
  operators := List.all_eq_true.1 (by decide)
  others c h := by
    have noLetter : ("\\.+*?()|[]\x7b\x7d^$#&-~".toList.all fun c => !c.isAlphanum) = true := by decide
    simpa using List.all_eq_true.1 noLetter c (List.contains_iff_mem.1 h)

theorem quiet_opening (group : Option Text) : Quiet (opening group ++ t) := by
  cases group with
  | none => exact ⟨rfl, by simp [opening]⟩
  | some g => exact ⟨rfl, by simp [opening]⟩

theorem quiet_source (h : Quiet t) : ∀ p : Piece, Quiet (p.source ++ t)
  | text u => Regex.quiet_quote quotes_isSpecial h u
  | again _ => Regex.quiet_cons (by decide)
  | star _ | starstar _ _ | free _ | bound _ _ => by
    simp only [source, List.append_assoc]
    exact quiet_opening _

theorem quiet_sources (h : Quiet t) (ps : List Piece) : Quiet (sources ps ++ t) := by
  induction ps with
  | nil => exact h
  | cons p ps ih =>
    rw [sources, List.append_assoc]
    exact quiet_source ih p

/-- Reading stands before `t`; the groups `o` have been opened, and the ones labelled `a` referred to. -/
def amid (f : Text → Text) (l : Nat) (o a : List Text) (t : Text) : Reading :=
  ⟨t, .none, o.length, o.map fun g => (g, f g), false, a, l⟩

theorem toNat_lt_of_isAlphanum {c : Char} (h : c.isAlphanum = true) : c.toNat < 128 := by
  have bound {d : Char} (hd : d.toNat < 128) (le : c.val ≤ d.val) : c.toNat < 128 :=
    (UInt32.le_iff_toNat_le.1 le).trans_lt hd
  rcases Bool.or_eq_true_iff.1 h with alpha | digit
  · rcases Bool.or_eq_true_iff.1 alpha with upper | lower
    · exact bound (d := 'Z') (by decide) (of_decide_eq_true upper).2
    · exact bound (d := 'z') (by decide) (of_decide_eq_true (Bool.and_eq_true_iff.1 lower).2)
  · exact bound (d := '9') (by decide) (of_decide_eq_true (Bool.and_eq_true_iff.1 digit).2)

theorem isNameChar_of_isAlphanum {c : Char} (h : c.isAlphanum = true) :
    Regex.Read.isNameChar c = true := by
  have ascii : ∀ n : Fin 128, (Char.ofNat n).isAlphanum = true →
      Regex.Read.isNameChar (Char.ofNat n) = true := by decide +kernel
  simpa using ascii ⟨c.toNat, toNat_lt_of_isAlphanum h⟩ (by simpa using h)

theorem isName_cons {c : Char} (hc : Regex.Read.isNameChar c = true)
    (h : ∀ d ∈ t, Regex.Read.isNameChar d = true) : IsName (c :: t) :=
  ⟨List.cons_ne_nil c t, List.forall_mem_cons.2 ⟨hc, h⟩⟩

theorem isName_groupName (h : Token.IsWord x) : IsName (groupName x) := by
  refine isName_cons (by decide +kernel) (List.forall_mem_cons.2 ⟨by decide +kernel, fun c hc => ?_⟩)
  rcases Bool.or_eq_true_iff.1 (h.2 c hc) with alphanum | underscore
  · exact isNameChar_of_isAlphanum alphanum
  · obtain rfl := of_decide_eq_true underscore
    decide +kernel

theorem isName_starName (id : Nat) : IsName (starName id) := by
  refine isName_cons (by decide +kernel) fun c hc => isNameChar_of_isAlphanum ?_
  have digit := Nat.isDigit_of_mem_toDigits (by decide) (by decide) hc
  rw [Char.isAlphanum, digit, Bool.or_true]

theorem named_openOnce {id : Nat} (numbered : Numbered f (openOnce o (starName id)).2) :
    ∀ g ∈ (openOnce o (starName id)).1, IsNext f o g := by
  intro g hg
  have name : g = starName id := openOnce_eq (Option.mem_toList.2 hg)
  rw [openOnce_snd, Option.mem_def.1 hg] at numbered
  exact ⟨name ▸ isName_starName id, numbered.1⟩

/-- A group is read as what is in it, under the label of its number if it has a name. -/
theorem atom_opening {group : Option Text} (named : ∀ g ∈ group, IsNext f o g)
    (hd : d + 1 < nestLimit)
    (content : Leads (d + 1) (amid f l (group.toList ++ o) a t) (amid f l o' b (')' :: u)) h)
    (hk : 2 * (opening group ++ t).length + 6 ≤ k) :
    Regex.Read.atom k d (amid f l o a (opening group ++ t)) =
      some (grouped (group.map f) (h .empty), amid f l o' b u) := by
  cases group with
  | none =>
    have enough : 2 * t.length + 12 ≤ k := by
      simp [opening] at hk
      omega
    exact Regex.Read.atom_unnamed (w := amid f l o a []) (v := amid f l o' b []) rfl rfl rfl hd content
      enough
  | some g =>
    obtain ⟨name, label⟩ := named g rfl
    have written : opening (some g) ++ t = "(?P<".toList ++ g ++ '>' :: t := by
      simp only [opening, List.append_assoc, List.singleton_append]
    have enough : 2 * t.length + 12 ≤ k := by
      simp [opening] at hk
      omega
    have inside : Leads (d + 1) ⟨t, .none, o.length + 1, (g, labelOf (o.length + 1)) ::
        o.map fun g => (g, f g), false, a, l⟩ (amid f l o' b (')' :: u)) h := label ▸ content
    rw [written]
    show _ = some (Regex.group (f g) false (h .empty), _)
    rw [label]
    exact Regex.Read.atom_named (w := amid f l o a []) (v := amid f l o' b []) rfl rfl rfl name hd
      inside enough

theorem leads_opening (group : Option Text) (named : ∀ g ∈ group, IsNext f o g) (hd : d + 1 < nestLimit)
    (quiet : Quiet u)
    (content : Leads (d + 1) (amid f l (group.toList ++ o) a (t ++ ')' :: u))
      (amid f l o' b (')' :: u)) h) :
    Leads d (amid f l o a (opening group ++ (t ++ ')' :: u))) (amid f l o' b u)
      (joined (grouped (group.map f) (h .empty))) := by
  refine Regex.Read.leads_of_atom (v := amid f l o' b []) rfl quiet ?_ fun k hk =>
    atom_opening named hd content hk
  show u.length < (opening group ++ (t ++ ')' :: u)).length
  simp
  omega

theorem leads_dots (lazily : Bool) (quiet : Quiet t) :
    Leads d (amid f l o a ('.' :: '+' :: (if lazily then ['?'] else []) ++ t)) (amid f l o a t)
      (joined (.seq (.char .dot) (.many .dot !lazily))) := by
  refine Regex.Read.leads_of_piece ?_ fun k hk => ?_
  · show t.length < ('.' :: '+' :: (if lazily then ['?'] else []) ++ t).length
    simp
    omega
  · obtain ⟨k, rfl⟩ : ∃ m, k = m + 2 := ⟨k - 2, by omega⟩
    exact Regex.Read.piece_repeated (v := amid f l o a []) lazily (.tail _ (.tail _ (.head _))) rfl quiet
      (Regex.Read.atom_dot (w := amid f l o a []) rfl k d _) rfl rfl

theorem leads_notSlashes (quiet : Quiet t) :
    Leads d (amid f l o a ("[^/]".toList ++ '*' :: t)) (amid f l o a t) (joined (.many .notSlash true)) := by
  refine Regex.Read.leads_of_piece ?_ fun k hk => ?_
  · show t.length < ("[^/]".toList ++ '*' :: t).length
    simp
    omega
  · obtain ⟨k, rfl⟩ : ∃ m, k = m + 2 := ⟨k - 2, by omega⟩
    exact Regex.Read.piece_repeated (v := amid f l o a []) false (.tail _ (.head _)) rfl quiet
      (Regex.Read.atom_notSlash (w := amid f l o a []) rfl k d _) rfl rfl

theorem find?_amid (hg : g ∈ o) : (o.map fun g => (g, f g)).find? (·.1 = g) = some (g, f g) := by
  induction o with
  | nil => cases hg
  | cons k o ih =>
    rw [List.map_cons, List.find?_cons]
    by_cases e : k = g
    · simp [e]
    · simp [e, ih ((List.mem_cons.1 hg).resolve_left (Ne.symm e))]

theorem leads_again (name : IsName g) (hg : g ∈ o) (quiet : Quiet t) :
    Leads d (amid f l o a ((again g).source ++ t)) (amid f l o (f g :: a) t)
      (joined (.backref (f g))) := by
  refine Regex.Read.leads_of_atom (v := amid f l o (f g :: a) []) rfl quiet ?_ fun k hk => ?_
  · show t.length < ((again g).source ++ t).length
    simp [source]
    omega
  · obtain ⟨k, rfl⟩ : ∃ m, k = m + 1 := ⟨k - 1, by omega⟩
    have written : (again g).source ++ t = "\\k<".toList ++ g ++ '>' :: t := by simp [source]
    rw [written]
    exact Regex.Read.atom_reference (w := amid f l o a []) rfl name (find?_amid hg) k d t

theorem quiet_closing : Quiet (')' :: t) := Regex.quiet_cons (by decide)

theorem leads_star {group : Option Text} (named : ∀ g ∈ group, IsNext f o g)
    (hd : d + 1 < nestLimit) (quiet : Quiet t) :
    Leads d (amid f l o a ((star group).source ++ t)) (amid f l (group.toList ++ o) a t)
      ((star group).read f) := by
  have written : (star group).source ++ t = opening group ++ ("[^/]*".toList ++ ')' :: t) := by
    simp [source]
  have content : Leads (d + 1) (amid f l (group.toList ++ o) a ("[^/]*".toList ++ ')' :: t))
      (amid f l (group.toList ++ o) a (')' :: t)) (joined (.many .notSlash true)) :=
    leads_notSlashes quiet_closing
  rw [written]
  exact leads_opening group named hd quiet content

theorem repeated_optional (r : Regex) : Regex.repeated r 0 (some 1) true = some (.times r 0 (some 1) true) := by
  cases r <;> rfl

theorem isRepeatable_joined (q r s : Regex) : (joined (.seq q r) s).isRepeatable = true := by
  cases s <;> rfl

theorem isRepeatable_grouped {group : Option Text} (h : r.isRepeatable = true) :
    (grouped group r).isRepeatable = true := by
  cases group with
  | none => exact h
  | some g => rfl

theorem leads_starstar {group : Option Text} {ending : Text} (named : ∀ g ∈ group, IsNext f o g)
    (hd : d + 1 < nestLimit) (quiet : Quiet t) :
    Leads d (amid f l o a ((starstar group ending).source ++ t)) (amid f l (group.toList ++ o) a t)
      ((starstar group ending).read f) := by
  have written : (starstar group ending).source ++ t =
      opening group ++ (".+".toList ++ escape ending ++ ')' :: '?' :: t) := by simp [source]
  have content : Leads (d + 1)
      (amid f l (group.toList ++ o) a (".+".toList ++ escape ending ++ ')' :: '?' :: t))
      (amid f l (group.toList ++ o) a (')' :: '?' :: t)) _ :=
    (leads_dots false (Regex.quiet_quote quotes_isSpecial quiet_closing ending)).trans
      (Regex.Read.leads_quote (w := amid f l _ a []) quotes_isSpecial rfl quiet_closing ending)
  rw [written]
  refine Regex.Read.leads_of_piece ?_ fun k hk => ?_
  · show t.length < (opening group ++ (".+".toList ++ escape ending ++ ')' :: '?' :: t)).length
    simp
    omega
  · obtain ⟨k, rfl⟩ : ∃ m, k = m + 1 := ⟨k - 1, by omega⟩
    have atom := atom_opening named hd content (Nat.le_of_succ_le_succ hk)
    exact Regex.Read.piece_repeated (v := amid f l _ a []) false (.head _) rfl quiet atom
      (isRepeatable_grouped (isRepeatable_joined _ _ _)) (repeated_optional _)

theorem forall_mem_some {P : Text → Prop} (h : P g) : ∀ x ∈ some g, P x := by
  rintro _ ⟨⟩
  exact h

theorem leads_free (named : IsNext f o g) (hd : d + 1 < nestLimit) (quiet : Quiet t) :
    Leads d (amid f l o a ((free g).source ++ t)) (amid f l (g :: o) a t) ((free g).read f) := by
  have written : (free g).source ++ t = opening (some g) ++ (".+?".toList ++ ')' :: t) := by simp [source]
  rw [written]
  exact leads_opening (some g) (forall_mem_some named) hd quiet (leads_dots true quiet_closing)

theorem leads_bound {body : List Piece} (named : IsNext f o g) (hd : d + 1 < nestLimit) (quiet : Quiet t)
    (content : Leads (d + 1) (amid f l (g :: o) a (sources body ++ ')' :: t)) (amid f l o' b (')' :: t))
      (readAll f body)) :
    Leads d (amid f l o a ((bound g body).source ++ t)) (amid f l o' b t) ((bound g body).read f) := by
  have written : (bound g body).source ++ t = opening (some g) ++ (sources body ++ ')' :: t) := by
    simp [source]
  rw [written]
  exact leads_opening (some g) (forall_mem_some named) hd quiet content

mutual

/-- The written form of a piece is read as the piece; it refers to a group only if it is not easy. -/
theorem Translates.leads (he : ∀ x v, env.get? x = some v → v.Formed) :
    ∀ {o n p o'} {a : List Text} {t : Text} {d : Nat}, Translates env o n p o' → n.IsWorded →
      Numbered f o' → d + p.depth < nestLimit → Quiet t →
        ∃ b, Leads d (amid f l o a (p.source ++ t)) (amid f l o' b t) (p.read f) ∧
          (p.regex.isEasy = true → b = a)
  | _, _, _, _, a, _, _, .literal, _, _, _, quiet =>
    ⟨a, Regex.Read.leads_quote (w := amid f l _ a []) quotes_isSpecial rfl quiet _, fun _ => rfl⟩
  | _, _, _, _, a, _, _, .star, _, numbered, hd, quiet =>
    ⟨a, openOnce_snd ▸ leads_star (named_openOnce numbered) hd quiet, fun _ => rfl⟩
  | _, _, _, _, a, _, _, .starstar, _, numbered, hd, quiet =>
    ⟨a, openOnce_snd ▸ leads_starstar (named_openOnce numbered) hd quiet, fun _ => rfl⟩
  | _, _, _, _, a, _, _, .free hx _ _, word, numbered, hd, quiet =>
    ⟨a, leads_free ⟨isName_groupName (word _ hx), numbered.1⟩ hd quiet, fun _ => rfl⟩
  | _, _, .bound _ body, _, a, _, d, .bound hx _ value h, word, numbered, hd, quiet => by
    have hd : d + (depths body + 1) < nestLimit := hd
    obtain ⟨b, content, easy⟩ := h.leads (d := d + 1) (a := a) he (value.isWorded he) numbered (by omega)
      quiet_closing
    have named : IsNext f _ _ := ⟨isName_groupName (word _ hx), (Numbered.before h numbered).1⟩
    exact ⟨b, leads_bound named (by omega) quiet content, easy⟩
  | _, _, _, _, a, t, _, .again hx ho, word, _, _, quiet =>
    ⟨_, leads_again (isName_groupName (word _ hx)) ho quiet, nofun⟩

theorem TranslatesAll.leads (he : ∀ x v, env.get? x = some v → v.Formed) :
    ∀ {o ns ps o'} {a : List Text} {t : Text} {d : Nat}, TranslatesAll env o ns ps o' →
      (∀ n ∈ ns, n.IsWorded) → Numbered f o' → d + depths ps < nestLimit → Quiet t →
        ∃ b, Leads d (amid f l o a (sources ps ++ t)) (amid f l o' b t) (readAll f ps) ∧
          ((regexes ps).isEasy = true → b = a)
  | _, _, _, _, a, _, _, .nil, _, _, _, _ => ⟨a, .refl _ _, fun _ => rfl⟩
  | _, _, p :: ps, _, a, t, d, .cons hn h, words, numbered, hd, quiet => by
    obtain ⟨word, words⟩ := List.forall_mem_cons.1 words
    rw [depths] at hd
    obtain ⟨b, first, easy⟩ := hn.leads (d := d) (a := a) he word (Numbered.before h numbered) (by omega)
      (quiet_sources quiet ps)
    obtain ⟨c, others, easy'⟩ := h.leads (d := d) (a := b) he words numbered (by omega) quiet
    refine ⟨c, ?_, fun both => ?_⟩
    · rw [sources, List.append_assoc]
      exact first.trans others
    · obtain ⟨hp, hps⟩ := Bool.and_eq_true_iff.1 both
      rw [easy' hps, easy hp]

end

/-! ### Pieces that nest too deep -/

theorem fails_opening {group : Option Text} (hd : nestLimit ≤ d + 1) :
    Fails d (amid f l o a (opening group ++ t)) := by
  have quiet : Quiet (opening group ++ t) := quiet_opening group
  have parenthesis : ∃ u, opening group ++ t = '(' :: u := by cases group <;> exact ⟨_, rfl⟩
  obtain ⟨u, e⟩ := parenthesis
  rw [e] at quiet ⊢
  exact Regex.Read.fails_of_atom (List.cons_ne_nil _ _) fun k hk =>
    Regex.Read.atom_deep (w := amid f l o a []) rfl quiet hd (by omega)

theorem fails_bound {body : List Piece} (named : IsNext f o g) (hd : d + 1 < nestLimit)
    (content : Fails (d + 1) (amid f l (g :: o) a (sources body ++ ')' :: t))) :
    Fails d (amid f l o a ((bound g body).source ++ t)) := by
  have written : (bound g body).source ++ t = "(?P<".toList ++ g ++ '>' :: (sources body ++ ')' :: t) := by
    simp [source, opening]
  have inside : Fails (d + 1) ⟨sources body ++ ')' :: t, .none, o.length + 1,
      (g, labelOf (o.length + 1)) :: o.map fun g => (g, f g), false, a, l⟩ := named.2 ▸ content
  rw [written]
  refine Regex.Read.fails_of_atom (List.cons_ne_nil _ _) fun k hk => ?_
  refine Regex.Read.atom_named_none (w := amid f l o a []) rfl named.1 hd inside ?_
  simp [amid] at hk
  simp
  omega

mutual

theorem Translates.fails (he : ∀ x v, env.get? x = some v → v.Formed) :
    ∀ {o n p o'} {a : List Text} {t : Text} {d : Nat}, Translates env o n p o' → n.IsWorded →
      Numbered f o' → d < nestLimit → nestLimit ≤ d + p.depth → Quiet t →
        Fails d (amid f l o a (p.source ++ t))
  | _, _, _, _, _, _, _, .literal, _, _, hd, deep, _
  | _, _, _, _, _, _, _, .again .., _, _, hd, deep, _ => absurd hd (Nat.not_lt.2 deep)
  | _, _, _, _, _, _, _, .star, _, _, _, deep, _
  | _, _, _, _, _, _, _, .starstar, _, _, _, deep, _
  | _, _, _, _, _, _, _, .free .., _, _, _, deep, _ => by
    simp only [source, List.append_assoc]
    exact fails_opening deep
  | _, _, .bound _ body, _, _, _, d, .bound hx _ value h, word, numbered, _, deep, _ => by
    have deep : nestLimit ≤ d + (depths body + 1) := deep
    rcases Nat.lt_or_ge (d + 1) nestLimit with hd | hd
    · have named : IsNext f _ _ := ⟨isName_groupName (word _ hx), (Numbered.before h numbered).1⟩
      exact fails_bound named hd <|
        h.fails (d := d + 1) he (value.isWorded he) numbered hd (by omega) quiet_closing
    · simp only [source, List.append_assoc]
      exact fails_opening hd

theorem TranslatesAll.fails (he : ∀ x v, env.get? x = some v → v.Formed) :
    ∀ {o ns ps o'} {a : List Text} {t : Text} {d : Nat}, TranslatesAll env o ns ps o' →
      (∀ n ∈ ns, n.IsWorded) → Numbered f o' → d < nestLimit → nestLimit ≤ d + depths ps → Quiet t →
        Fails d (amid f l o a (sources ps ++ t))
  | _, _, _, _, _, _, _, .nil, _, _, hd, deep, _ => absurd hd (Nat.not_lt.2 deep)
  | _, _, p :: ps, _, a, t, d, .cons hn h, words, numbered, hd, deep, quiet => by
    obtain ⟨word, words⟩ := List.forall_mem_cons.1 words
    rw [depths] at deep
    rw [sources, List.append_assoc]
    have numbered' := Numbered.before h numbered
    have later := quiet_sources quiet ps
    rcases Nat.lt_or_ge (d + p.depth) nestLimit with shallow | deep'
    · obtain ⟨b, first, -⟩ := hn.leads (d := d) (a := a) he word numbered' shallow later
      exact first.fails (h.fails (d := d) (a := b) he words numbered hd (by omega) quiet)
    · exact hn.fails (d := d) (a := a) he word numbered' hd deep' later

end

/-! ### Whole expressions -/

/-- The written form of a translation is read, and what is read matches as the pieces do, under other
labels. -/
theorem TranslatesAll.parse?_wholeSource (he : ∀ x v, env.get? x = some v → v.Formed)
    (h : TranslatesAll env [] ns ps o') (words : ∀ n ∈ ns, n.IsWorded) (hd : depths ps < nestLimit) :
    ∃ f r, Function.Injective f ∧ Numbered f (groupsOf ps).reverse ∧
      Regex.parse? (wholeSource ps) = some r ∧ Renames f r (whole ps) := by
  let f := labelIn (groupsOf ps).reverse
  have injective : Function.Injective f := labelIn_injective _
  have numbered : Numbered f (groupsOf ps).reverse := numbered_labelIn (List.nodup_reverse.2 h.nodup)
  have quiet : Quiet ['$'] := Regex.quiet_cons (by decide)
  obtain ⟨b, leads, easy⟩ := h.leads (f := f) (l := Text.byteLength (wholeSource ps) / 2) (d := 0) (a := [])
    he words (h.opened_eq ▸ (List.append_nil _).symm ▸ numbered) (by rwa [Nat.zero_add]) quiet
  refine ⟨f, _, injective, numbered,
    Regex.parse?_of_leads (v := amid f _ o' b []) rfl rfl (quiet_sources quiet ps) leads, ?_⟩
  refine ((Renames.anchor .textStart).joined (renames_readAll injective ps (.anchor .textEnd))).marked ?_
  intro both
  refine easy ?_
  simpa [whole, Regex.isEasy] using both

/-- The written form of a translation is refused only if the groups nest too deep. -/
theorem TranslatesAll.parse?_wholeSource_eq_none (he : ∀ x v, env.get? x = some v → v.Formed)
    (h : TranslatesAll env [] ns ps o') (words : ∀ n ∈ ns, n.IsWorded) :
    Regex.parse? (wholeSource ps) = none ↔ nestLimit ≤ depths ps := by
  constructor
  · intro refused
    by_contra shallow
    obtain ⟨-, r, -, -, read, -⟩ := h.parse?_wholeSource he words (Nat.not_le.1 shallow)
    exact absurd (refused.symm.trans read) nofun
  · intro deep
    have quiet : Quiet ['$'] := Regex.quiet_cons (by decide)
    have numbered := numbered_labelIn (List.nodup_reverse.2 h.nodup)
    refine Regex.parse?_of_fails ((Regex.Read.leads_caret (quiet_sources quiet ps) _).fails ?_)
    exact h.fails (f := labelIn (groupsOf ps).reverse) (d := 0) (a := []) he words
      (h.opened_eq ▸ (List.append_nil _).symm ▸ numbered) (by decide) (by rwa [Nat.zero_add]) quiet

end Piece

end LocalePaths
