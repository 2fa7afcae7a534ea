import LocalePaths.Proofs.Pattern.Divided
import LocalePaths.Proofs.Piece.Reading
import LocalePaths.Proofs.Regex.Forward

/-!
# Pieces with divided text

How literal text is divided into pieces (`Piece.split`) has no influence on the written form of a row of
pieces and its groups, and none on how it is matched: neither on the outcomes nor on the steps of trying
them, so that a search gives up for both divisions or for none (`Piece.search_split`).
-/

namespace LocalePaths

namespace Piece
variable {ps : List Piece} {p : Piece} {opened o : List Text} {inner : Expander} {scope : Scope} {n : Node}
  {ns : List Node} {t : Text}

def letters (t : Text) : List Piece := t.map fun c => text [c]

def chars : Piece → List Piece
  | text t => letters t
  | p => [p]

/-- The pieces with one piece for each character of literal text. -/
def split (ps : List Piece) : List Piece := ps.flatMap chars

/-- What is computed piece by piece, and for literal text character by character, does not depend on how
literal text is divided. -/
theorem fold_split {α : Type} {F : List Piece → α} {G : Piece → α → α}
    (cons : ∀ p ps, F (p :: ps) = G p (F ps)) (empty : ∀ a, G (text []) a = a)
    (letter : ∀ c t a, G (text [c]) (G (text t) a) = G (text (c :: t)) a) (ps : List Piece) :
    F (split ps) = F ps := by
  have row : ∀ t ps, F (letters t ++ ps) = G (text t) (F ps) := by
    intro t ps
    induction t with
    | nil => exact (empty _).symm
    | cons c t ih =>
      show F (text [c] :: (letters t ++ ps)) = _
      rw [cons, ih, letter]
  induction ps with
  | nil => rfl
  | cons p ps ih =>
    cases p with
    | text t =>
      refine (row t (split ps)).trans ?_
      rw [ih, cons]
    | star | starstar | free | bound | again =>
      refine (cons _ (split ps)).trans ?_
      rw [ih, cons]

theorem sources_split (ps : List Piece) : sources (split ps) = sources ps :=
  fold_split (G := fun p t => p.source ++ t) (fun _ _ => rfl) (fun _ => rfl)
    (fun c t a => by simp [source, escape, Regex.quote]) ps

theorem groupsOf_split (ps : List Piece) : groupsOf (split ps) = groupsOf ps :=
  fold_split (G := fun p gs => p.groups ++ gs) (fun _ _ => rfl) (fun _ => rfl) (fun _ _ _ => rfl) ps

theorem depths_split (ps : List Piece) : depths (split ps) = depths ps :=
  fold_split (G := fun p d => max p.depth d) (fun _ _ => rfl) (fun _ => Nat.zero_max _)
    (fun _ _ d => by simp [depth]) ps

theorem isEasy_split (ps : List Piece) : (regexes (split ps)).isEasy = (regexes ps).isEasy :=
  fold_split (F := fun ps => (regexes ps).isEasy) (G := fun p b => p.regex.isEasy && b) (fun _ _ => rfl)
    (fun _ => rfl) (fun _ _ _ => rfl) ps

theorem outcomes_split (ps : List Piece) : (regexes (split ps)).outcomes = (regexes ps).outcomes :=
  fold_split (F := fun ps => (regexes ps).outcomes) (G := fun p f c => (p.regex.outcomes c).flatMap f)
    (fun _ _ => rfl) (fun f => funext fun c => List.flatMap_singleton f c)
    (fun c t f => funext fun d => by
      show ((Regex.text [c]).outcomes d).flatMap (fun e => ((Regex.text t).outcomes e).flatMap f) = _
      rw [← List.flatMap_assoc, Regex.outcomes_text_cons]
      rfl) ps

theorem trial_split (ps : List Piece) :
    Regex.trial (regexes (split ps)) false = Regex.trial (regexes ps) false :=
  fold_split (F := fun ps => Regex.trial (regexes ps) false)
    (G := fun p f k => Regex.trial p.regex false (f k))
    (fun _ _ => rfl) (fun _ => rfl) (fun c t f => funext fun k => Regex.trial_text_cons c t (f k)) ps

/-- A search answers the same, or gives up as well, however literal text is divided. -/
theorem search_split (ps : List Piece) (path : Text) :
    (whole (split ps)).search path = (whole ps).search path := by
  have plain : ∀ ps, (whole ps).IsPlain := fun ps => ⟨trivial, isPlain_regexes ps, trivial⟩
  have same := Regex.search_map (F := id) (fun _ => rfl) (u := path) rfl (plain (split ps)) (plain ps) ?_
    (fun c => ?_) (fun c => ?_)
  · rw [same, Verdict.map_id]
  · simp only [whole, Regex.isEasy, isEasy_split]
  · simp only [whole, Regex.outcomes, outcomes_split, List.map_id, id_eq]
  · show Regex.trial (.anchor .textStart) false (Regex.trial (regexes (split ps)) false
      (Regex.trial (.anchor .textEnd) false .succeed)) c = _
    rw [trial_split, Attempt.map_id]
    rfl

/-! ### The pieces of nodes -/

theorem chars_of_ofNode (h : ofNode inner scope opened n = some (p, o)) (hn : ∀ t, n ≠ .literal t) :
    p.chars = [p] := by
  cases n with
  | literal t => exact absurd rfl (hn t)
  | star | starstar =>
    cases h
    rfl
  | «variable» x repeated =>
    simp only [ofNode] at h
    split at h
    · cases h
      rfl
    · split at h
      · cases h
        rfl
      · obtain ⟨⟨body, o'⟩, -, e⟩ := Option.bind_eq_some_iff.1 h
        cases e
        rfl
  | android repeated =>
    simp only [ofNode] at h
    split at h
    · cases h
      rfl
    · obtain ⟨code, -, e⟩ := Option.bind_eq_some_iff.1 h
      split at e <;> cases e <;> rfl

theorem ofNodesWith_letters (opened : List Text) (t : Text) (ns : List Node) :
    ofNodesWith (ofNode inner scope) opened (Node.letters t ++ ns) =
      (ofNodesWith (ofNode inner scope) opened ns).map fun r => (letters t ++ r.1, r.2) := by
  induction t with
  | nil => exact (congrFun Option.map_id _).symm
  | cons c t ih =>
    show ofNodesWith (ofNode inner scope) opened (.literal [c] :: (Node.letters t ++ ns)) = _
    rw [ofNodesWith]
    show (ofNodesWith (ofNode inner scope) opened (Node.letters t ++ ns)).bind
      (fun r => some (text [c] :: r.1, r.2)) = _
    rw [ih]
    cases ofNodesWith (ofNode inner scope) opened ns <;> rfl

theorem ofNodesWith_split (opened : List Text) (ns : List Node) :
    ofNodesWith (ofNode inner scope) opened (Node.split ns) =
      (ofNodesWith (ofNode inner scope) opened ns).map fun r => (split r.1, r.2) := by
  induction ns generalizing opened with
  | nil => rfl
  | cons n ns ih =>
    have part : (∀ t, n ≠ .literal t) → n.chars = [n] →
        ofNodesWith (ofNode inner scope) opened (Node.split (n :: ns)) =
          (ofNodesWith (ofNode inner scope) opened (n :: ns)).map fun r => (split r.1, r.2) := by
      intro hn chars
      show ofNodesWith (ofNode inner scope) opened (n.chars ++ Node.split ns) = _
      rw [chars, List.singleton_append, ofNodesWith, ofNodesWith]
      cases h : ofNode inner scope opened n with
      | none => rfl
      | some found =>
        obtain ⟨p, o⟩ := found
        have single : ∀ ps, split (p :: ps) = p :: split ps := fun ps =>
          congrArg (· ++ split ps) (chars_of_ofNode h hn)
        simp only [Option.bind_eq_bind, Option.bind_some, ih]
        cases ofNodesWith (ofNode inner scope) o ns with
        | none => rfl
        | some later => simp [single]
    cases n with
    | literal t =>
      refine (ofNodesWith_letters opened t (Node.split ns)).trans ?_
      rw [ih, ofNodesWith]
      simp only [ofNode, Option.bind_eq_bind, Option.bind_some]
      cases ofNodesWith (ofNode inner scope) opened ns <;> rfl
    | star | starstar | «variable» | android => exact part nofun rfl

end Piece

end LocalePaths
