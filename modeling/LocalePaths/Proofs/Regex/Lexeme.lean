import LocalePaths.Piece

/-!
# The written form of regular expressions

A written expression is a row of lexemes: characters that stand for themselves, operators, sets in
brackets, references, and parentheses that open and close groups. `Lexeme.ofText?` reads the lexemes of
a text, and lexemes that are written down are read back (`Lexeme.ofText?_flatMap`). An expression is well
formed if its parentheses pair up, if no two groups have one name, and if references name groups that
have been opened before them (`Lexeme.WellFormed`).
-/

namespace LocalePaths

/-- A part of a written expression. -/
inductive Lexeme where
  /-- A character that stands for itself. -/
  | char (c : Char)
  /-- A character that has a meaning, since no backslash stands before it. -/
  | symbol (c : Char)
  | set (members : Text)
  /-- The start of a group, with the name of the group if it has one. -/
  | opening (name : Option Text)
  | closing
  | reference (name : Text)
  deriving DecidableEq, Inhabited

namespace Lexeme

/-- The characters that have a meaning in expressions: escapes, places and any character, repetitions,
alternatives and groups, sets with the operations on them, and comments. -/
def metacharacters : List Char :=
  ['\\'] ++ ['^', '$', '.'] ++ ['*', '+', '?', '\x7b', '\x7d'] ++ ['|', '(', ')'] ++
    ['[', ']', '-', '&', '~'] ++ ['#']

/-- Whether a character has to stand behind a backslash in order to stand for itself. -/
def isMeta (c : Char) : Bool := metacharacters.contains c

/-- What is quoted in patterns are the characters that have a meaning. -/
theorem isSpecial_eq_isMeta (c : Char) : Piece.isSpecial c = isMeta c := by
  have same : "\\.+*?()|[]\x7b\x7d^$#&-~".toList.Perm metacharacters := by decide
  unfold Piece.isSpecial isMeta
  rw [Bool.eq_iff_iff, List.contains_iff_mem, List.contains_iff_mem, same.mem_iff]

def text : Lexeme → Text
  | char c => if isMeta c then ['\\', c] else [c]
  | symbol c => [c]
  | set members => '[' :: members ++ [']']
  | opening name => Piece.opening name
  | closing => [')']
  | reference name => "\\k<".toList ++ name ++ ['>']

/-! ### Reading lexemes -/

/-- Reads what follows a backslash. -/
def escaped? : Text → Option (Lexeme × Text)
  | 'k' :: '<' :: s => (Text.cut? '>' s).map fun (name, rest) => (reference name, rest)
  | c :: s => if isMeta c then some (char c, s) else none
  | [] => none

/-- Reads what follows the parenthesis that starts a group. -/
def opened? : Text → Option (Lexeme × Text)
  | '?' :: 'P' :: '<' :: s => (Text.cut? '>' s).map fun (name, rest) => (opening (some name), rest)
  | '?' :: ':' :: s => some (opening none, s)
  | _ => none

/-- Cuts off the first lexeme. -/
def next? : Text → Option (Lexeme × Text)
  | [] => none
  | '\\' :: s => escaped? s
  | '(' :: s => opened? s
  | ')' :: s => some (closing, s)
  | '[' :: s => (Text.cut? ']' s).map fun (members, rest) => (set members, rest)
  | c :: s => some (if isMeta c then symbol c else char c, s)

/-- The lexemes of a text, found one after another; `fuel` bounds their number. -/
def scan : (fuel : Nat) → Text → Option (List Lexeme)
  | _, [] => some []
  | 0, _ => none
  | fuel + 1, s => do
    let (l, rest) ← next? s
    return l :: (← scan fuel rest)

/-- The lexemes of a text. There are none if a name or a set does not end, if a group neither has a name
nor is marked as having none, or if a backslash stands before a character that has no meaning. -/
def ofText? (s : Text) : Option (List Lexeme) := scan s.length s

/-- Whether the written form of a lexeme stands for this lexeme. -/
def IsLegible : Lexeme → Prop
  | char _ | closing => True
  | symbol c => c ∈ "^$.*+?".toList
  | set members => ']' ∉ members
  | opening name => ∀ g ∈ name, '>' ∉ g
  | reference name => '>' ∉ name

variable {l : Lexeme} {ls ls' : List Lexeme} {c : Char} {s rest g : Text} {o : List Text} {n : Nat}

theorem next?_special (hc : isMeta c = true) : next? ('\\' :: c :: rest) =
    some (char c, rest) := by
  show escaped? (c :: rest) = _
  unfold escaped?
  split
  · rename_i e
    cases e
    exact absurd hc (by decide)
  · rename_i e
    cases e
    exact if_pos hc
  · rename_i e
    cases e

theorem next?_ordinary (hc : isMeta c = false) : next? (c :: rest) = some (char c, rest) := by
  have ordinary : ∀ d, isMeta d = true → c ≠ d := by
    rintro d hd rfl
    exact absurd hd (by rw [hc]; decide)
  have backslash := ordinary '\\' (by decide)
  have left := ordinary '(' (by decide)
  have right := ordinary ')' (by decide)
  have bracket := ordinary '[' (by decide)
  rw [next?.eq_6 c rest backslash left right bracket, hc]
  rfl

theorem cut?_closed (h : c ∉ s) : Text.cut? c (s ++ [c] ++ rest) = some (s, rest) := by
  rw [List.append_assoc]
  exact Text.cut?_append h

/-- A lexeme is read back in front of any text. -/
theorem next?_text (h : l.IsLegible) : next? (l.text ++ rest) = some (l, rest) := by
  cases l with
  | char c =>
    cases hc : isMeta c with
    | true =>
      rw [text, if_pos hc]
      exact next?_special hc
    | false =>
      rw [text, if_neg (by simp [hc])]
      exact next?_ordinary hc
  | symbol c =>
    have : c = '^' ∨ c = '$' ∨ c = '.' ∨ c = '*' ∨ c = '+' ∨ c = '?' := by
      simpa [IsLegible] using h
    rcases this with rfl | rfl | rfl | rfl | rfl | rfl <;> rfl
  | set members =>
    show Option.map _ (Text.cut? ']' (members ++ [']'] ++ rest)) = _
    rw [cut?_closed h]
    rfl
  | opening name =>
    cases name with
    | none => rfl
    | some g =>
      show Option.map _ (Text.cut? '>' (g ++ ['>'] ++ rest)) = _
      rw [cut?_closed (h g rfl)]
      rfl
  | closing => rfl
  | reference g =>
    show Option.map _ (Text.cut? '>' (g ++ ['>'] ++ rest)) = _
    rw [cut?_closed h]
    rfl

theorem IsLegible.text_ne_nil (h : l.IsLegible) : l.text ≠ [] := by
  intro e
  have first : next? (l.text ++ []) = some (l, []) := next?_text h
  rw [e] at first
  cases first

theorem scan_flatMap (h : ∀ l ∈ ls, l.IsLegible) : ∀ {fuel : Nat},
    (ls.flatMap text).length ≤ fuel → scan fuel (ls.flatMap text) = some ls := by
  induction ls with
  | nil =>
    intro fuel _
    cases fuel <;> rfl
  | cons l ls ih =>
    intro fuel hf
    obtain ⟨hl, hls⟩ := List.forall_mem_cons.1 h
    obtain ⟨c, s, hs⟩ := List.exists_cons_of_ne_nil hl.text_ne_nil
    have first : next? (l.text ++ ls.flatMap text) = some (l, ls.flatMap text) := next?_text hl
    rw [List.flatMap_cons, hs, List.cons_append] at hf ⊢
    rw [hs, List.cons_append] at first
    cases fuel with
    | zero => exact absurd hf (Nat.not_succ_le_zero _)
    | succ fuel =>
      have short : (ls.flatMap text).length ≤ fuel := by
        rw [List.length_cons, List.length_append] at hf
        omega
      simp [scan, first, ih hls short]

theorem ofText?_flatMap (h : ∀ l ∈ ls, l.IsLegible) : ofText? (ls.flatMap text) = some ls :=
  scan_flatMap h (Nat.le_refl _)

/-! ### Well-formed expressions -/

/-- The number of groups that are open after the lexemes, if `n` are open before them. There is none if
a group is closed that is not open. -/
def level : (n : Nat) → List Lexeme → Option Nat
  | n, [] => some n
  | n, opening _ :: ls => level (n + 1) ls
  | 0, closing :: _ => none
  | n + 1, closing :: ls => level n ls
  | n, _ :: ls => level n ls

/-- How deep groups nest in the lexemes, if `n` groups are open before them. -/
def nesting : (n : Nat) → List Lexeme → Nat
  | n, [] => n
  | n, opening _ :: ls => nesting (n + 1) ls
  | n, closing :: ls => max n (nesting (n - 1) ls)
  | n, _ :: ls => nesting n ls

/-- The names of groups in the order in which the groups are opened. -/
def openings : List Lexeme → List Text
  | [] => []
  | opening name :: ls => name.toList ++ openings ls
  | _ :: ls => openings ls

/-- What is required of a written expression. -/
structure WellFormed (ls : List Lexeme) : Prop where
  balanced : level 0 ls = some 0
  openedOnce : (openings ls).Nodup
  referred : ∀ before g after, ls = before ++ reference g :: after → g ∈ openings before

theorem openings_append : openings (ls ++ ls') = openings ls ++ openings ls' := by
  induction ls with
  | nil => rfl
  | cons l ls ih => cases l <;> simp [openings, ih]

theorem le_nesting (n : Nat) (ls : List Lexeme) : n ≤ nesting n ls := by
  induction ls generalizing n with
  | nil => exact Nat.le_refl n
  | cons l ls ih =>
    cases l with
    | opening => exact Nat.le_of_succ_le (ih (n + 1))
    | closing => exact Nat.le_max_left ..
    | char | symbol | set | reference => exact ih n

/-- Every reference names a group of `o` or one that has been opened before it. -/
def Refers : (o : List Text) → List Lexeme → Prop
  | _, [] => True
  | o, opening name :: ls => Refers (name.toList ++ o) ls
  | o, reference g :: ls => g ∈ o ∧ Refers o ls
  | o, _ :: ls => Refers o ls

theorem Refers.mem {before after : List Lexeme}
    (h : Refers o (before ++ reference g :: after)) :
    g ∈ o ∨ g ∈ openings before := by
  induction before generalizing o with
  | nil => exact .inl h.1
  | cons l before ih =>
    cases l with
    | opening name =>
      rcases ih h with hg | hg
      · rcases List.mem_append.1 hg with hg | hg
        · exact .inr (List.mem_append_left _ hg)
        · exact .inl hg
      · exact .inr (List.mem_append_right _ hg)
    | reference => exact ih h.2
    | char | symbol | set | closing => exact ih h

theorem wellFormed_of_refers (balanced : level 0 ls = some 0) (openedOnce : (openings ls).Nodup)
    (h : Refers [] ls) : WellFormed ls where
  balanced := balanced
  openedOnce := openedOnce
  referred _ _ _ e := (e ▸ h).mem.resolve_left List.not_mem_nil

end Lexeme

end LocalePaths
