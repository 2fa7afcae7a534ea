import LocalePaths.Proofs.Pattern.Representation

/-!
# The tokens of a text

The names in a pattern and the numbers of its wildcards can be told from the tokens of its text. What is
read first is the one token that the text begins with (`Token.Begins`, `Token.next?_eq_some`). The
tokens of two texts that are put together are those of the first and then those of the second, provided
that the first is empty or ends in a separator (`Token.ofText_append`): no token goes across the place
where they meet, and the second starts a path segment there.
-/

namespace LocalePaths

namespace Token
variable {atStart : Bool} {s rest x : Text} {k : Token}

def word? : Token → Option Text
  | name word => some word
  | _ => none

/-- The names of variables, as often as they occur. -/
def words (ts : List Token) : List Text := ts.filterMap word?

theorem mem_words {ts : List Token} : x ∈ words ts ↔ .name x ∈ ts := by
  unfold words
  rw [List.mem_filterMap]
  constructor
  · rintro ⟨k, hk, e⟩
    cases k with
    | name word =>
      cases e
      exact hk
    | char | star | starstar => cases e
  · exact fun h => ⟨_, h, rfl⟩

/-! ### The first token -/

/-- The text begins with the token, and `rest` follows it. A `**` is only a token where a path segment starts,
and a star or a brace is one by itself if nothing more can be read. -/
def Begins (atStart : Bool) (s rest : Text) : Token → Prop
  | char c => s = c :: rest ∧ c ≠ '*' ∧ (c = '\x7b' → name? rest = none)
  | star => s = '*' :: rest ∧ ∀ u, atStart = true → rest = '*' :: u → ending? u = none
  | starstar ending => atStart = true ∧ ∃ u, s = '*' :: '*' :: u ∧ ending? u = some (ending, rest)
  | name x => ∃ u, s = '\x7b' :: u ∧ name? u = some (x, rest)

theorem begins_of_next? (h : next? atStart s = some (k, rest)) : k.Begins atStart s rest := by
  unfold next? at h
  split at h
  · cases h
  · split at h
    · split at h
      · rename_i read
        cases h
        exact ⟨rfl, _, rfl, read⟩
      · rename_i none
        cases h
        exact ⟨rfl, fun u _ e => (List.cons.inj e).2 ▸ none⟩
    · rename_i other
      cases h
      exact ⟨rfl, fun u start e => absurd e (other u start)⟩
  · split at h
    · rename_i read
      cases h
      exact ⟨_, rfl, read⟩
    · rename_i none
      cases h
      exact ⟨rfl, by decide, fun _ => none⟩
  · rename_i star_ brace
    cases h
    exact ⟨rfl, star_, fun e => absurd e brace⟩

theorem Begins.next?_eq (h : k.Begins atStart s rest) : next? atStart s = some (k, rest) := by
  cases k with
  | char c =>
    obtain ⟨rfl, star_, none⟩ := h
    by_cases brace : c = '\x7b'
    · rw [brace, next?, none brace]
    · rw [next?]
      · exact star_
      · exact brace
  | star =>
    obtain ⟨rfl, none⟩ := h
    by_cases doubled : ∃ u, atStart = true ∧ rest = '*' :: u
    · obtain ⟨u, rfl, rfl⟩ := doubled
      rw [next?, none u rfl rfl]
    · rw [next?]
      exact fun u start e => doubled ⟨u, start, e⟩
  | starstar ending =>
    obtain ⟨rfl, u, rfl, read⟩ := h
    rw [next?, read]
  | name x =>
    obtain ⟨u, rfl, read⟩ := h
    rw [next?, read]

/-- What is read first is the token that the text begins with. -/
theorem next?_eq_some : next? atStart s = some (k, rest) ↔ k.Begins atStart s rest :=
  ⟨begins_of_next?, Begins.next?_eq⟩

/-! ### Tokens one after another -/

theorem length_of_name? (h : name? s = some (x, rest)) : rest.length < s.length := by
  unfold name? at h
  dsimp only at h
  split at h
  · rename_i hrest
    cases h
    have shorter := congrArg List.length hrest
    have first := (List.dropWhile_sublist (· = ' ') : (s.dropWhile (· = ' ')).Sublist s).length_le
    have second := (List.dropWhile_sublist isNameChar :
      ((s.dropWhile (· = ' ')).dropWhile isNameChar).Sublist _).length_le
    have third := (List.dropWhile_sublist (· = ' ') :
      (((s.dropWhile (· = ' ')).dropWhile isNameChar).dropWhile (· = ' ')).Sublist _).length_le
    rw [List.length_cons] at shorter
    omega
  · cases h

theorem length_of_ending? {ending : Text} (h : ending? s = some (ending, rest)) :
    rest.length ≤ s.length := by
  unfold ending? at h
  split at h
  · cases h
    exact Nat.le_refl _
  · cases h
    exact Nat.le_succ _
  · cases h

theorem length_of_next? (h : next? atStart s = some (k, rest)) : rest.length < s.length := by
  have begins := next?_eq_some.1 h
  cases k with
  | char | star =>
    rw [begins.1]
    exact Nat.lt_succ_self _
  | starstar ending =>
    obtain ⟨-, u, rfl, read⟩ := begins
    have := length_of_ending? read
    simp only [List.length_cons]
    omega
  | name x =>
    obtain ⟨u, rfl, read⟩ := begins
    exact Nat.lt_succ_of_lt (length_of_name? read)

theorem scan_congr : ∀ {f g : Nat} {atStart : Bool} {s : Text}, s.length ≤ f → s.length ≤ g →
    scan f atStart s = scan g atStart s
  | 0, 0, _, _, _, _ => rfl
  | 0, _ + 1, _, [], _, _ | _ + 1, 0, _, [], _, _ => rfl
  | f + 1, g + 1, atStart, s, hf, hg => by
    rw [scan, scan]
    cases h : next? atStart s with
    | none => rfl
    | some found =>
      obtain ⟨k, rest⟩ := found
      have shorter := length_of_next? h
      exact congrArg (k :: ·) (scan_congr (by omega) (by omega))

/-- The tokens of a text that starts a path segment or does not. -/
def tokens (atStart : Bool) (s : Text) : List Token := scan s.length atStart s

theorem tokens_eq (h : next? atStart s = some (k, rest)) :
    tokens atStart s = k :: tokens k.endsSegment rest := by
  have shorter := length_of_next? h
  unfold tokens
  obtain ⟨n, hn⟩ : ∃ n, s.length = n + 1 := ⟨s.length - 1, by omega⟩
  rw [hn, scan, h]
  exact congrArg (k :: ·) (scan_congr (by omega) (Nat.le_refl _))

/-! ### Texts put together -/

theorem name?_slash (front t : Text) : name? (front ++ '/' :: t) =
    (name? front).map fun found => (found.1, found.2 ++ '/' :: t) := by
  have stop : ∀ p : Char → Bool, p '/' = false → ∀ front : Text,
      (front ++ '/' :: t).takeWhile p = front.takeWhile p ∧
        (front ++ '/' :: t).dropWhile p = front.dropWhile p ++ '/' :: t := by
    intro p hp front
    induction front with
    | nil => simp [hp]
    | cons c front ih =>
      cases hc : p c <;> simp [hc, ih]
  unfold name?
  dsimp only
  rw [(stop (· = ' ') rfl front).2, (stop isNameChar (by decide) _).1, (stop isNameChar (by decide) _).2,
    (stop (· = ' ') rfl _).2]
  cases (front.dropWhile (· = ' ')).takeWhile isNameChar with
  | nil => rfl
  | cons c word =>
    cases ((front.dropWhile (· = ' ')).dropWhile isNameChar).dropWhile (· = ' ') with
    | nil => rfl
    | cons d after =>
      by_cases hd : d = '}'
      · subst hd
        rfl
      · simp [hd]

/-- The first token of `front` and a separator is the same whatever follows the separator, which is taken
along or left. -/
def FirstToken (atStart : Bool) (front : Text) (k : Token) : Prop :=
  (k.endsSegment = true ∧ ∀ t, next? atStart (front ++ '/' :: t) = some (k, t)) ∨
    ∃ after : Text, after.length < front.length ∧
      ∀ t, next? atStart (front ++ '/' :: t) = some (k, after ++ '/' :: t)

theorem firstToken_star (front : Text) : ∃ k, FirstToken true ('*' :: front) k := by
  have single : (∀ t, next? true ('*' :: front ++ '/' :: t) = some (star, front ++ '/' :: t)) →
      ∃ k, FirstToken true ('*' :: front) k := fun h => ⟨star, .inr ⟨front, Nat.lt_succ_self _, h⟩⟩
  cases front with
  | nil => exact single fun t => rfl
  | cons d front =>
    by_cases second : d = '*'
    · subst second
      cases front with
      | nil => exact ⟨starstar ['/'], .inl ⟨rfl, fun t => rfl⟩⟩
      | cons e front =>
        by_cases ending : e = '/'
        · subst ending
          have shorter : front.length < ('*' :: '*' :: '/' :: front).length := by
            simp only [List.length_cons]
            omega
          exact ⟨starstar ['/'], .inr ⟨front, shorter, fun t => rfl⟩⟩
        · exact single fun t => by simp [next?, ending?, ending]
    · exact single fun t => by simp [next?, second]

theorem firstToken_slash (atStart : Bool) (front : Text) : ∃ k, FirstToken atStart front k := by
  cases front with
  | nil => exact ⟨char '/', .inl ⟨rfl, fun t => rfl⟩⟩
  | cons c front =>
    by_cases wild : c = '*'
    · subst wild
      cases atStart with
      | false => exact ⟨star, .inr ⟨front, Nat.lt_succ_self _, fun t => by cases front <;> rfl⟩⟩
      | true => exact firstToken_star front
    · by_cases brace : c = '\x7b'
      · subst brace
        have named := fun t => name?_slash front t
        cases h : name? front with
        | none =>
          refine ⟨char '\x7b', .inr ⟨front, Nat.lt_succ_self _, fun t => ?_⟩⟩
          simp [next?, named, h]
        | some found =>
          obtain ⟨word, after⟩ := found
          refine ⟨name word, .inr ⟨after, Nat.lt_succ_of_lt (length_of_name? h), fun t => ?_⟩⟩
          simp [next?, named, h]
      · exact ⟨char c, .inr ⟨front, Nat.lt_succ_self _, fun t => by simp [next?]⟩⟩

/-- What follows a separator is read on its own, as the start of a path segment. -/
theorem tokens_slash (atStart : Bool) (front t : Text) : tokens atStart (front ++ '/' :: t) =
    tokens atStart (front ++ ['/']) ++ tokens true t := by
  obtain ⟨k, ⟨segment, first⟩ | ⟨after, shorter, first⟩⟩ := firstToken_slash atStart front
  · rw [tokens_eq (first t), tokens_eq (first []), segment]
    rfl
  · rw [tokens_eq (first t), tokens_eq (first []), tokens_slash k.endsSegment after t]
    rfl
termination_by front.length

/-- The text is empty or ends in a separator. -/
def IsLead (s : Text) : Prop := s = [] ∨ s.getLast? = some '/'

/-- The tokens of two texts are those of the first and those of the second, if the second starts a path
segment. -/
theorem ofText_append (h : IsLead s) (t : Text) : ofText (s ++ t) = ofText s ++ ofText t := by
  rcases h with rfl | h
  · rfl
  · obtain ⟨front, rfl⟩ := List.getLast?_eq_some_iff.1 h
    rw [List.append_assoc]
    exact tokens_slash true front t

theorem tokens_plain : ∀ {s : Text} (atStart : Bool), '*' ∉ s → '\x7b' ∉ s →
    tokens atStart s = s.map char
  | [], _, _, _ => rfl
  | c :: s, atStart, wild, brace => by
    have wild := not_or.1 (mt List.mem_cons.2 wild)
    have brace := not_or.1 (mt List.mem_cons.2 brace)
    have first : next? atStart (c :: s) = some (char c, s) :=
      next?_eq_some.2 ⟨rfl, Ne.symm wild.1, fun e => absurd e.symm brace.1⟩
    rw [tokens_eq first, tokens_plain _ wild.2 brace.2, List.map_cons]

end Token

namespace Node
variable {ns : List Node}

theorem names_append (ms ns : List Node) : names (ms ++ ns) = names ms ++ names ns :=
  List.filterMap_append

theorem names_flagAll : ∀ (seen : List Text) (ns : List Node), names (flagAll seen ns) = names ns
  | _, [] => rfl
  | seen, n :: ns => by rw [flagAll, names_cons, names_cons, variableName_flag, names_flagAll]

end Node

namespace Pattern

theorem names_literal? (run : Text) : Node.names (literal? run) = [] := by
  unfold literal?
  split <;> rfl

/-- What is put together from nodes, and is empty for empty text, does not need the empty node. -/
theorem flatMap_literal? {α : Type} {f : Node → List α} (empty : f (.literal []) = []) (run : Text) :
    (literal? run).flatMap f = f (.literal run) := by
  unfold literal?
  split
  · rename_i e
    rw [e, empty]
    rfl
  · exact List.append_nil _

theorem names_ofTokens : ∀ (id : Nat) (run : Text) (ts : List Token),
    Node.names (ofTokens id run ts) = Token.words ts
  | _, _, [] => rfl
  | id, run, .char c :: ts => names_ofTokens id (run ++ [c]) ts
  | id, run, .star :: ts | id, run, .starstar _ :: ts => by
    rw [ofTokens, Node.names_append, names_literal?]
    exact names_ofTokens (id + 1) [] ts
  | id, run, .name word :: ts => by
    have named : (if word = androidLocale then Node.android false else .variable word false).variableName
        = some word := by
      split
      · rename_i e
        exact congrArg some e.symm
      · rfl
    rw [ofTokens, Node.names_append, names_literal?, Node.names_cons, named, names_ofTokens]
    rfl

theorem names_parse (s : Text) : Node.names (parse s).nodes = Token.words (Token.ofText s) :=
  (Node.names_flagAll ..).trans (names_ofTokens ..)

end Pattern

end LocalePaths
