/-!
# Texts

A text is a list of characters. Texts are ordered character by character, by code point, which is
also the order of their UTF-8 encodings.
-/

namespace LocalePaths

/-- A list of characters, compared by code point. -/
abbrev Text := List Char

namespace Text

/-- The texts before and after the first occurrence of a character. -/
def cut? (c : Char) : Text → Option (Text × Text)
  | [] => none
  | d :: r => if d = c then some ([], r) else (cut? c r).map fun p => (d :: p.1, p.2)

/-- What follows a text, if it stands in front. -/
def after? : (lead s : Text) → Option Text
  | [], s => some s
  | _ :: _, [] => none
  | c :: lead, d :: s => if c = d then after? lead s else none

/-- The length of a text in UTF-8. -/
def byteLength (s : Text) : Nat := s.foldr (fun c n => c.utf8Size + n) 0

def ofNat (n : Nat) : Text := Nat.toDigits 10 n

def hexDigit? (c : Char) : Option Nat :=
  if '0' ≤ c && c ≤ '9' then some (c.toNat - '0'.toNat)
  else if 'a' ≤ c && c ≤ 'f' then some (c.toNat - 'a'.toNat + 10)
  else if 'A' ≤ c && c ≤ 'F' then some (c.toNat - 'A'.toNat + 10)
  else none

/-- The value of hexadecimal digits. -/
def hexNumber? (digits : Text) : Option Nat := do
  return (← digits.mapM hexDigit?).foldl (fun n d => n * 16 + d) 0

theorem cut?_eq_some {c : Char} : ∀ {s a b : Text}, cut? c s = some (a, b) → s = a ++ c :: b ∧ c ∉ a
  | [], _, _, h => by simp [cut?] at h
  | d :: r, a, b, h => by
    unfold cut? at h
    split at h
    · simp_all
    · obtain ⟨p, hp, hab⟩ := Option.map_eq_some_iff.1 h
      simp only [Prod.mk.injEq] at hab
      obtain ⟨rfl, rfl⟩ := hab
      obtain ⟨hr, hm⟩ := cut?_eq_some hp
      exact ⟨by rw [hr, List.cons_append], by simp [hm]; exact fun h => ‹¬d = c› h.symm⟩

theorem cut?_eq_none {c : Char} : ∀ {s : Text}, cut? c s = none ↔ c ∉ s
  | [] => by simp [cut?]
  | d :: r => by
    unfold cut?
    split
    · simp_all
    · rename_i h
      rw [Option.map_eq_none_iff, cut?_eq_none, List.mem_cons, not_or]
      exact ⟨fun h' => ⟨Ne.symm h, h'⟩, fun h' => h'.2⟩

theorem cut?_append {c : Char} : ∀ {a b : Text}, c ∉ a → cut? c (a ++ c :: b) = some (a, b)
  | [], b, _ => by simp [cut?]
  | d :: a, b, h => by
    simp only [List.mem_cons, not_or] at h
    simp [cut?, Ne.symm h.1, cut?_append h.2]

theorem after?_eq_some : ∀ {lead s r : Text}, after? lead s = some r ↔ s = lead ++ r
  | [], s, r => by simp [after?]
  | c :: lead, [], r => by simp [after?]
  | c :: lead, d :: s, r => by
    unfold after?
    split
    · rename_i h
      simp [h, @after?_eq_some lead]
    · rename_i h
      simp only [reduceCtorEq, List.cons_append, List.cons.injEq, false_iff, not_and]
      exact fun h' => absurd h'.symm h

@[simp] theorem after?_append (lead r : Text) : after? lead (lead ++ r) = some r :=
  after?_eq_some.2 rfl

end Text

end LocalePaths
