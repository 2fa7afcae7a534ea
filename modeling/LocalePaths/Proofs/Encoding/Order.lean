import LocalePaths.NameMap
import LocalePaths.Proofs.Encoding.Utf8
import Mathlib.Algebra.Group.Nat.Defs

/-!
# The order of UTF-8

Texts, which are compared by code point, are in the order in which their UTF-8 encodings are when these
are compared byte by byte (`Utf8.encode_lt_encode_iff`): of two characters the one with the greater code
point has the greater byte where their encodings differ first.
-/

namespace LocalePaths.Utf8

variable {c d : Char} {s t : Text} {x y w : Bytes} {b b' : UInt8}

theorem cons_lt_cons_iff : b :: x < b' :: y ↔ b.toNat < b'.toNat ∨ b.toNat = b'.toNat ∧ x < y := by
  rw [List.cons_lt_cons_iff, UInt8.lt_iff_toNat_lt, ← UInt8.toNat_inj]

theorem append_lt_append_iff : w ++ x < w ++ y ↔ x < y := by
  induction w with
  | nil => rfl
  | cons b w ih =>
    rw [List.cons_append, List.cons_append, cons_lt_cons_iff, ih]
    simp

/-! ### One character -/

/-- The last bytes of an encoding: the last digits of a number to the base of 64. -/
def tails (n : Nat) : Nat → Bytes
  | 0 => []
  | k + 1 => tails (n / 0x40) k ++ [tail n]

/-- Of two numbers the smaller one has the smaller first digits, or the same ones and smaller bytes for
the others. -/
theorem tails_lt {m n : Nat} (h : m < n) (k : Nat) (x y : Bytes) : m / 0x40 ^ k < n / 0x40 ^ k ∨
    m / 0x40 ^ k = n / 0x40 ^ k ∧ tails m k ++ x < tails n k ++ y := by
  induction k generalizing m n x y with
  | zero => exact .inl (by simpa using h)
  | succ k ih =>
    have last : m / 0x40 < n / 0x40 ∨ m / 0x40 = n / 0x40 ∧ m % 0x40 < n % 0x40 := by omega
    simp only [Nat.pow_succ', ← Nat.div_div_eq_div_mul, tails, List.append_assoc]
    rcases last with first | ⟨same, last⟩
    · exact ih first _ _
    · rw [same]
      refine .inr ⟨rfl, append_lt_append_iff.2 (cons_lt_cons_iff.2 (.inl ?_))⟩
      rw [toNat_tail, toNat_tail]
      omega

/-- The first byte of a character tells the range that it is in and holds its first digits. -/
theorem ofChar_cases (c : Char) :
    (c.toNat < 0x80 ∧ ofChar c = UInt8.ofNat (0 + c.toNat / 0x40 ^ 0) :: tails c.toNat 0) ∨
    ((0x80 ≤ c.toNat ∧ c.toNat < 0x800) ∧
      ofChar c = UInt8.ofNat (0xc0 + c.toNat / 0x40 ^ 1) :: tails c.toNat 1) ∨
    ((0x800 ≤ c.toNat ∧ c.toNat < 0x10000) ∧
      ofChar c = UInt8.ofNat (0xe0 + c.toNat / 0x40 ^ 2) :: tails c.toNat 2) ∨
    ((0x10000 ≤ c.toNat ∧ c.toNat < 0x110000) ∧
      ofChar c = UInt8.ofNat (0xf0 + c.toNat / 0x40 ^ 3) :: tails c.toNat 3) := by
  have top := Char.toNat_lt c
  have digits : c.toNat / 0x40 / 0x40 = c.toNat / 0x1000 := Nat.div_div_eq_div_mul ..
  simp only [tails, digits, List.nil_append, List.cons_append, Nat.zero_add, Nat.pow_zero, Nat.div_one]
  by_cases one : c.toNat < 0x80
  · exact .inl ⟨one, ofChar_one one⟩
  by_cases two : c.toNat < 0x800
  · exact .inr (.inl ⟨⟨by omega, two⟩, ofChar_two (by omega) two⟩)
  by_cases three : c.toNat < 0x10000
  · exact .inr (.inr (.inl ⟨⟨by omega, three⟩, ofChar_three (by omega) three⟩))
  · exact .inr (.inr (.inr ⟨⟨by omega, top⟩, ofChar_four (by omega)⟩))

theorem lead_lt {m n k lead : Nat} (h : m < n) (bound : lead + n / 0x40 ^ k < 0x100) (x y : Bytes) :
    UInt8.ofNat (lead + m / 0x40 ^ k) :: tails m k ++ x <
      UInt8.ofNat (lead + n / 0x40 ^ k) :: tails n k ++ y := by
  rw [List.cons_append, List.cons_append, cons_lt_cons_iff, UInt8.toNat_ofNat', UInt8.toNat_ofNat']
  rcases tails_lt h k x y with first | ⟨same, rest⟩
  · generalize m / 0x40 ^ k = p at *
    generalize n / 0x40 ^ k = q at *
    exact .inl (by omega)
  · exact .inr ⟨by rw [same], rest⟩

/-- Whatever follows, the encodings of two characters are in the order of their code points. -/
theorem ofChar_append_lt (h : c < d) (x y : Bytes) : ofChar c ++ x < ofChar d ++ y := by
  have h : c.toNat < d.toNat := h
  rcases ofChar_cases c with ⟨range, bytes⟩ | ⟨range, bytes⟩ | ⟨range, bytes⟩ | ⟨range, bytes⟩ <;>
    rcases ofChar_cases d with ⟨range', bytes'⟩ | ⟨range', bytes'⟩ | ⟨range', bytes'⟩ | ⟨range', bytes'⟩ <;>
    rw [bytes, bytes']
  -- within a range the digits decide, between two ranges the first byte does
  case inl.inl | inr.inl.inr.inl | inr.inr.inl.inr.inr.inl | inr.inr.inr.inr.inr.inr =>
    exact lead_lt h (by omega) x y
  all_goals
    refine cons_lt_cons_iff.2 (.inl ?_)
    rw [UInt8.toNat_ofNat', UInt8.toNat_ofNat']
    omega

/-! ### Texts -/

theorem encode_cons (c : Char) (t : Text) : encode (c :: t) = ofChar c ++ encode t := rfl

theorem encode_lt_encode (h : s < t) : encode s < encode t := by
  induction s generalizing t with
  | nil =>
    cases t with
    | nil => exact absurd h (List.lt_irrefl [])
    | cons d t =>
      rcases ofChar_cases d with ⟨-, bytes⟩ | ⟨-, bytes⟩ | ⟨-, bytes⟩ | ⟨-, bytes⟩ <;>
        rw [encode_cons, bytes] <;> exact List.nil_lt_cons _ _
  | cons c s ih =>
    cases t with
    | nil => exact absurd h (List.not_lt_nil _)
    | cons d t =>
      rw [encode_cons, encode_cons]
      rcases List.cons_lt_cons_iff.1 h with first | ⟨rfl, later⟩
      · exact ofChar_append_lt first _ _
      · exact append_lt_append_iff.2 (ih later)

/-- Texts are in the order of their encodings. -/
theorem encode_lt_encode_iff : encode s < encode t ↔ s < t := by
  refine ⟨fun h => ?_, encode_lt_encode⟩
  by_cases less : s < t
  · exact less
  · by_cases eq : s = t
    · exact absurd (eq ▸ h) (List.lt_irrefl _)
    · have greater : t < s := LocalePaths.NameMap.lt_of_not_lt less eq
      exact absurd (List.lt_trans h (encode_lt_encode greater)) (List.lt_irrefl _)

end LocalePaths.Utf8
