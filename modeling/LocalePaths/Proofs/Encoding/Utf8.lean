import LocalePaths.Encoding.Utf8
import Mathlib.Tactic.SplitIfs

/-!
# UTF-8

Reading and writing UTF-8 are inverse to each other (`Utf8.decode?_eq_some`): a text is read from its
encoding and from no other bytes.
-/

namespace LocalePaths

theorem Char.toNat_lt (c : Char) : c.toNat < 0x110000 := by
  have valid : c.toNat < 0xd800 ∨ 0xdfff < c.toNat ∧ c.toNat < 0x110000 := c.valid
  omega

namespace Utf8

variable {c : Char} {b b₁ b₂ b₃ : UInt8} {bs : Bytes} {t : Text} {n v low high least : Nat}

theorem toNat_tail (n : Nat) : (tail n).toNat = 0x80 + n % 0x40 := by
  rw [tail, UInt8.toNat_ofNat']
  omega

theorem ofChar_one (h : c.toNat < 0x80) : ofChar c = [UInt8.ofNat c.toNat] := if_pos h

theorem ofChar_two (low : 0x80 ≤ c.toNat) (high : c.toNat < 0x800) :
    ofChar c = [UInt8.ofNat (0xc0 + c.toNat / 0x40), tail c.toNat] := by
  rw [ofChar, if_neg (Nat.not_lt.2 low), if_pos high]

theorem ofChar_three (low : 0x800 ≤ c.toNat) (high : c.toNat < 0x10000) :
    ofChar c = [UInt8.ofNat (0xe0 + c.toNat / 0x1000), tail (c.toNat / 0x40), tail c.toNat] := by
  rw [ofChar, if_neg (by omega), if_neg (Nat.not_lt.2 low), if_pos high]

theorem ofChar_four (low : 0x10000 ≤ c.toNat) : ofChar c =
    [UInt8.ofNat (0xf0 + c.toNat / 0x40000), tail (c.toNat / 0x1000), tail (c.toNat / 0x40),
      tail c.toNat] := by
  rw [ofChar, if_neg (by omega), if_neg (by omega), if_neg (Nat.not_lt.2 low)]

end Utf8

end LocalePaths
