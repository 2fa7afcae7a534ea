import LocalePaths.Encoding.Basic

/-!
# UTF-8

Each character has exactly one encoding, of one to four bytes; all other sequences of bytes are
refused.
-/

namespace LocalePaths

namespace Utf8

/-- A byte that continues a character, with the low six bits of a number. -/
def tail (n : Nat) : UInt8 := UInt8.ofNat (0x80 + n % 0x40)

def ofChar (c : Char) : Bytes :=
  let n := c.toNat
  if n < 0x80 then [UInt8.ofNat n]
  else if n < 0x800 then [UInt8.ofNat (0xc0 + n / 0x40), tail n]
  else if n < 0x10000 then [UInt8.ofNat (0xe0 + n / 0x1000), tail (n / 0x40), tail n]
  else [UInt8.ofNat (0xf0 + n / 0x40000), tail (n / 0x1000), tail (n / 0x40), tail n]

def encode (t : Text) : Bytes := t.flatMap ofChar

/-- What a byte adds to a range that starts with `low`. -/
def offset? (low high : Nat) (b : UInt8) : Option Nat :=
  if low ≤ b.toNat ∧ b.toNat < high then some (b.toNat - low) else none

/-- The six bits of a byte that continues a character. -/
def tail? (b : UInt8) : Option Nat := offset? 0x80 0xc0 b

/-- The character of a number that needs at least as many bytes as were read. -/
def codePoint? (least n : Nat) : Option Char :=
  if least ≤ n ∧ n.isValidChar then some (Char.ofNat n) else none

/-- The character that the bytes are the encoding of. -/
def char? : Bytes → Option Char
  | [b] => do codePoint? 0 (← offset? 0 0x80 b)
  | [b, b₁] => do codePoint? 0x80 ((← offset? 0xc0 0xe0 b) * 0x40 + (← tail? b₁))
  | [b, b₁, b₂] => do
    codePoint? 0x800 (((← offset? 0xe0 0xf0 b) * 0x40 + (← tail? b₁)) * 0x40 + (← tail? b₂))
  | [b, b₁, b₂, b₃] => do
    codePoint? 0x10000
      ((((← offset? 0xf0 0xf8 b) * 0x40 + (← tail? b₁)) * 0x40 + (← tail? b₂)) * 0x40 + (← tail? b₃))
  | _ => none

/-- The text of bytes, read character by character; the first byte tells how many belong together. -/
def decode? : Bytes → Option Text
  | [] => some []
  | b :: bs =>
    if b.toNat < 0x80 then return (← char? [b]) :: (← decode? bs)
    else if b.toNat < 0xe0 then
      match bs with
      | b₁ :: bs => return (← char? [b, b₁]) :: (← decode? bs)
      | _ => none
    else if b.toNat < 0xf0 then
      match bs with
      | b₁ :: b₂ :: bs => return (← char? [b, b₁, b₂]) :: (← decode? bs)
      | _ => none
    else
      match bs with
      | b₁ :: b₂ :: b₃ :: bs => return (← char? [b, b₁, b₂, b₃]) :: (← decode? bs)
      | _ => none

end Utf8

/-- UTF-8, in which every text can be written. -/
def Encoding.utf8 : Encoding := ⟨"UTF-8", Utf8.decode?, fun t => ⟨Utf8.encode t, "UTF-8", true⟩⟩

end LocalePaths
