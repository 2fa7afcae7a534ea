import LocalePaths.Encoding.Utf8

/-!
# Single-byte encodings

In these encodings a byte below 0x80 is the ASCII character of its value, and each other byte stands
for one character of its own or for none. A character without a byte is written as a reference to its
number.
-/

namespace LocalePaths

/-- What the bytes from 0x80 on stand for, as runs of bytes: each run has the code point of its first byte,
after which the code points go on one by one, and its length. Bytes in a run from 0 stand for no character. -/
structure CodePage where
  name : String
  runs : List (Nat × Nat)
  size : (runs.map (·.2)).foldr (· + ·) 0 = 0x80 := by decide +kernel
  beyond : ∀ r ∈ runs, r.1 = 0 ∨
    0x80 ≤ r.1 ∧ (r.1 + r.2 ≤ 0xd800 ∨ 0xe000 ≤ r.1 ∧ r.1 + r.2 ≤ 0x110000) := by decide +kernel
  apart : runs.Pairwise fun r s =>
    r.1 = 0 ∨ s.1 = 0 ∨ r.1 + r.2 ≤ s.1 ∨ s.1 + s.2 ≤ r.1 := by decide +kernel

namespace CodePage

/-- The code points of a run, byte by byte. -/
def codes (run : Nat × Nat) : List (Option Nat) :=
  if run.1 = 0 then .replicate run.2 none else (List.range' run.1 run.2).map some

/-- The code points that the bytes from 0x80 on stand for. -/
def high (page : CodePage) : List (Option Nat) := page.runs.flatMap codes

/-- The character of a byte, if there is one. -/
def char? (page : CodePage) (b : UInt8) : Option Char :=
  if b.toNat < 0x80 then some (Char.ofNat b.toNat) else page.high[b.toNat - 0x80]?.join.map Char.ofNat

/-- The byte of a character, if there is one. -/
def byte? (page : CodePage) (c : Char) : Option UInt8 :=
  if c.toNat < 0x80 then some (UInt8.ofNat c.toNat)
  else (page.high.findIdx? (· = some c.toNat)).map fun i => UInt8.ofNat (0x80 + i)

/-- The text of bytes that stand for a character each. -/
def decode? (page : CodePage) (bs : Bytes) : Option Text := bs.mapM page.char?

/-- What is written for a character without a byte. -/
def reference (c : Char) : Bytes := Utf8.encode ("&#".toList ++ Nat.toDigits 10 c.toNat ++ [';'])

/-- Writes a text byte by byte; a character without a byte is written as a reference, and then the text is not
complete. -/
def encode (page : CodePage) (t : Text) : Encoded :=
  ⟨t.flatMap fun c => (page.byte? c).elim (reference c) ([·]), page.name,
    t.all fun c => (page.byte? c).isSome⟩

end CodePage

/-- The encoding of a code page. -/
def Encoding.singleByte (page : CodePage) : Encoding := ⟨page.name, page.decode?, page.encode⟩

end LocalePaths
