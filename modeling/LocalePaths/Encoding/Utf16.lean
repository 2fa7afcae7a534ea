import LocalePaths.Encoding.Utf8

/-!
# UTF-16

Decoding of UTF-16 in either byte order. A surrogate that is not part of a pair is refused. Texts are
written in UTF-8 instead.
-/

namespace LocalePaths

namespace Utf16

/-- The units of two bytes each; `lowFirst` says that the low byte comes first. -/
def units? (lowFirst : Bool) : Bytes → Option (List Nat)
  | [] => some []
  | [_] => none
  | a :: b :: bs => do
    let unit := if lowFirst then b.toNat * 0x100 + a.toNat else a.toNat * 0x100 + b.toNat
    return unit :: (← units? lowFirst bs)

def isHigh (u : Nat) : Bool := 0xd800 ≤ u && u < 0xdc00

def isLow (u : Nat) : Bool := 0xdc00 ≤ u && u < 0xe000

/-- The characters of units, where a pair stands for one character beyond the units. -/
def chars? : List Nat → Option Text
  | [] => some []
  | u :: us =>
    if isHigh u then
      match us with
      | v :: us => do
        if !isLow v then failure
        return Char.ofNat (0x10000 + (u - 0xd800) * 0x400 + (v - 0xdc00)) :: (← chars? us)
      | [] => none
    else if isLow u then none
    else return Char.ofNat u :: (← chars? us)

/-- The text of bytes, provided that they are units in which all surrogates are paired. -/
def decode? (lowFirst : Bool) (bs : Bytes) : Option Text := do chars? (← units? lowFirst bs)

end Utf16

/-- UTF-16; `lowFirst` says that the low byte comes first. -/
def Encoding.utf16 (lowFirst : Bool) : Encoding :=
  ⟨if lowFirst then "UTF-16LE" else "UTF-16BE", Utf16.decode? lowFirst, utf8.encode⟩

end LocalePaths
