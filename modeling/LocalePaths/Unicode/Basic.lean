import LocalePaths.Text
import LocalePaths.Unicode.Binary
import LocalePaths.Unicode.Fold

/-!
# Classes of characters

The classes that are put together from the categories of characters, white space, and simple case folding.
-/

namespace LocalePaths

namespace Unicode

def letters : List Property :=
  [uppercaseLetter, lowercaseLetter, titlecaseLetter, modifierLetter, otherLetter]

def marks : List Property := [nonspacingMark, spacingMark, enclosingMark]

def numbers : List Property := [decimalNumber, letterNumber, otherNumber]

def punctuation : List Property :=
  [connectorPunctuation, dashPunctuation, openPunctuation, closePunctuation, initialPunctuation,
    finalPunctuation, otherPunctuation]

def symbols : List Property := [mathSymbol, currencySymbol, modifierSymbol, otherSymbol]

def separators : List Property := [spaceSeparator, lineSeparator, paragraphSeparator]

/-- The categories of the characters that are visible or stand between these. -/
def visible : List Property := letters ++ marks ++ numbers ++ punctuation ++ symbols ++ separators

/-- All general categories of characters that are assigned. -/
def categories : List Property := visible ++ [control, format, privateUse]

/-- The properties of which a character of alphabets has one. -/
def alphabetic : List Property := letters ++ [letterNumber, otherAlphabetic]

/-- The characters of words: letters, marks, digits, connectors and joiners. -/
def wordCharacters : List Property :=
  alphabetic ++ marks ++ [decimalNumber, connectorPunctuation, joinControl]

/-- The code point that a code point is compared by if case is ignored. -/
def fold (n : Nat) : List (Nat × Nat × Nat × Nat) → Nat
  | [] => n
  | (lo, hi, step, base) :: rows =>
    if n < lo then n else if n ≤ hi && (n - lo) % step = 0 then base + (n - lo) else fold n rows

/-- The code points that are compared by a code point. -/
def unfold (n : Nat) (rows : List (Nat × Nat × Nat × Nat)) : List Nat :=
  rows.filterMap fun (lo, hi, step, base) =>
    if base ≤ n && n ≤ base + (hi - lo) && (n - base) % step = 0 then some (lo + (n - base)) else none

/-- The characters that are equal to a character if case is ignored. -/
def caseVariants (c : Char) : List Char :=
  let folded := fold c.toNat foldRows
  c :: (folded :: unfold folded foldRows).map Char.ofNat

def isSpace (c : Char) : Bool := whiteSpace.has c

/-- Drops white space on both sides. -/
def trim (s : Text) : Text := ((s.dropWhile isSpace).reverse.dropWhile isSpace).reverse

def isLetter (c : Char) : Bool := letters.any (·.has c)

def isDigit (c : Char) : Bool := decimalNumber.has c

def isWord (c : Char) : Bool := wordCharacters.any (·.has c)

end Unicode

end LocalePaths
