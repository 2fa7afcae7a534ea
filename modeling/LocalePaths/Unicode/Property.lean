/-!
# Properties of characters

A property has the names it goes by and its characters, as rows of code points.
-/

namespace LocalePaths

namespace Unicode

/-- Whether a code point is in one of the rows, which are in order. Each row holds the first and the last code
point and the step between them. -/
def inRows (n : Nat) : List (Nat × Nat × Nat) → Bool
  | [] => false
  | (lo, hi, step) :: rows =>
    if n < lo then false else (n ≤ hi && (n - lo) % step = 0) || inRows n rows

/-- A property of characters. Its names are in lower case, without spaces, hyphens and underscores. -/
structure Property where
  names : List String
  rows : List (Nat × Nat × Nat)
  deriving DecidableEq, Inhabited

def Property.has (p : Property) (c : Char) : Bool := inRows c.toNat p.rows

end Unicode

end LocalePaths
