import LocalePaths.Regex.Basic

/-!
# Cursors

A cursor is a position in a text together with what groups have captured so far.
-/

namespace LocalePaths

/-- Captured texts by group, the latest first. -/
abbrev Captures := List (Text × Text)

namespace Captures

/-- The text that a group captured last. -/
def get? (cs : Captures) (label : Text) : Option Text :=
  (cs.find? fun e => e.1 = label).map (·.2)

/-- What the other groups have captured. -/
def forget (cs : Captures) (label : Text) : Captures := cs.filter fun e => e.1 ≠ label

end Captures

/-- A position in a text: the characters before it, the last of them first, and those after it. -/
structure Cursor where
  before : Text
  rest : Text
  captures : Captures
  deriving DecidableEq, Inhabited

namespace Cursor

def start (text : Text) : Cursor := ⟨[], text, []⟩

def skip (n : Nat) (c : Cursor) : Cursor :=
  { c with before := (c.rest.take n).reverse ++ c.before, rest := c.rest.drop n }

/-- Moves back over characters, if there are as many. -/
def back? (n : Nat) (c : Cursor) : Option Cursor :=
  if n ≤ c.before.length then
    some { c with before := c.before.drop n, rest := (c.before.take n).reverse ++ c.rest }
  else none

/-- The text between two positions. -/
def upTo (c d : Cursor) : Text := c.rest.take (c.rest.length - d.rest.length)

/-- The cursor where a group opens: what it captured before is forgotten. -/
def openGroup (c : Cursor) (label : Text) : Cursor :=
  { c with captures := c.captures.forget label }

/-- The cursor where a group closes that was opened at `c`: it has captured the text between them. -/
def closeGroup (c d : Cursor) (label : Text) : Cursor :=
  { d with captures := (label, c.upTo d) :: d.captures }

end Cursor

end LocalePaths
