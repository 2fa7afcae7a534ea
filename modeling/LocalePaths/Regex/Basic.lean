import LocalePaths.Regex.CharSet

/-!
# Regular expressions

The syntax of regular expressions with captures, backreferences, look-around and atomic groups. An
expression without the last three is `easy`: whether it matches from one position to another depends
on the two positions alone.
-/

namespace LocalePaths

/-- A condition on the characters beside a position. -/
inductive Anchor where
  | textStart
  | textEnd
  | lineStart
  | lineEnd
  | wordBoundary
  | notWordBoundary
  deriving DecidableEq, Inhabited

namespace Anchor

/-- A word starts or ends between the two characters. -/
def betweenWords (before after : Option Char) : Bool :=
  before.any Unicode.isWord != after.any Unicode.isWord

/-- Whether the condition holds between two characters, of which one is missing at an end of the text. -/
def holds (a : Anchor) (before after : Option Char) : Bool :=
  match a with
  | textStart => before.isNone
  | textEnd => after.isNone
  | lineStart => before.all (· = '\n')
  | lineEnd => after.all (· = '\n')
  | wordBoundary => betweenWords before after
  | notWordBoundary => !betweenWords before after

end Anchor

/-- A regular expression. -/
inductive Regex where
  | empty
  | text (t : Text)
  | char (set : CharSet)
  /-- Matches any number of characters of a set, preferably many or preferably few. -/
  | many (set : CharSet) (greedy : Bool)
  | anchor (a : Anchor)
  | seq (r s : Regex)
  | alt (r s : Regex)
  /-- Matches from `lo` to `hi` times in a row, preferably often or preferably seldom. -/
  | times (r : Regex) (lo : Nat) (hi : Option Nat) (greedy : Bool)
  /-- Captures what it matches. `referenced` says that a backreference names the group. -/
  | group (label : Text) (referenced : Bool) (r : Regex)
  | backref (label : Text)
  /-- Matches the empty text once the group has captured something. -/
  | captured (label : Text)
  /-- Matches the empty text where the expression matches ahead, or where it does not. -/
  | ahead (positive : Bool) (r : Regex)
  /-- Matches the empty text where the expression of `size` characters matches behind, or where it
  does not. -/
  | behind (size : Nat) (positive : Bool) (r : Regex)
  | atomic (r : Regex)
  deriving DecidableEq, Inhabited

namespace Regex

/-- Whether the expression matches from one position to another depends on the positions alone. -/
def isEasy : Regex → Bool
  | seq r s | alt r s => r.isEasy && s.isEasy
  | times r _ _ _ => r.isEasy
  | group _ referenced r => !referenced && r.isEasy
  | backref _ | captured _ | ahead _ _ | behind _ _ _ | atomic _ => false
  | _ => true

/-- The number of characters that every match of the expression has, if it is fixed by the form of
the expression. -/
def size? : Regex → Option Nat
  | empty => some 0
  | text t => some t.length
  | char _ => some 1
  | many _ _ => none
  | anchor _ => some 0
  | seq r s => do return (← r.size?) + (← s.size?)
  | alt r s => do
    let n ← r.size?
    if s.size? = some n then return n else failure
  | times r lo hi _ => do
    let n ← r.size?
    if hi = some lo then return n * lo else failure
  | group _ _ r => r.size?
  | backref _ => none
  | captured _ | ahead _ _ | behind _ _ _ => some 0
  | atomic r => r.size?

/-- How deep groups may not nest. -/
def nestLimit : Nat := 64

end Regex

end LocalePaths
