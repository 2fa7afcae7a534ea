import LocalePaths.Regex.Backtrack

/-!
# Searching

`Regex.search` looks for the leftmost match of an expression in a text, `Regex.search?` for whether
there is one. Of the matches from one position both find the preferred one.
-/

namespace LocalePaths

namespace Regex

/-- The number of returns to an untried alternative that one search may take. -/
def searchBudget : Nat := 1000000

/-- The cursor at the first marked position. -/
def seek : (rest : Text) → (ts : Marks) → Cursor → Option Cursor
  | [], ts, c => if ts.here then some c else none
  | _ :: rest, ts, c => if ts.here then some c else seek rest ts.tail (c.skip 1)

/-- Tries to match from the cursor and then from every later position; `rest` is the text after
the cursor. -/
def tryFrom (r : Regex) : (rest : Text) → Cursor → Attempt
  | [], c => .orElse (trial r false .succeed c) .fail
  | _ :: rest, c => .orElse (trial r false .succeed c) (tryFrom r rest (c.skip 1))

/-- The leftmost match of the expression in a text; the cursor stands after the match. -/
def search (r : Regex) (text : Text) : Verdict :=
  let start := Cursor.start text
  if r.isEasy then
    match seek text (reachFrom start r (Marks.all text)) start with
    | some c => .found (walk r c (Marks.all c.rest))
    | none => .failed
  else (tryFrom r text start searchBudget).1

/-- Whether the expression matches somewhere in a text, if that can be found out. -/
def search? (r : Regex) (text : Text) : Option Bool :=
  match search r text with
  | .found _ => some true
  | .failed => some false
  | .gaveUp => none

end Regex

end LocalePaths
