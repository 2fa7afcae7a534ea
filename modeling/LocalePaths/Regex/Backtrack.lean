import LocalePaths.Regex.Reach

/-!
# Matching by trial

Expressions with backreferences, look-around or atomic groups are matched by trying alternatives in
order of preference. Every return to an untried alternative uses one unit of a budget, and the
attempt is given up when none is left. Inside look-around and atomic groups only the first match
counts, so that easy expressions are matched there by positions.
-/

namespace LocalePaths

/-- The outcome of an attempt. -/
inductive Verdict where
  /-- The text matches; the cursor stands after the match. -/
  | found (c : Cursor)
  | failed
  | gaveUp
  deriving DecidableEq, Inhabited

/-- An attempt takes the budget that is left and returns what is left of it. -/
abbrev Attempt := Nat → Verdict × Nat

namespace Attempt

def fail : Attempt := fun n => (.failed, n)

def succeed (c : Cursor) : Attempt := fun n => (.found c, n)

/-- Tries the second attempt where the first one fails, for one unit of the budget. -/
def orElse (a b : Attempt) : Attempt := fun n =>
  match a n with
  | (.failed, 0) => (.gaveUp, 0)
  | (.failed, n + 1) => b n
  | answer => answer

/-- Tries both attempts, in the order that is preferred. -/
def prefer (first : Bool) (a b : Attempt) : Attempt := if first then orElse a b else orElse b a

/-- Goes on from the first match only. -/
def onlyFirst (a : Attempt) (k : Cursor → Attempt) : Attempt := fun n =>
  match a n with
  | (.found c, n) => k c n
  | answer => answer

/-- Goes on if there is no match. -/
def onlyWithout (a k : Attempt) : Attempt := fun n =>
  match a n with
  | (.found _, n) => (.failed, n)
  | (.failed, 0) => (.gaveUp, 0)
  | (.failed, n + 1) => k n
  | answer => answer

end Attempt

namespace Regex

/-- A way to match from a cursor and to go on from every match until one succeeds. -/
abbrev Trial := (Cursor → Attempt) → Cursor → Attempt

/-- Goes on after each number of characters of a set; `n` have been matched so far. -/
def tryMany (set : CharSet) (greedy : Bool) (k : Nat → Attempt) :
    (rest : Text) → (n : Nat) → Attempt
  | [], n => .prefer greedy .fail (k n)
  | c :: rest, n =>
    .prefer greedy (if set.has c then tryMany set greedy k rest (n + 1) else .fail) (k n)

def tryExactly (body : Trial) : Nat → Trial
  | 0, k => k
  | n + 1, k => body (tryExactly body n k)

/-- Matches at most as many times as said. -/
def tryUpTo (body : Trial) (greedy : Bool) : Nat → Trial
  | 0, k => k
  | n + 1, k => fun c => .prefer greedy (body (tryUpTo body greedy n k) c) (k c)

/-- Matches any number of times; a round that does not move fails. The text after the cursor has at
most `fuel` characters. -/
def tryOn (body : Trial) (greedy : Bool) : (fuel : Nat) → Trial
  | 0, k => k
  | fuel + 1, k => fun c =>
    let round := body
      (fun d => if d.rest.length < c.rest.length then tryOn body greedy fuel k d else .fail) c
    .prefer greedy round (k c)

/-- Matches the expression from a cursor. `alone` says that nothing but the first match counts. -/
def trial (r : Regex) (alone : Bool) (k : Cursor → Attempt) (c : Cursor) : Attempt :=
  if alone && r.isEasy then
    match r.first? c with
    | some d => k d
    | none => .fail
  else
    match r with
    | empty => k c
    | text t => if t.isPrefixOf c.rest then k (c.skip t.length) else .fail
    | char set =>
      match c.rest with
      | [] => .fail
      | d :: _ => if set.has d then k (c.skip 1) else .fail
    | many set greedy => tryMany set greedy (fun n => k (c.skip n)) c.rest 0
    | anchor a => if a.holds c.before.head? c.rest.head? then k c else .fail
    | seq r s => trial r false (trial s alone k) c
    | alt r s => .orElse (trial r alone k c) (trial s alone k c)
    | times r lo (some hi) greedy =>
      tryExactly (trial r false) lo (tryUpTo (trial r false) greedy (hi - lo) k) c
    | times r lo none greedy =>
      tryExactly (trial r false) lo
        (fun d => tryOn (trial r false) greedy (d.rest.length + 1) k d) c
    | group label _ r => trial r alone (fun d => k (c.closeGroup d label)) (c.openGroup label)
    | backref label =>
      match c.captures.get? label with
      | none => .fail
      | some t => if t.isPrefixOf c.rest then k (c.skip t.length) else .fail
    | captured label => if (c.captures.get? label).isSome then k c else .fail
    | ahead true r => trial r true (fun d => k { c with captures := d.captures }) c
    | ahead false r => .onlyWithout (trial r true .succeed c) (k c)
    | behind size positive r =>
      match c.back? size with
      | none => if positive then .fail else k c
      | some b =>
        if positive then trial r true (fun d => k { c with captures := d.captures }) b
        else .onlyWithout (trial r true .succeed b) (k c)
    | atomic r => .onlyFirst (trial r true .succeed c) k

end Regex

end LocalePaths
