import LocalePaths.Regex.Cursor

/-!
# Matching by positions

An easy expression is matched without trying alternatives in vain. `Regex.reach` computes, from the
end of the text backwards, from which positions the expression leads to one of a set of positions;
`Regex.walk` then follows the preferred choice among those that lead there. The time is polynomial
in the length of the text whatever the expression is.

A set of positions is a list of marks, one for each suffix of the text from the longest to the empty
one.
-/

namespace LocalePaths

/-- The positions of a text: one mark for every suffix of it. -/
abbrev Marks := List Bool

namespace Marks

def here (ts : Marks) : Bool := ts.headD false

/-- The positions that are marked in one of two lists. -/
def union (ts us : Marks) : Marks := List.zipWith (· || ·) ts us

def all (rest : Text) : Marks := true :: rest.map fun _ => true

/-- The positions from which a text leads to one of `ts`, where `ds` holds the marks of `ts` after
as many characters as the text has. -/
def overText (t : Text) : (rest : Text) → (ds : Marks) → Marks
  | [], ds => [t.isEmpty && ds.here]
  | c :: rest, ds => (t.isPrefixOf (c :: rest) && ds.here) :: overText t rest ds.tail

/-- The positions from which one character of a set leads to one of `ts`. -/
def overChar (set : CharSet) : (rest : Text) → (ts : Marks) → Marks
  | [], _ => [false]
  | c :: rest, ts => (set.has c && here ts.tail) :: overChar set rest ts.tail

/-- The positions from which any number of characters of a set lead to one of `ts`. -/
def overMany (set : CharSet) : (rest : Text) → (ts : Marks) → Marks
  | [], ts => [ts.here]
  | c :: rest, ts =>
    let later := overMany set rest ts.tail
    (ts.here || (set.has c && later.here)) :: later

/-- The positions of `ts` at which a condition holds. -/
def atAnchor (a : Anchor) : (before : Option Char) → (rest : Text) → (ts : Marks) → Marks
  | before, [], ts => [a.holds before none && ts.here]
  | before, c :: rest, ts =>
    (a.holds before (some c) && ts.here) :: atAnchor a (some c) rest ts.tail

/-- Goes back a number of times. -/
def iterate (step : Marks → Marks) : Nat → Marks → Marks
  | 0, ts => ts
  | n + 1, ts => iterate step n (step ts)

/-- Goes back at most a number of times, until no position is added. -/
def within (step : Marks → Marks) : Nat → Marks → Marks
  | 0, ts => ts
  | n + 1, ts =>
    let us := ts.union (step ts)
    if us = ts then ts else within step n us

end Marks

namespace Regex

/-- The positions from which the expression leads to one of `ts`. The text after the first position
is `rest`, and `before` is the character in front of it. -/
def reach (before : Option Char) (rest : Text) : Regex → Marks → Marks
  | empty, ts => ts
  | text t, ts => Marks.overText t rest (ts.drop t.length)
  | char set, ts => Marks.overChar set rest ts
  | many set _, ts => Marks.overMany set rest ts
  | anchor a, ts => Marks.atAnchor a before rest ts
  | seq r s, ts => reach before rest r (reach before rest s ts)
  | alt r s, ts => (reach before rest r ts).union (reach before rest s ts)
  | times r lo hi _, ts =>
    let more := match hi with
      | some hi => hi - lo
      | none => rest.length + 1
    Marks.iterate (reach before rest r) lo (Marks.within (reach before rest r) more ts)
  | group _ _ r, ts => reach before rest r ts
  | backref _, ts | captured _, ts | ahead _ _, ts | behind _ _ _, ts | atomic _, ts => ts.map fun _ => false

/-- The positions from which the expression leads from the cursor to one of `ts`. -/
def reachFrom (c : Cursor) (r : Regex) (ts : Marks) : Marks := reach c.before.head? c.rest r ts

/-- Moves over the characters of a set to one of `ts`, the last one or the first one. -/
def walkMany (set : CharSet) (greedy : Bool) : (rest : Text) → (ts : Marks) → Nat
  | [], _ => 0
  | c :: rest, ts =>
    if greedy then
      if set.has c && (Marks.overMany set rest ts.tail).here then
        walkMany set greedy rest ts.tail + 1
      else 0
    else if ts.here then 0
    else walkMany set greedy rest ts.tail + 1

/-- A way to move the cursor to one of the marked positions. -/
abbrev Walk := Cursor → Marks → Cursor

/-- The marks from the position of `d` on, given those from the position of `c` on. -/
def alignedAt (c d : Cursor) (ts : Marks) : Marks := ts.drop (c.rest.length - d.rest.length)

/-- Walks exactly `n` times; `goal n` are the positions from which `n` times lead to the aim. -/
def walkExactly (walk : Walk) (goal : Cursor → Marks → Nat → Marks) : Nat → Walk
  | 0, c, _ => c
  | n + 1, c, ts =>
    let d := walk c (goal c ts n)
    walkExactly walk goal n d (alignedAt c d ts)

/-- Walks at most `n` times, as often or as seldom as leads to one of `ts`. -/
def walkUpTo (walk : Walk) (step : Cursor → Marks → Marks) (greedy : Bool) : Nat → Walk
  | 0, c, _ => c
  | n + 1, c, ts =>
    let next := Marks.within (step c) n ts
    if (greedy || !ts.here) && (step c next).here then
      let d := walk c next
      walkUpTo walk step greedy n d (alignedAt c d ts)
    else c

/-- Walks once and then on, as often or as seldom as leads to one of `ts`. A round that does not
move is the last one. -/
def walkOn (walk : Walk) (step : Cursor → Marks → Marks) (greedy : Bool) : (fuel : Nat) → Walk
  | 0, c, _ => c
  | fuel + 1, c, ts =>
    let next := ts.here :: (Marks.within (step c) (c.rest.length + 1) ts).tail
    let d := walk c next
    let us := alignedAt c d ts
    if d.rest.length < c.rest.length then
      let further := us.here :: (Marks.within (step d) (d.rest.length + 1) us).tail
      if (greedy || !us.here) && (step d further).here then walkOn walk step greedy fuel d us else d
    else d

/-- Moves the cursor over the preferred match of the expression that ends at one of `ts`, provided
that there is one. -/
def walk : Regex → Walk
  | empty, c, _ => c
  | text t, c, _ => c.skip t.length
  | char _, c, _ => c.skip 1
  | many set greedy, c, ts => c.skip (walkMany set greedy c.rest ts)
  | anchor _, c, _ => c
  | seq r s, c, ts =>
    let d := walk r c (reachFrom c s ts)
    walk s d (alignedAt c d ts)
  | alt r s, c, ts => if (reachFrom c r ts).here then walk r c ts else walk s c ts
  | times r lo (some hi) greedy, c, ts =>
    let step := fun c ts => reachFrom c r ts
    let d := walkExactly (walk r)
      (fun c ts n => Marks.iterate (step c) n (Marks.within (step c) (hi - lo) ts)) lo c ts
    walkUpTo (walk r) step greedy (hi - lo) d (alignedAt c d ts)
  | times r lo none greedy, c, ts =>
    let step := fun c ts => reachFrom c r ts
    let onward := fun c ts => Marks.within (step c) (c.rest.length + 1) ts
    let d := walkExactly (walk r)
      (fun c ts n => Marks.iterate (step c) (n + 1) (onward c ts)) (lo - 1) c ts
    let us := alignedAt c d ts
    let further := us.here :: (onward d us).tail
    if 0 < lo || ((greedy || !us.here) && (step d further).here) then
      walkOn (walk r) step greedy (d.rest.length + 1) d us
    else d
  | group label _ r, c, ts => c.closeGroup (walk r (c.openGroup label) ts) label
  | backref _, c, _ | captured _, c, _ | ahead _ _, c, _ | behind _ _ _, c, _ | atomic _, c, _ => c

/-- The preferred match from a cursor. -/
def first? (r : Regex) (c : Cursor) : Option Cursor :=
  let ts := Marks.all c.rest
  if (reachFrom c r ts).here then some (walk r c ts) else none

end Regex

end LocalePaths
