import LocalePaths.Regex.CharClass

/-!
# Reading regular expressions

`Regex.parse?` reads a written expression. Groups are labelled by their numbers; of two groups with
one name the later one is meant. A reference must name a group that has been opened; references by
number are refused beside named groups. A conditional takes a reference or an expression as its condition.
Groups may not nest `nestLimit` deep.
-/

namespace LocalePaths.Regex

/-- What has been read so far and what is left to read. -/
structure Reading where
  rest : Text
  flags : Flags
  opened : Nat
  named : List (Text × Text)
  byNumber : Bool
  references : List Text
  numberLimit : Nat

/-- A step of reading. -/
abbrev Read (α : Type) := StateT Reading Option α

namespace Read

/-- Skips what has no meaning. -/
def blanks : Read Unit := do
  let st ← get
  let rest ← skipBlanks st.flags.extended st.rest.length st.rest
  set { st with rest }

def rest : Read Text := return (← get).rest

def goTo (rest : Text) : Read Unit := modify fun st => { st with rest }

/-- Skips a text if it is next. -/
def accept (t : Text) : Read Bool := do
  match Text.after? t (← rest) with
  | some r =>
    goTo r
    return true
  | none => return false

/-- Skips a text that must be next. -/
def expect (t : Text) : Read Unit := do
  if !(← accept t) then failure

/-- Reads digits as a number, if any are next. -/
def number? : Read (Option Nat) := do
  let digits := (← rest).takeWhile Char.isDigit
  if digits = [] then return none
  goTo ((← rest).drop digits.length)
  return some (Nat.ofDigitChars 10 digits 0)

/-- The characters of the names of groups. -/
def isNameChar (c : Char) : Bool := Unicode.isLetter c || Unicode.isDigit c || c = '_'

/-- Reads the name of a group and what closes it. -/
def name (closing : Text) : Read Text := do
  let word := (← rest).takeWhile isNameChar
  if word = [] then failure
  goTo ((← rest).drop word.length)
  expect closing
  return word

/-- The label of the group of a number. -/
def labelOf (n : Nat) : Text := Text.ofNat n

/-- Opens the next group. -/
def openGroup (name : Option Text) : Read Text := do
  let st ← get
  let label := labelOf (st.opened + 1)
  set { st with
    opened := st.opened + 1
    named := (name.map fun word => (word, label)).toList ++ st.named }
  return label

/-- The label of a group that has been opened. -/
def numbered (n : Nat) : Read Text := do
  if n = 0 || (← get).opened < n then failure
  return labelOf n

/-- A reference to a group, which is noted. -/
def reference (label : Text) : Read Regex := do
  modify fun st => { st with references := label :: st.references }
  return .backref label

/-- Reads a reference by number. -/
def numberedReference : Read Regex := do
  match ← number? with
  | none => failure
  | some n =>
    if n < (← get).numberLimit then
      modify fun st => { st with byNumber := true }
      reference (← numbered n)
    else failure

/-- Reads the name or number in a reference, up to what closes it. A negative number counts groups
back from the last. -/
def namedReference (closing : Text) : Read Regex := do
  if ← accept ['-'] then
    match ← number? with
    | none => failure
    | some n =>
      expect closing
      let opened := (← get).opened
      if n = 0 || opened < n then failure
      reference (← numbered (opened + 1 - n))
  else
    let word ← name closing
    match (← get).named.find? (·.1 = word) with
    | some (_, label) => reference label
    | none =>
      if word.all Char.isDigit then reference (← numbered (Nat.ofDigitChars 10 word 0))
      else failure

/-- Reads the reference that is the condition of a conditional, if it is one. -/
def condition? : Read (Option Regex) := do
  if ← accept ['\x27'] then return some (← namedReference ['\x27'])
  if ← accept ['<'] then return some (← namedReference ['>'])
  if (← rest).head?.any Char.isDigit then return some (← numberedReference)
  return none

/-- Reads bounds in braces; what is no bounds is left as it is. -/
def bounds? : Read (Option (Nat × Option Nat)) := fun st =>
  match bounds st with
  | some (b, st) => some (some b, st)
  | none => some (none, st)
where
  bounds : Read (Nat × Option Nat) := do
    expect ['\x7b']
    blanks
    let lo ← match ← rest with
      | ',' :: _ => pure 0
      | _ => match ← number? with
        | some n => pure n
        | none => failure
    blanks
    let hi ← if ← accept [','] then do
        blanks
        number?
      else pure (some lo)
    blanks
    expect ['\x7d']
    return (lo, hi)

/-- Reads how often the expression before is repeated, if it is. -/
def repetition? : Read (Option (Nat × Option Nat)) := do
  match ← rest with
  | '?' :: r =>
    goTo r
    return some (0, some 1)
  | '*' :: r =>
    goTo r
    return some (0, none)
  | '+' :: r =>
    goTo r
    return some (1, none)
  | '\x7b' :: _ => bounds?
  | _ => return none

/-- Reads flags up to a parenthesis or a colon, which is left; returns whether a colon follows. -/
def flags : (fuel : Nat) → (negated any : Bool) → Read Bool
  | 0, _, _ => failure
  | fuel + 1, negated, any => do
    blanks
    let set (f : Flags → Flags) : Read Bool := do
      modify fun st => { st with rest := st.rest.drop 1, flags := f st.flags }
      flags fuel negated true
    match ← rest with
    | 'i' :: _ => set fun f => { f with ignoreCase := !negated }
    | 'm' :: _ => set fun f => { f with multiLine := !negated }
    | 's' :: _ => set fun f => { f with dotAll := !negated }
    | 'U' :: _ => set fun f => { f with swapGreed := !negated }
    | 'x' :: _ => set fun f => { f with extended := !negated }
    | 'u' :: _ => if negated then failure else set id
    | '-' :: r =>
      if negated then failure
      goTo r
      flags fuel true any
    | ')' :: _ => if any then return false else failure
    | ':' :: _ => if negated && !any then failure else return true
    | _ => failure

end Read

/-- Whether the expression may be repeated: it does not only look at its position. -/
def isRepeatable : Regex → Bool
  | empty | anchor _ | ahead _ _ | behind _ _ _ => false
  | _ => true

/-- A repetition; one of characters of a set without an upper bound is a run of them. -/
def repeated (r : Regex) (lo : Nat) (hi : Option Nat) (greedy : Bool) : Option Regex :=
  match r, lo, hi with
  | char set, 0, none => some (many set greedy)
  | char set, 1, none => some (seq (char set) (many set greedy))
  | char set, lo, none => some (seq (times (char set) lo (some lo) greedy) (many set greedy))
  | r, lo, hi => if hi.all (lo ≤ ·) then some (times r lo hi greedy) else none

/-- The last of several alternatives. Alternatives within it stay apart from those before it. -/
def lastAlternative : Regex → Regex
  | alt r s => seq (alt r s) empty
  | r => r

/-- Looks behind; alternatives of different sizes are looked for one by one. -/
def behind? (positive : Bool) (r : Regex) : Option Regex :=
  match r.size?, r with
  | some n, r => some (behind n positive r)
  | none, alt r s => do
    let n ← r.size?
    let first := behind n positive r
    let others ← behind? positive s
    return if positive then alt first others else seq first others
  | none, _ => none

/-- The first of the branches behind a condition, and the others where the condition does not hold. A reference
as a condition holds once its group has captured something. -/
def conditional (condition branches : Regex) : Regex :=
  let condition := match condition with
    | backref label => captured label
    | r => r
  let (yes, no) := match branches with
    | alt yes no => (yes, no)
    | yes => (yes, empty)
  if yes = empty ∧ no = empty then condition
  else alt (seq (atomic condition) yes) (seq (ahead false condition) no)

def isReference : Regex → Bool
  | backref _ => true
  | _ => false

/-- One character, in any case if case is ignored. -/
def oneChar (flags : Flags) (c : Char) : Regex :=
  if flags.ignoreCase then char (.anyCase (.only c)) else text [c]

/-- One character of a set, in any case if case is ignored. The complement of a set is taken
last. -/
def oneOf (flags : Flags) (set : CharSet) : Regex :=
  match flags.ignoreCase, set with
  | false, set => char set
  | true, .compl set => char (.compl (.anyCase set))
  | true, set => char (.anyCase set)

namespace Read

mutual

/-- Reads alternatives. `depth` counts the groups around them. -/
def alternatives : (fuel depth : Nat) → Read Regex
  | 0, _ => failure
  | fuel + 1, depth => do
    let first ← row fuel depth
    blanks
    if ← accept ['|'] then return .alt first (← otherAlternatives fuel depth)
    let st ← get
    if st.byNumber && !st.named.isEmpty then failure
    return first

/-- Reads the alternatives that are left. -/
def otherAlternatives : (fuel depth : Nat) → Read Regex
  | 0, _ => failure
  | fuel + 1, depth => do
    let first ← row fuel depth
    blanks
    if ← accept ['|'] then return .alt first (← otherAlternatives fuel depth)
    return lastAlternative first

/-- Reads what stands in a row up to the end of an alternative. -/
def row : (fuel depth : Nat) → Read Regex
  | 0, _ => failure
  | fuel + 1, depth => do
    let before ← rest
    if before = [] then return .empty
    let first ← piece fuel depth
    if (← rest).length = before.length then return .empty
    match first, ← row fuel depth with
    | .empty, others => return others
    | first, .empty => return first
    | first, others => return .seq first others

/-- Reads an atom and how often it is repeated. -/
def piece : (fuel depth : Nat) → Read Regex
  | 0, _ => failure
  | fuel + 1, depth => do
    let r ← atom fuel depth
    blanks
    match ← repetition? with
    | none => return r
    | some (lo, hi) =>
      if !r.isRepeatable then failure
      blanks
      let lazily ← accept ['?']
      let greedy := lazily == (← get).flags.swapGreed
      let r ← repeated r lo hi greedy
      if ← accept ['+'] then return .atomic r
      return r

/-- Reads one character, class, escape or group. There is none at the end of an alternative. -/
def atom : (fuel depth : Nat) → Read Regex
  | 0, _ => failure
  | fuel + 1, depth => do
    blanks
    let flags := (← get).flags
    match ← rest with
    | [] => return .empty
    | '.' :: r =>
      goTo r
      return .char (if flags.dotAll then .all else .dot)
    | '^' :: r =>
      goTo r
      return .anchor (if flags.multiLine then .lineStart else .textStart)
    | '$' :: r =>
      goTo r
      return .anchor (if flags.multiLine then .lineEnd else .textEnd)
    | '(' :: r =>
      goTo r
      group fuel (depth + 1)
    | '\\' :: r =>
      match ← escape? false r with
      | (.number, r) =>
        goTo r
        numberedReference
      | (.name, r) =>
        goTo r
        if ← accept ['\x27'] then namedReference ['\x27']
        else
          expect ['<']
          namedReference ['>']
      | (.char c, r) =>
        goTo r
        return oneChar flags c
      | (.set s, r) =>
        goTo r
        return oneOf flags s
      | (.anchor a, r) =>
        goTo r
        return .anchor a
      | (.keepOut, r) =>
        goTo r
        return .atomic .empty
    | '[' :: r =>
      let (set, r) ← charClass? flags r
      goTo r
      return .char set
    | c :: r =>
      if c = '+' || c = '*' || c = '?' || c = '|' || c = ')' then return .empty
      goTo r
      return oneChar flags c

/-- Reads a group after its opening parenthesis. -/
def group : (fuel depth : Nat) → Read Regex
  | 0, _ => failure
  | fuel + 1, depth => do
    if nestLimit ≤ depth then failure
    blanks
    if ← accept "?=".toList then return .ahead true (← inner fuel depth)
    if ← accept "?!".toList then return .ahead false (← inner fuel depth)
    if ← accept "?<=".toList then
      let r ← inner fuel depth
      return ← behind? true r
    if ← accept "?<!".toList then
      let r ← inner fuel depth
      return ← behind? false r
    if ← accept "?>".toList then return .atomic (← inner fuel depth)
    if ← accept "?P=".toList then return ← namedReference [')']
    if (← accept "?<".toList) || (← accept "?P<".toList) then
      let label ← openGroup (some (← name ['>']))
      return .group label false (← inner fuel depth)
    if ← accept "?(".toList then return ← branches fuel depth
    if ← accept ['?'] then
      let outside := (← get).flags
      if ← flags fuel false false then
        expect [':']
        let r ← inner fuel depth
        modify fun st => { st with flags := outside }
        return r
      expect [')']
      return .empty
    let label ← openGroup none
    return .group label false (← inner fuel depth)

/-- Reads a conditional after the parentheses that open it and its condition. -/
def branches : (fuel depth : Nat) → Read Regex
  | 0, _ => failure
  | fuel + 1, depth => do
    let condition ← match ← condition? with
      | some r => pure r
      | none => alternatives fuel depth
    expect [')']
    let before ← rest
    let branches ← alternatives fuel depth
    if (← rest).length = before.length && !condition.isReference then failure
    expect [')']
    return conditional condition branches

/-- Reads alternatives and the parenthesis that closes them. -/
def inner : (fuel depth : Nat) → Read Regex
  | 0, _ => failure
  | fuel + 1, depth => do
    let r ← alternatives fuel depth
    expect [')']
    return r

end

end Read

/-- Marks the groups that references name. -/
def markReferenced (labels : List Text) : Regex → Regex
  | seq r s => seq (markReferenced labels r) (markReferenced labels s)
  | alt r s => alt (markReferenced labels r) (markReferenced labels s)
  | times r lo hi greedy => times (markReferenced labels r) lo hi greedy
  | group label referenced r =>
    group label (referenced || labels.contains label) (markReferenced labels r)
  | ahead positive r => ahead positive (markReferenced labels r)
  | behind size positive r => behind size positive (markReferenced labels r)
  | atomic r => atomic (markReferenced labels r)
  | r => r

def parse? (s : Text) : Option Regex := do
  let start : Reading := ⟨s, .none, 0, [], false, [], Text.byteLength s / 2⟩
  let (r, st) ← (Read.alternatives (2 * s.length + 512) 0).run start
  if st.rest = [] then return r.markReferenced st.references else failure

end LocalePaths.Regex
