import LocalePaths.Regex.Escape

/-!
# Character classes in brackets

Reads classes such as `[a-z&&[^aeiou]]`. The text is first cut into class tokens up to the bracket
that closes the class; then the tokens are read as ranges, nested classes and operations on sets.
-/

namespace LocalePaths.Regex

/-- A part of a class in brackets. -/
inductive ClassToken where
  | plain (c : Char)
  | escaped (c : Char)
  | set (s : CharSet)
  deriving DecidableEq, Inhabited

namespace ClassToken

/-- Cuts the text after an opening bracket into tokens, up to the bracket that closes the class.
`nest` counts the brackets that are open. -/
def scan (extended : Bool) : (fuel nest : Nat) → Text → Option (List ClassToken × Text)
  | 0, _, _ => none
  | fuel + 1, nest, s => do
    match ← skipBlanks extended s.length s with
    | [] => none
    | '\\' :: r =>
      match ← escape? true r with
      | (.char c, r) => cons (escaped c) (scan extended fuel nest r)
      | (.set chars, r) => cons (set chars) (scan extended fuel nest r)
      | _ => none
    | '[' :: r => cons (plain '[') (scan extended fuel (nest + 1) r)
    | ']' :: r =>
      if nest ≤ 1 then return ([plain ']'], r)
      else cons (plain ']') (scan extended fuel (nest - 1) r)
    | c :: r => cons (plain c) (scan extended fuel nest r)
where
  cons (t : ClassToken) (more : Option (List ClassToken × Text)) :
      Option (List ClassToken × Text) :=
    more.map fun (ts, r) => (t :: ts, r)

/-- The tokens of a class after its opening bracket, the closing bracket among them. A closing
bracket that comes first stands for itself. -/
def ofText (extended : Bool) (s : Text) : Option (List ClassToken × Text) :=
  let (opening, s) := match s with
    | '^' :: r => ([plain '^'], r)
    | _ => ([], s)
  let (first, s) := match s with
    | ']' :: r => ([plain ']'], r)
    | _ => ([], s)
  (scan extended (s.length + 1) 1 s).map fun (ts, r) => (opening ++ first ++ ts, r)

end ClassToken

/-- An operation on two sets. -/
inductive SetOp where
  | inter
  | diff
  | symmDiff
  deriving DecidableEq, Inhabited

def SetOp.apply (op : SetOp) (s t : CharSet) : CharSet :=
  match op with
  | inter => .inter s t
  | diff => .diff s t
  | symmDiff => .symmDiff s t

/-- The class of a name such as `alnum`, which has characters of ASCII only. -/
def asciiClass? (name : Text) : Option CharSet :=
  let upper := CharSet.range 'A' 'Z'
  let lower := CharSet.range 'a' 'z'
  let digit := CharSet.range '0' '9'
  let alpha := CharSet.union upper lower
  match String.ofList name with
  | "alnum" => some (.union alpha digit)
  | "alpha" => some alpha
  | "ascii" => some (.range '\x00' '\x7f')
  | "blank" => some (.union (.only ' ') (.only '\t'))
  | "cntrl" => some (.union (.range '\x00' '\x1f') (.only '\x7f'))
  | "digit" => some digit
  | "graph" => some (.range '!' '~')
  | "lower" => some lower
  | "print" => some (.range ' ' '~')
  | "punct" =>
    some (.union (.range '!' '/') (.union (.range ':' '@') (.union (.range '[' '\x60')
      (.range '\x7b' '~'))))
  | "space" => some (.union (.range '\t' '\r') (.only ' '))
  | "upper" => some upper
  | "word" => some (.union alpha (.union digit (.only '_')))
  | "xdigit" => some (.union digit (.union (.range 'A' 'F') (.range 'a' 'f')))
  | _ => none

/-- The characters in front that are not escaped. -/
def plainRun : List ClassToken → Text
  | .plain c :: ts => c :: plainRun ts
  | _ => []

/-- Reads a named class after its opening bracket. -/
def namedClass? (ts : List ClassToken) : Option (CharSet × List ClassToken) := do
  match plainRun ts with
  | ':' :: s =>
    let (negated, s) := match s with
      | '^' :: r => (true, r)
      | _ => (false, s)
    let name := s.takeWhile (· ≠ ':')
    match s.dropWhile (· ≠ ':') with
    | ':' :: ']' :: _ =>
      let set ← asciiClass? name
      let used := name.length + (if negated then 4 else 3)
      return (if negated then .compl set else set, ts.drop used)
    | _ => none
  | _ => none

/-- A class that is being read: the set on the left of the last operation with that operation, the
items since then, whether the class is negated, and the class around it. -/
structure OpenClass where
  left : Option (CharSet × SetOp)
  items : List CharSet
  negated : Bool

namespace OpenClass

def add (o : OpenClass) (s : CharSet) : OpenClass := { o with items := o.items ++ [s] }

/-- The set that has been read so far. -/
def current (ignoreCase : Bool) (o : OpenClass) : CharSet :=
  let items := CharSet.ofList o.items
  match o.left with
  | none => items
  | some (s, op) =>
    if ignoreCase then op.apply (.anyCase s) (.anyCase items) else op.apply s items

/-- Begins the right side of an operation. -/
def startRight (ignoreCase : Bool) (op : SetOp) (o : OpenClass) : OpenClass :=
  ⟨some (o.current ignoreCase, op), [], o.negated⟩

/-- The set of a class that has been read to its end. Case is ignored before the complement is taken. -/
def close (ignoreCase : Bool) (o : OpenClass) : CharSet :=
  let set := if ignoreCase then .anyCase (o.current ignoreCase) else o.current ignoreCase
  if o.negated then .compl set else set

end OpenClass

/-- Reads what follows an opening bracket: a negation, hyphens, and a closing bracket that stands
for itself. -/
def startClass : List ClassToken → OpenClass × List ClassToken
  | .plain '^' :: ts => firstItems ⟨none, [], true⟩ ts
  | ts => firstItems ⟨none, [], false⟩ ts
where
  firstItems (o : OpenClass) (ts : List ClassToken) : OpenClass × List ClassToken :=
    let hyphens := (ts.takeWhile (· = .plain '-')).map fun _ => CharSet.only '-'
    match hyphens, ts.dropWhile (· = .plain '-') with
    | [], .plain ']' :: ts => (o.add (.only ']'), ts)
    | hyphens, ts => ({ o with items := hyphens }, ts)

/-- A character that may bound a range. -/
def ClassToken.bound? : ClassToken → Option Char
  | plain c => some c
  | escaped c => some c
  | set _ => none

/-- Reads a range or a single item. -/
def classItem? : List ClassToken → Option (CharSet × List ClassToken)
  | [] => none
  | t :: ts =>
    let alone := match t with
      | .set s => s
      | .plain c | .escaped c => CharSet.only c
    match ts with
    | .plain '-' :: .plain ']' :: _ | .plain '-' :: .plain '-' :: _ => some (alone, ts)
    | .plain '-' :: u :: ts' => do
      let lo ← t.bound?
      let hi ← u.bound?
      if lo ≤ hi then return (.range lo hi, ts') else failure
    | [] | [.plain '-'] => none
    | ts => some (alone, ts)

/-- Reads a class; `outer` are the classes around it, the innermost first. -/
def readClass (ignoreCase : Bool) :
    (fuel : Nat) → OpenClass → (outer : List OpenClass) → List ClassToken → Option CharSet
  | 0, _, _, _ => none
  | fuel + 1, o, outer, ts =>
    let go := readClass ignoreCase fuel
    match ts with
    | [] => none
    | .plain '[' :: r =>
      match namedClass? r with
      | some (set, r) => go (o.add set) outer r
      | none =>
        let (inner, r) := startClass r
        go inner (o :: outer) r
    | .plain ']' :: r =>
      match outer with
      | [] => if r = [] then some (o.close ignoreCase) else none
      | o' :: outer => go (o'.add (o.close ignoreCase)) outer r
    | .plain '&' :: .plain '&' :: r => go (o.startRight ignoreCase .inter) outer r
    | .plain '-' :: .plain '-' :: r => go (o.startRight ignoreCase .diff) outer r
    | .plain '~' :: .plain '~' :: r => go (o.startRight ignoreCase .symmDiff) outer r
    | ts =>
      match classItem? ts with
      | some (set, r) => go (o.add set) outer r
      | none => none

/-- Reads a class after its opening bracket. -/
def charClass? (flags : Flags) (s : Text) : Option (CharSet × Text) := do
  let (ts, r) ← ClassToken.ofText flags.extended s
  let (o, ts) := startClass ts
  return (← readClass flags.ignoreCase (ts.length + 1) o [] ts, r)

end LocalePaths.Regex
