import LocalePaths.Text

/-!
# JSON

A strict reader for JSON. All fields of an object are kept in order, also those with equal names. A
string is kept as `none` if it has half of a surrogate pair and so is no text. Numbers are not kept:
no declaration has any.
-/

namespace LocalePaths

/-- A JSON value. -/
inductive Json where
  | null
  | bool (b : Bool)
  | number
  | string (text : Option Text)
  | array (items : List Json)
  | object (fields : List (Option Text × Json))
  deriving Inhabited

namespace Json

/-- A part of a string: a character, or a unit of UTF-16 given by an escape. -/
inductive StringPart where
  | char (c : Char)
  | unit (n : Nat)
  deriving DecidableEq, Inhabited

/-- The text of parts, in which two units may be one character. -/
def textOf? : List StringPart → Option Text
  | [] => some []
  | .char c :: ps => return c :: (← textOf? ps)
  | .unit u :: ps =>
    if 0xd800 ≤ u && u < 0xdc00 then
      match ps with
      | .unit v :: ps => do
        if !(0xdc00 ≤ v && v < 0xe000) then failure
        return Char.ofNat (0x10000 + (u - 0xd800) * 0x400 + (v - 0xdc00)) :: (← textOf? ps)
      | _ => none
    else if 0xdc00 ≤ u && u < 0xe000 then none
    else return Char.ofNat u :: (← textOf? ps)

def escape? (c : Char) : Option Char :=
  match c with
  | '"' => some '"'
  | '\\' => some '\\'
  | '/' => some '/'
  | 'b' => some '\x08'
  | 'f' => some '\x0c'
  | 'n' => some '\n'
  | 'r' => some '\r'
  | 't' => some '\t'
  | _ => none

/-- Reads a string after its opening quote. -/
def stringParts? : Text → Option (List StringPart × Text)
  | [] => none
  | '"' :: s => some ([], s)
  | '\\' :: 'u' :: a :: b :: c :: d :: s => do
    let n ← Text.hexNumber? [a, b, c, d]
    let (ps, s) ← stringParts? s
    return (.unit n :: ps, s)
  | '\\' :: e :: s => do
    let c ← escape? e
    let (ps, s) ← stringParts? s
    return (.char c :: ps, s)
  | c :: s => do
    if c.toNat < 0x20 then failure
    let (ps, s) ← stringParts? s
    return (.char c :: ps, s)

def skipBlanks (s : Text) : Text :=
  s.dropWhile fun c => c = ' ' || c = '\n' || c = '\r' || c = '\t'

/-- Drops digits, of which there must be one. -/
def digits? (s : Text) : Option Text :=
  match s with
  | c :: r => if c.isDigit then some (r.dropWhile Char.isDigit) else none
  | [] => none

/-- Drops a number: it may have a sign, a fraction and an exponent, but no redundant zero in front. -/
def number? (s : Text) : Option Text := do
  let s := match s with
    | '-' :: r => r
    | _ => s
  let s ← match s with
    | '0' :: r =>
      match r with
      | c :: _ => if c.isDigit then failure else some r
      | [] => some r
    | _ => digits? s
  let s ← match s with
    | '.' :: r => digits? r
    | _ => some s
  match s with
  | 'e' :: '+' :: r | 'E' :: '+' :: r | 'e' :: '-' :: r | 'E' :: '-' :: r => digits? r
  | 'e' :: r | 'E' :: r => digits? r
  | _ => some s

mutual

/-- Reads a value; `fuel` bounds the nesting and the number of items. -/
def value? : (fuel : Nat) → Text → Option (Json × Text)
  | 0, _ => none
  | fuel + 1, s =>
    match skipBlanks s with
    | 'n' :: 'u' :: 'l' :: 'l' :: r => some (null, r)
    | 't' :: 'r' :: 'u' :: 'e' :: r => some (bool true, r)
    | 'f' :: 'a' :: 'l' :: 's' :: 'e' :: r => some (bool false, r)
    | '"' :: r => do
      let (ps, r) ← stringParts? r
      return (string (textOf? ps), r)
    | '[' :: r =>
      match skipBlanks r with
      | ']' :: r => some (array [], r)
      | r => do
        let (items, r) ← items? fuel r
        return (array items, r)
    | '\x7b' :: r =>
      match skipBlanks r with
      | '\x7d' :: r => some (object [], r)
      | r => do
        let (fields, r) ← fields? fuel r
        return (object fields, r)
    | r => do return (number, ← number? r)

/-- Reads the items of an array, of which there is one, up to the closing bracket. -/
def items? : (fuel : Nat) → Text → Option (List Json × Text)
  | 0, _ => none
  | fuel + 1, s => do
    let (first, s) ← value? fuel s
    match skipBlanks s with
    | ']' :: s => return ([first], s)
    | ',' :: s =>
      let (others, s) ← items? fuel s
      return (first :: others, s)
    | _ => none

/-- Reads the fields of an object, of which there is one, up to the closing brace. -/
def fields? : (fuel : Nat) → Text → Option (List (Option Text × Json) × Text)
  | 0, _ => none
  | fuel + 1, s => do
    match skipBlanks s with
    | '"' :: s =>
      let (ps, s) ← stringParts? s
      match skipBlanks s with
      | ':' :: s =>
        let (first, s) ← value? fuel s
        match skipBlanks s with
        | '\x7d' :: s => return ([(textOf? ps, first)], s)
        | ',' :: s =>
          let (others, s) ← fields? fuel s
          return ((textOf? ps, first) :: others, s)
        | _ => none
      | _ => none
    | _ => none

end

/-- Reads a value that is all of the text. -/
def parse? (s : Text) : Option Json := do
  let (v, s) ← value? (2 * s.length + 1) s
  if skipBlanks s = [] then return v else failure

end Json

end LocalePaths
