import LocalePaths.Regex.Basic
import LocalePaths.Regex.Property

/-!
# Escapes and blanks in regular expressions

What may stand between the parts of a written expression, and what a backslash introduces. Text is quoted
by backslashes, so that it stands for itself.
-/

namespace LocalePaths.Regex

/-- The modes that flags switch on and off. -/
structure Flags where
  ignoreCase : Bool
  multiLine : Bool
  dotAll : Bool
  swapGreed : Bool
  extended : Bool
  deriving DecidableEq, Inhabited

/-- The modes at the start of an expression. -/
def Flags.none : Flags := ⟨false, false, false, false, false⟩

/-- The text with a backslash in front of every special character. -/
def quote (special : Char → Bool) (t : Text) : Text :=
  t.flatMap fun c => if special c then ['\\', c] else [c]

/-- What follows a comment, whose end may be quoted. -/
def afterComment? : Text → Option Text
  | [] => .none
  | ')' :: s => some s
  | '\\' :: _ :: s => afterComment? s
  | _ :: s => afterComment? s

/-- Skips comments, and in extended mode white space and line comments; `fuel` bounds their number.
There is no result if a comment is not closed. -/
def skipBlanks (extended : Bool) : (fuel : Nat) → Text → Option Text
  | 0, s => some s
  | fuel + 1, s =>
    match s with
    | '(' :: '?' :: '#' :: r => do skipBlanks extended fuel (← afterComment? r)
    | '#' :: r =>
      if extended then skipBlanks extended fuel ((r.dropWhile (· ≠ '\n')).drop 1) else some s
    | c :: r =>
      if extended && (c = ' ' || c = '\r' || c = '\n' || c = '\t') then skipBlanks extended fuel r
      else some s
    | [] => some s

/-- The character of a hexadecimal number, if it is one. -/
def hexChar? (digits : Text) : Option Char := do
  let n ← Text.hexNumber? digits
  if n.isValidChar then return Char.ofNat n else failure

/-- Reads a character given by `count` hexadecimal digits or by up to eight in braces. -/
def hexEscape? (count : Nat) (s : Text) : Option (Char × Text) :=
  let digits := s.take count
  if digits.length = count && digits.all fun c => (Text.hexDigit? c).isSome then do
    return (← hexChar? digits, s.drop count)
  else
    match s with
    | '\x7b' :: r =>
      let digits := r.takeWhile fun c => (Text.hexDigit? c).isSome
      match r.dropWhile fun c => (Text.hexDigit? c).isSome with
      | '\x7d' :: r' =>
        if digits = [] || 8 < digits.length then .none else do return (← hexChar? digits, r')
      | _ => .none
    | _ => .none

/-- Reads the property of an escape: one letter, or a name in braces. -/
def propertyEscape? (negated : Bool) (s : Text) : Option (CharSet × Text) := do
  let (name, rest) ← match s with
    | '\x7b' :: r =>
      match r.dropWhile (· ≠ '\x7d') with
      | [] => failure
      | _ :: r' => some (r.takeWhile (· ≠ '\x7d'), r')
    | c :: r => some ([c], r)
    | [] => failure
  let (negated, name) := match name with
    | '^' :: name => (!negated, name)
    | _ => (negated, name)
  let set ← property? name
  return (if negated then .compl set else set, rest)

/-- What an escape stands for. -/
inductive Escape where
  | char (c : Char)
  | set (s : CharSet)
  | anchor (a : Anchor)
  | number
  | name
  | keepOut
  deriving Inhabited

/-- Reads an escape after its backslash. A reference is only recognised; it is read from the whole
of `s`. -/
def escape? (inClass : Bool) (s : Text) : Option (Escape × Text) :=
  match s with
  | [] => .none
  | c :: r =>
    if c.isDigit then if inClass then .none else some (.number, s)
    else
      match c with
      | 'd' => some (.set (.property Unicode.decimalNumber), r)
      | 'D' => some (.set (.compl (.property Unicode.decimalNumber)), r)
      | 's' => some (.set (.property Unicode.whiteSpace), r)
      | 'S' => some (.set (.compl (.property Unicode.whiteSpace)), r)
      | 'w' => some (.set (.having Unicode.wordCharacters), r)
      | 'W' => some (.set (.compl (.having Unicode.wordCharacters)), r)
      | 'h' => some (.set hexDigits, r)
      | 'H' => some (.set (.compl hexDigits), r)
      | 'p' => (propertyEscape? false r).map fun (set, r) => (.set set, r)
      | 'P' => (propertyEscape? true r).map fun (set, r) => (.set set, r)
      | 'x' => (hexEscape? 2 r).map fun (d, r) => (.char d, r)
      | 'u' => (hexEscape? 4 r).map fun (d, r) => (.char d, r)
      | 'U' => (hexEscape? 8 r).map fun (d, r) => (.char d, r)
      | 'a' => some (.char '\x07', r)
      | 'e' => some (.char '\x1b', r)
      | 'f' => some (.char '\x0c', r)
      | 'n' => some (.char '\n', r)
      | 'r' => some (.char '\r', r)
      | 't' => some (.char '\t', r)
      | 'v' => some (.char '\x0b', r)
      | 'b' => some (if inClass then .char '\x08' else .anchor .wordBoundary, r)
      | 'B' => if inClass then .none else some (.anchor .notWordBoundary, r)
      | 'A' => if inClass then .none else some (.anchor .textStart, r)
      | 'z' => if inClass then .none else some (.anchor .textEnd, r)
      | 'G' => if inClass then .none else some (.anchor .textStart, r)
      | 'K' => if inClass then .none else some (.keepOut, r)
      | 'k' => if inClass then .none else some (.name, r)
      | _ => if c.isAlpha then .none else some (.char c, r)
where
  hexDigits : CharSet := .union (.range '0' '9') (.union (.range 'a' 'f') (.range 'A' 'F'))

end LocalePaths.Regex
