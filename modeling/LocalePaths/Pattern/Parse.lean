import LocalePaths.Pattern.Basic

/-!
# Reading patterns

`Pattern.parse` reads pattern text. It never fails: what is no wildcard and no variable in braces is
literal text. The text is first cut into tokens, `*`, `**` and variables between literal characters;
the tokens are then numbered and flagged.
-/

namespace LocalePaths

/-- A part of pattern text. -/
inductive Token where
  | char (c : Char)
  | star
  /-- A `**` that stands for whole segments, with the separator that it takes along. -/
  | starstar (ending : Text)
  | name (word : Text)
  deriving DecidableEq, Inhabited

namespace Token

def isNameChar (c : Char) : Bool := c.isAlphanum || c = '_'

/-- Reads a name after its opening brace, up to the closing one; spaces around it do not count. -/
def name? (s : Text) : Option (Text × Text) :=
  let s := s.dropWhile (· = ' ')
  match s.takeWhile isNameChar, (s.dropWhile isNameChar).dropWhile (· = ' ') with
  | c :: word, '}' :: rest => some (c :: word, rest)
  | _, _ => none

/-- The ending of a `**` and what follows it, if the text after its two stars is the end or a
separator. -/
def ending? : Text → Option (Text × Text)
  | [] => some ([], [])
  | '/' :: rest => some (['/'], rest)
  | _ => none

/-- Cuts off the first token. `atStart` says that the text starts a path segment. -/
def next? (atStart : Bool) : Text → Option (Token × Text)
  | [] => none
  | '*' :: rest =>
    match atStart, rest with
    | true, '*' :: rest' =>
      match ending? rest' with
      | some (ending, rest'') => some (starstar ending, rest'')
      | none => some (star, rest)
    | _, _ => some (star, rest)
  | '{' :: rest =>
    match name? rest with
    | some (word, rest') => some (name word, rest')
    | none => some (char '{', rest)
  | c :: rest => some (char c, rest)

/-- Whether the token ends a path segment, so that `**` may follow. -/
def endsSegment : Token → Bool
  | char c => c = '/'
  | starstar ending => ending = ['/']
  | _ => false

/-- The tokens of a text, found one after another; `fuel` bounds their number. -/
def scan : (fuel : Nat) → (atStart : Bool) → Text → List Token
  | 0, _, _ => []
  | fuel + 1, atStart, s =>
    match next? atStart s with
    | none => []
    | some (t, rest) => t :: scan fuel t.endsSegment rest

def ofText (s : Text) : List Token := scan s.length true s

end Token

namespace Pattern

/-- A literal node, if there is text for it. -/
def literal? (text : Text) : List Node := if text = [] then [] else [.literal text]

/-- The nodes of tokens: runs of characters are joined, wildcards numbered from `id` on. The last
node is always a literal, be it empty. -/
def ofTokens (id : Nat) (run : Text) : List Token → List Node
  | [] => [.literal run]
  | .char c :: ts => ofTokens id (run ++ [c]) ts
  | .star :: ts => literal? run ++ .star id :: ofTokens (id + 1) [] ts
  | .starstar ending :: ts => literal? run ++ .starstar id ending :: ofTokens (id + 1) [] ts
  | .name word :: ts =>
    literal? run ++
      (if word = androidLocale then .android false else .variable word false) ::
        ofTokens id [] ts

/-- The number of nodes before the first wildcard. -/
def stemOf (nodes : List Node) : Nat := (nodes.takeWhile fun n => !n.isWildcard).length

def parse (s : Text) : Pattern :=
  let nodes := Node.flagAll [] (ofTokens 1 [] (Token.ofText s))
  ⟨nodes, none, stemOf nodes⟩

end Pattern

end LocalePaths
