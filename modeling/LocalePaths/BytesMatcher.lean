import LocalePaths.Encoding.Label
import LocalePaths.Matcher

/-!
# Matchers for byte paths

Paths that are held as bytes are decoded, matched as texts, and encoded again.
-/

namespace LocalePaths

/-- A matcher for paths in an encoding. -/
structure BytesMatcher where
  matcher : Matcher
  encoding : Encoding
  deriving Inhabited

namespace BytesMatcher

/-- The matcher for paths in the encoding of a label, if the label is known. -/
def ofLabel (m : Matcher) (label : Text) : Except PatternError BytesMatcher :=
  match Encoding.ofLabel? label with
  | some e => .ok ⟨m, e⟩
  | none => .error (.unknownEncoding label)

/-- Whether the encodings are the same and the matchers agree. -/
def agrees (m other : BytesMatcher) : Bool :=
  m.encoding.name = other.encoding.name && m.matcher.agrees other.matcher

/-- The text of a path; bytes that are none in the encoding are refused. -/
def decode (m : BytesMatcher) (path : Bytes) : Except PatternError Text :=
  match m.encoding.decode? path with
  | some t => .ok t
  | none => .error (.undecodable m.encoding.name)

/-- The bytes of a text that is written in the encoding as a whole. -/
def encode (m : BytesMatcher) (t : Text) : Except PatternError Bytes :=
  match m.encoding.encode? t with
  | some bs => .ok bs
  | none => .error (.unencodable m.encoding.name)

/-- The values with which a path matches, if its bytes are a text. -/
def captures (m : BytesMatcher) (path : Bytes) : Except PatternError (Option Bindings) := do
  m.matcher.captures (← m.decode path)

/-- Whether a path matches, if its bytes are a text. -/
def isMatch (m : BytesMatcher) (path : Bytes) : Except PatternError Bool := do
  m.matcher.isMatch (← m.decode path)

/-- The path that `other` makes of the values with which `path` matches `m`. -/
def sub (m other : BytesMatcher) (path : Bytes) : Except PatternError (Option Bytes) := do
  match ← m.matcher.sub other.matcher (← m.decode path) with
  | some t => return some (← other.encode t)
  | none => return none

/-- The bytes with which all matching paths start. -/
def staticStem (m : BytesMatcher) : Except PatternError Bytes := m.encode m.matcher.staticStem

/-- Asks the matcher about the text of a path; the matcher afterwards comes with the answer. -/
def traced {α : Type} (m : BytesMatcher) (path : Bytes) (answer : Except PatternError α)
    (ask : Matcher → Text → Traced Matcher) : Traced (Except PatternError α × BytesMatcher) := do
  match m.decode path with
  | .error _ => return (answer, m)
  | .ok t => return (answer, { m with matcher := ← ask m.matcher t })

/-- `captures` with the reports of the matcher. -/
def tracedCaptures (m : BytesMatcher) (path : Bytes) :
    Traced (Except PatternError (Option Bindings) × BytesMatcher) :=
  m.traced path (m.captures path) fun m t => return (← m.tracedCaptures t).2

/-- `isMatch` with the reports of the matcher. -/
def tracedIsMatch (m : BytesMatcher) (path : Bytes) :
    Traced (Except PatternError Bool × BytesMatcher) :=
  m.traced path (m.isMatch path) fun m t => return (← m.tracedIsMatch t).2

/-- `sub` with the reports of the matcher that the path is read with. -/
def tracedSub (m other : BytesMatcher) (path : Bytes) :
    Traced (Except PatternError (Option Bytes) × BytesMatcher) :=
  m.traced path (m.sub other path) fun m t => return (← m.tracedCaptures t).2

end BytesMatcher

end LocalePaths
