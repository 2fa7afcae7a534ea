import LocalePaths.Text

/-!
# Character encodings

An encoding reads bytes as a text and writes a text as bytes, after the WHATWG Encoding Standard. Reading
is strict: bytes that are no encoding of a text are refused, and a byte order mark is kept as a character.
What is written for a text may be in another encoding.
-/

namespace LocalePaths

/-- A text as bytes. -/
abbrev Bytes := List UInt8

/-- What is written for a text: the bytes, the name of the encoding that they are in, and whether all
characters could be written in it. -/
structure Encoded where
  bytes : Bytes
  encoding : String
  complete : Bool
  deriving DecidableEq, Inhabited

/-- A character encoding. -/
structure Encoding where
  name : String
  decode? : Bytes → Option Text
  encode : Text → Encoded
  deriving Inhabited

namespace Encoding

/-- The bytes of a text, provided that all of it is written and in this encoding. -/
def encode? (e : Encoding) (t : Text) : Option Bytes :=
  let written := e.encode t
  if !written.complete || written.encoding ≠ e.name then none else some written.bytes

end Encoding

end LocalePaths
