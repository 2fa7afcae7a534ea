import LocalePaths.BytesMatcher
import LocalePaths.Proofs.Encoding.Lossless
import LocalePaths.Proofs.Matcher.Layout
import LocalePaths.Proofs.Matcher.Rooted

/-!
# Byte paths

Translating a byte path is translating the text that it is read as: only a path that is not valid in its
encoding is refused as such, and the result is carried over to the other encoding
(`BytesMatcher.sub_carries`). So a path that matches is translated to itself where nothing is lost.
-/

namespace LocalePaths

namespace Encoding
variable {e : Encoding} {t : Text} {bs : Bytes}

end Encoding

namespace Matcher
variable {m o : Matcher} {path : Text}

end Matcher

namespace BytesMatcher
variable {m o : BytesMatcher} {path bs : Bytes} {t r : Text}

theorem isMatch_eq_ok_true :
    m.isMatch path = .ok true ↔ ∃ t, m.encoding.decode? path = some t ∧ m.matcher.isMatch t = .ok true := by
  unfold isMatch decode
  cases m.encoding.decode? path with
  | none => simp [bind, Except.bind]
  | some t => simp [bind, Except.bind]

/-- Localized paths in windows-1252. -/
def localized : BytesMatcher := ⟨.of (.parse "/l10n/{locale}/*".toList), .singleByte .windows1252⟩

end BytesMatcher

end LocalePaths
