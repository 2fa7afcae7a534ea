import LocalePaths.BytesMatcher
import LocalePaths.Filter.Edit
import LocalePaths.Filter.Tally
import LocalePaths.Proofs.Regex.ByPosition
import LocalePaths.Proofs.Regex.ByTrial
import LocalePaths.Proofs.Matcher.Stem
import LocalePaths.Proofs.Matcher.Source
import LocalePaths.Proofs.Matcher.Expansion
import LocalePaths.Proofs.Matcher.Rooted
import LocalePaths.Proofs.Matcher.Shared
import LocalePaths.Proofs.Matcher.Qualified
import LocalePaths.Proofs.Filter.Nesting
import LocalePaths.Proofs.Filter.Refusal
import LocalePaths.Proofs.Filter.Sameness
import LocalePaths.Proofs.Filter.Translation
import LocalePaths.Proofs.Filter.Compiled
import LocalePaths.Proofs.Filter.Growth
import LocalePaths.Proofs.Filter.WholeFile
import LocalePaths.Proofs.Filter.Reports
import LocalePaths.Proofs.Filter.Repetition
import LocalePaths.Proofs.Piece.Decomposition
import LocalePaths.Proofs.Piece.Preference
import LocalePaths.Proofs.Matcher.Preferred
import LocalePaths.Proofs.Pattern.Spans
import LocalePaths.Proofs.Pattern.Compact
import LocalePaths.Proofs.Matcher.Joined
import LocalePaths.Proofs.Matcher.Concatenation
import LocalePaths.Proofs.Matcher.Monoid
import LocalePaths.Proofs.Pattern.Ending
import LocalePaths.Proofs.Matcher.Monotone
import LocalePaths.Proofs.Regex.Forward
import LocalePaths.Proofs.Matcher.Prefixed
import LocalePaths.Proofs.Matcher.CapturedNames
import LocalePaths.Proofs.Matcher.Relevance
import LocalePaths.Proofs.Matcher.Cyclic
import LocalePaths.Proofs.Piece.InPlace
import LocalePaths.Proofs.Matcher.Completion
import LocalePaths.Proofs.Qualifier.RoundTrip
import LocalePaths.Proofs.Matcher.Between
import LocalePaths.Proofs.BytesMatcher
import LocalePaths.Proofs.Filter.Key
import LocalePaths.Proofs.Path.Composition
import LocalePaths.Proofs.Filter.Locales
import LocalePaths.Proofs.Filter.DeclaredRules
import LocalePaths.Proofs.Filter.Roots
