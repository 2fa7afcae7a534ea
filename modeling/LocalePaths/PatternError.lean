import LocalePaths.Text

/-!
# Errors of patterns

The reasons for which a pattern cannot be matched or expanded.
-/

namespace LocalePaths

/-- Why a pattern cannot be matched or expanded. -/
inductive PatternError where
  | missingBinding (name : Text)
  | duplicateBinding (name : Text)
  /-- A relative root is needed, and there is no current directory. -/
  | root (path : Text)
  | rootedConcat
  | tooDeep (pattern : Text)
  | undecided (path : Text)
  | undecodable (encoding : String)
  | unencodable (encoding : String)
  | unknownEncoding (label : Text)
  /-- The bindings of a pattern lead back to themselves, so that its expansion does not end. -/
  | endless
  deriving DecidableEq, Inhabited

namespace PatternError

def message : PatternError → String
  | missingBinding name =>
    "no binding for \x60" ++ String.ofList name ++ "\x60 while expanding pattern"
  | duplicateBinding name =>
    "variable \x60\x7b" ++ String.ofList name
      ++ "\x7d\x60 collides with the wildcard binding of the same name"
  | root path => "failed to resolve root '" ++ String.ofList path ++ "'"
  | rootedConcat => "cannot concatenate a rooted pattern onto another pattern"
  | tooDeep pattern => "failed to compile pattern '" ++ String.ofList pattern ++ "'"
  | undecided path => "failed to match '" ++ String.ofList path ++ "'"
  | undecodable encoding => "path is not valid " ++ encoding
  | unencodable encoding => "expanded path cannot be represented in " ++ encoding
  | unknownEncoding label => "unknown text encoding label '" ++ String.ofList label ++ "'"
  | endless => "the expansion of the pattern does not end"

end PatternError

end LocalePaths
