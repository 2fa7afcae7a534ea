import LocalePaths.PatternError

/-!
# Errors of filters

The reasons for which a configuration refuses a declaration or a query has no answer.
-/

namespace LocalePaths

/-- Why a configuration refuses a change or a query has no answer. -/
inductive FilterError where
  | includedExcludes
  /-- A configuration cannot be excluded if it or one that it includes excludes others. -/
  | excludedExcludes
  | invalidKey (key : Text)
  | undecidedKey (key entity : Text)
  | pattern (e : PatternError)
  /-- The directory of a configuration is relative, and there is no current directory. -/
  | root (path : Text)
  deriving DecidableEq, Inhabited

namespace FilterError

def message : FilterError → String
  | includedExcludes => "included configs cannot declare their own excludes"
  | excludedExcludes => "excluded configs cannot declare their own excludes"
  | invalidKey key => "invalid entity key pattern '" ++ String.ofList key ++ "'"
  | undecidedKey key entity =>
    "failed to match entity '" ++ String.ofList entity ++ "' against key '" ++ String.ofList key
      ++ "'"
  | pattern e => e.message
  | root path => "failed to resolve root for '" ++ String.ofList path ++ "'"

end FilterError

end LocalePaths
