import LocalePaths.Environment

/-!
# Bindings

The values that the variables and wildcards of a pattern have in a path.
-/

namespace LocalePaths

/-- Names bound to texts. -/
abbrev Bindings := NameMap Text

namespace Bindings

/-- The values as patterns that have no wildcards and no variables. -/
def toEnvironment (b : Bindings) : Environment := b.map Pattern.literal

end Bindings

end LocalePaths
