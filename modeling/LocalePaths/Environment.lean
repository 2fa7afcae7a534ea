import LocalePaths.NameMap
import LocalePaths.Pattern.Basic

/-!
# Environments and scopes

An environment binds names to patterns. A scope is what expansion sees of one or two environments:
the names that are being expanded are hidden in it, so that no binding is reached through itself.
-/

namespace LocalePaths

/-- Names bound to patterns. -/
abbrev Environment := NameMap Pattern

/-- The name that a wildcard is bound to: `s1`, `s2` and so on. -/
def starName (id : Nat) : Text := 's' :: Text.ofNat id

/-- The bindings of `env`, then those of `fallback`, apart from the hidden names. -/
structure Scope where
  env : Environment
  fallback : Environment
  hidden : List Text

namespace Scope

/-- The scope of one environment, in which nothing is hidden. -/
def of (env : Environment) : Scope := ⟨env, .empty, []⟩

/-- The scope in which the bindings of `env` win over those of `fallback`. -/
def layered (env fallback : Environment) : Scope := ⟨env, fallback, []⟩

/-- What a name is bound to, unless it is hidden. -/
def lookup (s : Scope) (name : Text) : Option Pattern :=
  if s.hidden.contains name then none else (s.env.get? name).or (s.fallback.get? name)

/-- The scope inside the expansion of a name. -/
def hide (s : Scope) (name : Text) : Scope := { s with hidden := name :: s.hidden }

/-- A bound on how deep expansions nest that come to an end. Every binding that is entered either
hides a further name or differs from those entered since the last name was hidden. -/
def depth (s : Scope) : Nat :=
  let names := s.env.size + s.fallback.size + 2
  2 * (names * names)

end Scope

theorem starName_injective {i j : Nat} (h : starName i = starName j) : i = j := by
  have h' : Text.ofNat i = Text.ofNat j := (List.cons.inj h).2
  simpa [Text.ofNat] using congrArg (Nat.ofDigitChars 10 · 0) h'

end LocalePaths
