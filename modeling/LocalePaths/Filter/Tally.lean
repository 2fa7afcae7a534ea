import LocalePaths.Event

/-!
# Tallies

A tally counts decisions by their actions, and the rules that were declared.
-/

namespace LocalePaths

/-- Counts of rules and decisions. -/
structure Tally where
  rulesAdded : Nat
  errors : Nat
  warnings : Nat
  ignored : Nat
  deriving DecidableEq, Inhabited

namespace Tally

def zero : Tally := ⟨0, 0, 0, 0⟩

def addRule (t : Tally) : Tally := { t with rulesAdded := t.rulesAdded + 1 }

/-- Counts a decision under its action. -/
def addDecision (t : Tally) : FilterAction → Tally
  | .error => { t with errors := t.errors + 1 }
  | .warning => { t with warnings := t.warnings + 1 }
  | .ignore => { t with ignored := t.ignored + 1 }

def total (t : Tally) : Nat := t.errors + t.warnings + t.ignored

/-- The share of decisions that call for a comparison; zero without decisions. -/
def comparedRatio (t : Tally) : Float :=
  if t.total = 0 then 0 else (t.errors + t.warnings).toFloat / t.total.toFloat

/-- The report about all decisions so far. -/
def summary (t : Tally) : Event := .filterSummary t.total t.errors t.warnings t.ignored

end Tally

end LocalePaths
