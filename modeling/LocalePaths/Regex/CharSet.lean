import LocalePaths.Unicode.Basic

/-!
# Sets of characters

The character classes of regular expressions: ranges, properties of characters, and the operations on
sets. Membership is decidable (`CharSet.has`).
-/

namespace LocalePaths

/-- A set of characters. -/
inductive CharSet where
  | range (lo hi : Char)
  | property (p : Unicode.Property)
  | union (s t : CharSet)
  | inter (s t : CharSet)
  | compl (s : CharSet)
  | anyCase (s : CharSet)
  deriving DecidableEq, Inhabited

namespace CharSet

/-- Whether a character is in the set. -/
def has : CharSet → Char → Bool
  | range lo hi, c => lo ≤ c && c ≤ hi
  | property p, c => p.has c
  | union s t, c => s.has c || t.has c
  | inter s t, c => s.has c && t.has c
  | compl s, c => !s.has c
  | anyCase s, c => (Unicode.caseVariants c).any fun d => s.has d

def only (c : Char) : CharSet := range c c

def none : CharSet := range '\x01' '\x00'

def all : CharSet := compl none

/-- All characters but the end of a line. -/
def dot : CharSet := compl (only '\n')

/-- All characters but the separator of paths. -/
def notSlash : CharSet := compl (only '/')

def diff (s t : CharSet) : CharSet := inter s (compl t)

/-- The characters that are in one of two sets only. -/
def symmDiff (s t : CharSet) : CharSet := union (diff s t) (diff t s)

def ofList : List CharSet → CharSet
  | [] => none
  | [s] => s
  | s :: ss => union s (ofList ss)

/-- The characters that have one of the properties. -/
def having (ps : List Unicode.Property) : CharSet := ofList (ps.map property)

@[simp] theorem has_only (c d : Char) : (only c).has d = decide (d = c) := by
  rw [only, has, Bool.eq_iff_iff]
  simp only [Bool.and_eq_true, decide_eq_true_eq]
  exact ⟨fun h => Char.le_antisymm h.2 h.1, fun h => h ▸ ⟨Char.le_refl _, Char.le_refl _⟩⟩

@[simp] theorem has_dot (c : Char) : dot.has c = !decide (c = '\n') := by
  rw [dot, has, has_only]

@[simp] theorem has_notSlash (c : Char) : notSlash.has c = !decide (c = '/') := by
  rw [notSlash, has, has_only]

end CharSet

end LocalePaths
