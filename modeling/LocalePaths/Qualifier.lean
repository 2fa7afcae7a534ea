import LocalePaths.Text

/-!
# Android resource qualifiers

Android names the directories of a locale by a qualifier that differs from the locale's BCP 47 tag:
three languages keep a withdrawn code, a region is written `-rRR`, and any other tag with several
subtags is written `b+` with `+` between them.
-/

namespace LocalePaths.Qualifier

/-- The languages whose qualifier is a withdrawn code: the standard code and the withdrawn one. -/
def withdrawn : List (Text × Text) :=
  [("he".toList, "iw".toList), ("id".toList, "in".toList), ("yi".toList, "ji".toList)]

/-- The code of a language in qualifiers. -/
def oldCode (language : Text) : Text :=
  match withdrawn.find? (·.1 = language) with
  | some e => e.2
  | none => language

/-- The code of a language in tags. -/
def newCode (code : Text) : Text :=
  match withdrawn.find? (·.2 = code) with
  | some e => e.1
  | none => code

/-- The subtag can be a language: two or three small letters. -/
def isLanguage (s : Text) : Bool :=
  (s.length = 2 || s.length = 3) && s.all fun c => 'a' ≤ c && c ≤ 'z'

/-- The subtag can be a region: two capital letters. -/
def isRegion (s : Text) : Bool := s.length = 2 && s.all fun c => 'A' ≤ c && c ≤ 'Z'

/-- Writes another separator. -/
def swap (a b : Char) (s : Text) : Text := s.map fun c => if c = a then b else c

/-- The qualifier of a tag. -/
def ofTag (tag : Text) : Text :=
  match Text.cut? '-' tag with
  | none => oldCode tag
  | some (language, rest) =>
    if isLanguage (oldCode language) && isRegion rest then oldCode language ++ '-' :: 'r' :: rest
    else 'b' :: '+' :: (oldCode language ++ '+' :: swap '-' '+' rest)

/-- The texts before and after the first `-r`. -/
def cutRegion? : Text → Option (Text × Text)
  | [] => none
  | c :: s =>
    match Text.after? ['-', 'r'] (c :: s) with
    | some rest => some ([], rest)
    | none => (cutRegion? s).map fun p => (c :: p.1, p.2)

/-- The tag of a qualifier, in which the language may still have its withdrawn code. -/
def spelledTag (qualifier : Text) : Text :=
  match Text.after? ['b', '+'] qualifier with
  | some subtags => swap '+' '-' subtags
  | none =>
    match cutRegion? qualifier with
    | some (language, region) => if isRegion region then language ++ '-' :: region else qualifier
    | none => qualifier

/-- The tag of a qualifier. -/
def toTag (qualifier : Text) : Text :=
  match Text.cut? '-' (spelledTag qualifier) with
  | none => newCode (spelledTag qualifier)
  | some (language, rest) => newCode language ++ '-' :: rest

end LocalePaths.Qualifier
