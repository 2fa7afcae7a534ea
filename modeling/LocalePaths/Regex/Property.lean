import LocalePaths.Regex.CharSet
import LocalePaths.Unicode.Script

/-!
# Properties by their names

The sets of characters that regular expressions name: general categories, scripts, and a few properties
that are true or false of a character. Script extensions, the ages of characters and the classes of text
segmentation are not among them.
-/

namespace LocalePaths.Regex

/-- Sets of characters with the names they go by. -/
abbrev NamedSets := List (List String × CharSet)

namespace NamedSets

/-- The set of a name. -/
def find? (sets : NamedSets) (name : Text) : Option CharSet :=
  (List.find? (fun s => s.1.any (·.toList = name)) sets).map (·.2)

/-- Properties under their own names. -/
def of (ps : List Unicode.Property) : NamedSets := ps.map fun p => (p.names, .property p)

end NamedSets

open Unicode in
/-- The general categories and the groups of them. -/
def categorySets : NamedSets :=
  [(["any"], .all),
    (["ascii"], .range '\x00' '\x7f'),
    (["assigned"], .having categories),
    (["cn", "unassigned"], .compl (.having categories)),
    (["c", "other"], .compl (.having visible)),
    (["l", "letter"], .having letters),
    (["lc", "casedletter"], .having [uppercaseLetter, lowercaseLetter, titlecaseLetter]),
    (["m", "mark", "combiningmark"], .having marks),
    (["n", "number"], .having numbers),
    (["p", "punctuation", "punct"], .having punctuation),
    (["s", "symbol"], .having symbols),
    (["z", "separator"], .having separators)] ++
  NamedSets.of categories

open Unicode in
/-- Properties that are true or false of a character. -/
def binarySets : NamedSets :=
  [(["alphabetic", "alpha"], .having alphabetic),
    (["lowercase", "lower"], .having [lowercaseLetter, otherLowercase]),
    (["uppercase", "upper"], .having [uppercaseLetter, otherUppercase])] ++
  NamedSets.of [whiteSpace, hexDigit, asciiHexDigit, ideographic, joinControl, otherLowercase, otherUppercase,
    otherAlphabetic]

/-- Scripts under their own names. -/
def scriptSets : NamedSets := .of Unicode.scripts

/-- A name as it is compared: case, spaces, hyphens, underscores and a leading "is" do not count, nor do
characters beyond ASCII. -/
def plainName (name : Text) : Text :=
  let isPrefixed := (name.take 2).map Char.toLower = ['i', 's']
  let short := (if isPrefixed then name.drop 2 else name).filter fun c =>
    c.toNat < 0x80 && c ≠ ' ' && c ≠ '-' && c ≠ '_'
  let plain := short.map Char.toLower
  if isPrefixed && plain = ['c'] then ['i', 's', 'c'] else plain

/-- A name, or the name of a kind of property and the name of one of that kind; the kind ends with an
exclamation mark if the characters without the property are meant. -/
def property? (name : Text) : Option CharSet :=
  match (name.cut? '=').or (name.cut? ':') with
  | some (kind, value) =>
    let negated := kind.getLast? = some '!'
    let sets := match String.ofList (plainName (if negated then kind.dropLast else kind)) with
      | "gc" | "generalcategory" => categorySets
      | "sc" | "script" => scriptSets
      | _ => []
    (sets.find? (plainName value)).map fun set => if negated then .compl set else set
  | none => (binarySets ++ categorySets ++ scriptSets).find? (plainName name)

end LocalePaths.Regex
