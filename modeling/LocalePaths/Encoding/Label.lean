import LocalePaths.Encoding.CodePages
import LocalePaths.Encoding.Utf16
import LocalePaths.Unicode.Basic

/-!
# Labels of encodings

The labels that name the encodings of byte paths.
-/

namespace LocalePaths.Encoding

/-- The encoding that stands for those that are not to be used any more. -/
def replacement : Encoding := ⟨"replacement", fun bs => if bs = [] then some [] else none, utf8.encode⟩

/-- The encodings with their labels. The multi-byte encodings of East Asian texts are not among them. -/
def labelled : List (Encoding × List String) :=
  [(utf8, ["unicode-1-1-utf-8", "unicode11utf8", "unicode20utf8", "utf-8", "utf8", "x-unicode20utf8"]),
    (singleByte .ibm866, ["866", "cp866", "csibm866", "ibm866"]),
    (singleByte .iso88592,
      ["csisolatin2", "iso-8859-2", "iso-ir-101", "iso8859-2", "iso88592", "iso_8859-2",
        "iso_8859-2:1987", "l2", "latin2"]),
    (singleByte .iso88593,
      ["csisolatin3", "iso-8859-3", "iso-ir-109", "iso8859-3", "iso88593", "iso_8859-3",
        "iso_8859-3:1988", "l3", "latin3"]),
    (singleByte .iso88594,
      ["csisolatin4", "iso-8859-4", "iso-ir-110", "iso8859-4", "iso88594", "iso_8859-4",
        "iso_8859-4:1988", "l4", "latin4"]),
    (singleByte .iso88595,
      ["csisolatincyrillic", "cyrillic", "iso-8859-5", "iso-ir-144", "iso8859-5", "iso88595",
        "iso_8859-5", "iso_8859-5:1988"]),
    (singleByte .iso88596,
      ["arabic", "asmo-708", "csiso88596e", "csiso88596i", "csisolatinarabic", "ecma-114", "iso-8859-6",
        "iso-8859-6-e", "iso-8859-6-i", "iso-ir-127", "iso8859-6", "iso88596", "iso_8859-6",
        "iso_8859-6:1987"]),
    (singleByte .iso88597,
      ["csisolatingreek", "ecma-118", "elot_928", "greek", "greek8", "iso-8859-7", "iso-ir-126",
        "iso8859-7", "iso88597", "iso_8859-7", "iso_8859-7:1987", "sun_eu_greek"]),
    (singleByte .iso88598,
      ["csiso88598e", "csisolatinhebrew", "hebrew", "iso-8859-8", "iso-8859-8-e", "iso-ir-138",
        "iso8859-8", "iso88598", "iso_8859-8", "iso_8859-8:1988", "visual"]),
    (singleByte .iso88598Logical, ["csiso88598i", "iso-8859-8-i", "logical"]),
    (singleByte .iso885910,
      ["csisolatin6", "iso-8859-10", "iso-ir-157", "iso8859-10", "iso885910", "l6", "latin6"]),
    (singleByte .iso885913, ["iso-8859-13", "iso8859-13", "iso885913"]),
    (singleByte .iso885914, ["iso-8859-14", "iso8859-14", "iso885914"]),
    (singleByte .iso885915,
      ["csisolatin9", "iso-8859-15", "iso8859-15", "iso885915", "iso_8859-15", "l9"]),
    (singleByte .iso885916, ["iso-8859-16"]),
    (singleByte .koi8r, ["cskoi8r", "koi", "koi8", "koi8-r", "koi8_r"]),
    (singleByte .koi8u, ["koi8-ru", "koi8-u"]),
    (singleByte .macintosh, ["csmacintosh", "mac", "macintosh", "x-mac-roman"]),
    (singleByte .windows874,
      ["dos-874", "iso-8859-11", "iso8859-11", "iso885911", "tis-620", "windows-874"]),
    (singleByte .windows1250, ["cp1250", "windows-1250", "x-cp1250"]),
    (singleByte .windows1251, ["cp1251", "windows-1251", "x-cp1251"]),
    (singleByte .windows1252,
      ["ansi_x3.4-1968", "ascii", "cp1252", "cp819", "csisolatin1", "ibm819", "iso-8859-1",
        "iso-ir-100", "iso8859-1", "iso88591", "iso_8859-1", "iso_8859-1:1987", "l1", "latin1", "us-ascii",
        "windows-1252", "x-cp1252"]),
    (singleByte .windows1253, ["cp1253", "windows-1253", "x-cp1253"]),
    (singleByte .windows1254,
      ["cp1254", "csisolatin5", "iso-8859-9", "iso-ir-148", "iso8859-9", "iso88599", "iso_8859-9",
        "iso_8859-9:1989", "l5", "latin5", "windows-1254", "x-cp1254"]),
    (singleByte .windows1255, ["cp1255", "windows-1255", "x-cp1255"]),
    (singleByte .windows1256, ["cp1256", "windows-1256", "x-cp1256"]),
    (singleByte .windows1257, ["cp1257", "windows-1257", "x-cp1257"]),
    (singleByte .windows1258, ["cp1258", "windows-1258", "x-cp1258"]),
    (singleByte .macCyrillic, ["x-mac-cyrillic", "x-mac-ukrainian"]),
    (singleByte .userDefined, ["x-user-defined"]),
    (utf16 false, ["unicodefffe", "utf-16be"]),
    (utf16 true,
      ["csunicode", "iso-10646-ucs-2", "ucs-2", "unicode", "unicodefeff", "utf-16", "utf-16le"]),
    (replacement,
      ["csiso2022kr", "hz-gb-2312", "iso-2022-cn", "iso-2022-cn-ext", "iso-2022-kr", "replacement"])]

/-- The encoding of a label. White space around the label and the case of ASCII letters do not
count. -/
def ofLabel? (label : Text) : Option Encoding :=
  let plain := (Unicode.trim label).map Char.toLower
  (labelled.find? fun e => e.2.any fun l => l.toList = plain).map (·.1)

end LocalePaths.Encoding
