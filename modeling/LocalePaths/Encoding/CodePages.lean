import LocalePaths.Encoding.SingleByte

/-!
# Code pages

The single-byte encodings of the WHATWG Encoding Standard. In those that leave out bytes below 0xa0 these bytes
are the control characters of their values; other bytes that are left out stand for no character.
-/

namespace LocalePaths.CodePage

/-- Cyrillic, as under DOS. -/
def ibm866 : CodePage where
  name := "IBM866"
  runs := [(0x410, 48), (0x2591, 3), (0x2502, 1), (0x2524, 1), (0x2561, 2), (0x2556, 1), (0x2555, 1), (0x2563, 1),
    (0x2551, 1), (0x2557, 1), (0x255d, 1), (0x255c, 1), (0x255b, 1), (0x2510, 1), (0x2514, 1), (0x2534, 1),
    (0x252c, 1), (0x251c, 1), (0x2500, 1), (0x253c, 1), (0x255e, 2), (0x255a, 1), (0x2554, 1), (0x2569, 1),
    (0x2566, 1), (0x2560, 1), (0x2550, 1), (0x256c, 1), (0x2567, 2), (0x2564, 2), (0x2559, 1), (0x2558, 1),
    (0x2552, 2), (0x256b, 1), (0x256a, 1), (0x2518, 1), (0x250c, 1), (0x2588, 1), (0x2584, 1), (0x258c, 1),
    (0x2590, 1), (0x2580, 1), (0x440, 16), (0x401, 1), (0x451, 1), (0x404, 1), (0x454, 1), (0x407, 1),
    (0x457, 1), (0x40e, 1), (0x45e, 1), (0xb0, 1), (0x2219, 1), (0xb7, 1), (0x221a, 1), (0x2116, 1),
    (0xa4, 1), (0x25a0, 1), (0xa0, 1)]

/-- Latin 2, for central Europe. -/
def iso88592 : CodePage where
  name := "ISO-8859-2"
  runs := [(0x80, 33), (0x104, 1), (0x2d8, 1), (0x141, 1), (0xa4, 1), (0x13d, 1), (0x15a, 1), (0xa7, 2),
    (0x160, 1), (0x15e, 1), (0x164, 1), (0x179, 1), (0xad, 1), (0x17d, 1), (0x17b, 1), (0xb0, 1),
    (0x105, 1), (0x2db, 1), (0x142, 1), (0xb4, 1), (0x13e, 1), (0x15b, 1), (0x2c7, 1), (0xb8, 1),
    (0x161, 1), (0x15f, 1), (0x165, 1), (0x17a, 1), (0x2dd, 1), (0x17e, 1), (0x17c, 1), (0x154, 1),
    (0xc1, 2), (0x102, 1), (0xc4, 1), (0x139, 1), (0x106, 1), (0xc7, 1), (0x10c, 1), (0xc9, 1), (0x118, 1),
    (0xcb, 1), (0x11a, 1), (0xcd, 2), (0x10e, 1), (0x110, 1), (0x143, 1), (0x147, 1), (0xd3, 2),
    (0x150, 1), (0xd6, 2), (0x158, 1), (0x16e, 1), (0xda, 1), (0x170, 1), (0xdc, 2), (0x162, 1), (0xdf, 1),
    (0x155, 1), (0xe1, 2), (0x103, 1), (0xe4, 1), (0x13a, 1), (0x107, 1), (0xe7, 1), (0x10d, 1), (0xe9, 1),
    (0x119, 1), (0xeb, 1), (0x11b, 1), (0xed, 2), (0x10f, 1), (0x111, 1), (0x144, 1), (0x148, 1),
    (0xf3, 2), (0x151, 1), (0xf6, 2), (0x159, 1), (0x16f, 1), (0xfa, 1), (0x171, 1), (0xfc, 2), (0x163, 1),
    (0x2d9, 1)]

/-- Latin 3, for southern Europe. -/
def iso88593 : CodePage where
  name := "ISO-8859-3"
  runs := [(0x80, 33), (0x126, 1), (0x2d8, 1), (0xa3, 2), (0, 1), (0x124, 1), (0xa7, 2), (0x130, 1), (0x15e, 1),
    (0x11e, 1), (0x134, 1), (0xad, 1), (0, 1), (0x17b, 1), (0xb0, 1), (0x127, 1), (0xb2, 4), (0x125, 1),
    (0xb7, 2), (0x131, 1), (0x15f, 1), (0x11f, 1), (0x135, 1), (0xbd, 1), (0, 1), (0x17c, 1), (0xc0, 3),
    (0, 1), (0xc4, 1), (0x10a, 1), (0x108, 1), (0xc7, 9), (0, 1), (0xd1, 4), (0x120, 1), (0xd6, 2),
    (0x11c, 1), (0xd9, 4), (0x16c, 1), (0x15c, 1), (0xdf, 4), (0, 1), (0xe4, 1), (0x10b, 1), (0x109, 1),
    (0xe7, 9), (0, 1), (0xf1, 4), (0x121, 1), (0xf6, 2), (0x11d, 1), (0xf9, 4), (0x16d, 1), (0x15d, 1),
    (0x2d9, 1)]

/-- Latin 4, for northern Europe. -/
def iso88594 : CodePage where
  name := "ISO-8859-4"
  runs := [(0x80, 33), (0x104, 1), (0x138, 1), (0x156, 1), (0xa4, 1), (0x128, 1), (0x13b, 1), (0xa7, 2),
    (0x160, 1), (0x112, 1), (0x122, 1), (0x166, 1), (0xad, 1), (0x17d, 1), (0xaf, 2), (0x105, 1),
    (0x2db, 1), (0x157, 1), (0xb4, 1), (0x129, 1), (0x13c, 1), (0x2c7, 1), (0xb8, 1), (0x161, 1),
    (0x113, 1), (0x123, 1), (0x167, 1), (0x14a, 1), (0x17e, 1), (0x14b, 1), (0x100, 1), (0xc1, 6),
    (0x12e, 1), (0x10c, 1), (0xc9, 1), (0x118, 1), (0xcb, 1), (0x116, 1), (0xcd, 2), (0x12a, 1),
    (0x110, 1), (0x145, 1), (0x14c, 1), (0x136, 1), (0xd4, 5), (0x172, 1), (0xda, 3), (0x168, 1),
    (0x16a, 1), (0xdf, 1), (0x101, 1), (0xe1, 6), (0x12f, 1), (0x10d, 1), (0xe9, 1), (0x119, 1), (0xeb, 1),
    (0x117, 1), (0xed, 2), (0x12b, 1), (0x111, 1), (0x146, 1), (0x14d, 1), (0x137, 1), (0xf4, 5),
    (0x173, 1), (0xfa, 3), (0x169, 1), (0x16b, 1), (0x2d9, 1)]

/-- Latin and Cyrillic. -/
def iso88595 : CodePage where
  name := "ISO-8859-5"
  runs := [(0x80, 33), (0x401, 12), (0xad, 1), (0x40e, 66), (0x2116, 1), (0x451, 12), (0xa7, 1), (0x45e, 2)]

/-- Latin and Arabic. -/
def iso88596 : CodePage where
  name := "ISO-8859-6"
  runs := [(0x80, 33), (0, 3), (0xa4, 1), (0, 7), (0x60c, 1), (0xad, 1), (0, 13), (0x61b, 1), (0, 3), (0x61f, 1),
    (0, 1), (0x621, 26), (0, 5), (0x640, 19), (0, 13)]

/-- Latin and Greek. -/
def iso88597 : CodePage where
  name := "ISO-8859-7"
  runs := [(0x80, 33), (0x2018, 2), (0xa3, 1), (0x20ac, 1), (0x20af, 1), (0xa6, 4), (0x37a, 1), (0xab, 3), (0, 1),
    (0x2015, 1), (0xb0, 4), (0x384, 3), (0xb7, 1), (0x388, 3), (0xbb, 1), (0x38c, 1), (0xbd, 1),
    (0x38e, 20), (0, 1), (0x3a3, 44), (0, 1)]

/-- Latin and Hebrew. -/
def iso88598 : CodePage where
  name := "ISO-8859-8"
  runs := [(0x80, 33), (0, 1), (0xa2, 8), (0xd7, 1), (0xab, 15), (0xf7, 1), (0xbb, 4), (0, 32), (0x2017, 1),
    (0x5d0, 27), (0, 2), (0x200e, 2), (0, 1)]

/-- Latin 6, for the north of Europe. -/
def iso885910 : CodePage where
  name := "ISO-8859-10"
  runs := [(0x80, 33), (0x104, 1), (0x112, 1), (0x122, 1), (0x12a, 1), (0x128, 1), (0x136, 1), (0xa7, 1),
    (0x13b, 1), (0x110, 1), (0x160, 1), (0x166, 1), (0x17d, 1), (0xad, 1), (0x16a, 1), (0x14a, 1),
    (0xb0, 1), (0x105, 1), (0x113, 1), (0x123, 1), (0x12b, 1), (0x129, 1), (0x137, 1), (0xb7, 1),
    (0x13c, 1), (0x111, 1), (0x161, 1), (0x167, 1), (0x17e, 1), (0x2015, 1), (0x16b, 1), (0x14b, 1),
    (0x100, 1), (0xc1, 6), (0x12e, 1), (0x10c, 1), (0xc9, 1), (0x118, 1), (0xcb, 1), (0x116, 1), (0xcd, 4),
    (0x145, 1), (0x14c, 1), (0xd3, 4), (0x168, 1), (0xd8, 1), (0x172, 1), (0xda, 6), (0x101, 1), (0xe1, 6),
    (0x12f, 1), (0x10d, 1), (0xe9, 1), (0x119, 1), (0xeb, 1), (0x117, 1), (0xed, 4), (0x146, 1),
    (0x14d, 1), (0xf3, 4), (0x169, 1), (0xf8, 1), (0x173, 1), (0xfa, 5), (0x138, 1)]

/-- Latin 7, for the Baltic languages. -/
def iso885913 : CodePage where
  name := "ISO-8859-13"
  runs := [(0x80, 33), (0x201d, 1), (0xa2, 3), (0x201e, 1), (0xa6, 2), (0xd8, 1), (0xa9, 1), (0x156, 1),
    (0xab, 4), (0xc6, 1), (0xb0, 4), (0x201c, 1), (0xb5, 3), (0xf8, 1), (0xb9, 1), (0x157, 1), (0xbb, 4),
    (0xe6, 1), (0x104, 1), (0x12e, 1), (0x100, 1), (0x106, 1), (0xc4, 2), (0x118, 1), (0x112, 1),
    (0x10c, 1), (0xc9, 1), (0x179, 1), (0x116, 1), (0x122, 1), (0x136, 1), (0x12a, 1), (0x13b, 1),
    (0x160, 1), (0x143, 1), (0x145, 1), (0xd3, 1), (0x14c, 1), (0xd5, 3), (0x172, 1), (0x141, 1),
    (0x15a, 1), (0x16a, 1), (0xdc, 1), (0x17b, 1), (0x17d, 1), (0xdf, 1), (0x105, 1), (0x12f, 1),
    (0x101, 1), (0x107, 1), (0xe4, 2), (0x119, 1), (0x113, 1), (0x10d, 1), (0xe9, 1), (0x17a, 1),
    (0x117, 1), (0x123, 1), (0x137, 1), (0x12b, 1), (0x13c, 1), (0x161, 1), (0x144, 1), (0x146, 1),
    (0xf3, 1), (0x14d, 1), (0xf5, 3), (0x173, 1), (0x142, 1), (0x15b, 1), (0x16b, 1), (0xfc, 1),
    (0x17c, 1), (0x17e, 1), (0x2019, 1)]

/-- Latin 8, for the Celtic languages. -/
def iso885914 : CodePage where
  name := "ISO-8859-14"
  runs := [(0x80, 33), (0x1e02, 2), (0xa3, 1), (0x10a, 2), (0x1e0a, 1), (0xa7, 1), (0x1e80, 1), (0xa9, 1),
    (0x1e82, 1), (0x1e0b, 1), (0x1ef2, 1), (0xad, 2), (0x178, 1), (0x1e1e, 2), (0x120, 2), (0x1e40, 2),
    (0xb6, 1), (0x1e56, 1), (0x1e81, 1), (0x1e57, 1), (0x1e83, 1), (0x1e60, 1), (0x1ef3, 1), (0x1e84, 2),
    (0x1e61, 1), (0xc0, 16), (0x174, 1), (0xd1, 6), (0x1e6a, 1), (0xd8, 6), (0x176, 1), (0xdf, 17),
    (0x175, 1), (0xf1, 6), (0x1e6b, 1), (0xf8, 6), (0x177, 1), (0xff, 1)]

/-- Latin 9, for western Europe, with the euro sign. -/
def iso885915 : CodePage where
  name := "ISO-8859-15"
  runs := [(0x80, 36), (0x20ac, 1), (0xa5, 1), (0x160, 1), (0xa7, 1), (0x161, 1), (0xa9, 11), (0x17d, 1),
    (0xb5, 3), (0x17e, 1), (0xb9, 3), (0x152, 2), (0x178, 1), (0xbf, 65)]

/-- Latin 10, for south-eastern Europe. -/
def iso885916 : CodePage where
  name := "ISO-8859-16"
  runs := [(0x80, 33), (0x104, 2), (0x141, 1), (0x20ac, 1), (0x201e, 1), (0x160, 1), (0xa7, 1), (0x161, 1),
    (0xa9, 1), (0x218, 1), (0xab, 1), (0x179, 1), (0xad, 1), (0x17a, 2), (0xb0, 2), (0x10c, 1), (0x142, 1),
    (0x17d, 1), (0x201d, 1), (0xb6, 2), (0x17e, 1), (0x10d, 1), (0x219, 1), (0xbb, 1), (0x152, 2),
    (0x178, 1), (0x17c, 1), (0xc0, 3), (0x102, 1), (0xc4, 1), (0x106, 1), (0xc6, 10), (0x110, 1),
    (0x143, 1), (0xd2, 3), (0x150, 1), (0xd6, 1), (0x15a, 1), (0x170, 1), (0xd9, 4), (0x118, 1),
    (0x21a, 1), (0xdf, 4), (0x103, 1), (0xe4, 1), (0x107, 1), (0xe6, 10), (0x111, 1), (0x144, 1),
    (0xf2, 3), (0x151, 1), (0xf6, 1), (0x15b, 1), (0x171, 1), (0xf9, 4), (0x119, 1), (0x21b, 1), (0xff, 1)]

/-- Cyrillic, for Russian. -/
def koi8r : CodePage where
  name := "KOI8-R"
  runs := [(0x2500, 1), (0x2502, 1), (0x250c, 1), (0x2510, 1), (0x2514, 1), (0x2518, 1), (0x251c, 1), (0x2524, 1),
    (0x252c, 1), (0x2534, 1), (0x253c, 1), (0x2580, 1), (0x2584, 1), (0x2588, 1), (0x258c, 1), (0x2590, 4),
    (0x2320, 1), (0x25a0, 1), (0x2219, 2), (0x2248, 1), (0x2264, 2), (0xa0, 1), (0x2321, 1), (0xb0, 1),
    (0xb2, 1), (0xb7, 1), (0xf7, 1), (0x2550, 3), (0x451, 1), (0x2553, 15), (0x401, 1), (0x2562, 11),
    (0xa9, 1), (0x44e, 1), (0x430, 2), (0x446, 1), (0x434, 2), (0x444, 1), (0x433, 1), (0x445, 1),
    (0x438, 8), (0x44f, 1), (0x440, 4), (0x436, 1), (0x432, 1), (0x44c, 1), (0x44b, 1), (0x437, 1),
    (0x448, 1), (0x44d, 1), (0x449, 1), (0x447, 1), (0x44a, 1), (0x42e, 1), (0x410, 2), (0x426, 1),
    (0x414, 2), (0x424, 1), (0x413, 1), (0x425, 1), (0x418, 8), (0x42f, 1), (0x420, 4), (0x416, 1),
    (0x412, 1), (0x42c, 1), (0x42b, 1), (0x417, 1), (0x428, 1), (0x42d, 1), (0x429, 1), (0x427, 1),
    (0x42a, 1)]

/-- Cyrillic, for Ukrainian. -/
def koi8u : CodePage where
  name := "KOI8-U"
  runs := [(0x2500, 1), (0x2502, 1), (0x250c, 1), (0x2510, 1), (0x2514, 1), (0x2518, 1), (0x251c, 1), (0x2524, 1),
    (0x252c, 1), (0x2534, 1), (0x253c, 1), (0x2580, 1), (0x2584, 1), (0x2588, 1), (0x258c, 1), (0x2590, 4),
    (0x2320, 1), (0x25a0, 1), (0x2219, 2), (0x2248, 1), (0x2264, 2), (0xa0, 1), (0x2321, 1), (0xb0, 1),
    (0xb2, 1), (0xb7, 1), (0xf7, 1), (0x2550, 3), (0x451, 1), (0x454, 1), (0x2554, 1), (0x456, 2),
    (0x2557, 5), (0x491, 1), (0x45e, 1), (0x255e, 4), (0x401, 1), (0x404, 1), (0x2563, 1), (0x406, 2),
    (0x2566, 5), (0x490, 1), (0x40e, 1), (0xa9, 1), (0x44e, 1), (0x430, 2), (0x446, 1), (0x434, 2),
    (0x444, 1), (0x433, 1), (0x445, 1), (0x438, 8), (0x44f, 1), (0x440, 4), (0x436, 1), (0x432, 1),
    (0x44c, 1), (0x44b, 1), (0x437, 1), (0x448, 1), (0x44d, 1), (0x449, 1), (0x447, 1), (0x44a, 1),
    (0x42e, 1), (0x410, 2), (0x426, 1), (0x414, 2), (0x424, 1), (0x413, 1), (0x425, 1), (0x418, 8),
    (0x42f, 1), (0x420, 4), (0x416, 1), (0x412, 1), (0x42c, 1), (0x42b, 1), (0x417, 1), (0x428, 1),
    (0x42d, 1), (0x429, 1), (0x427, 1), (0x42a, 1)]

/-- Western Europe, as on the Macintosh. -/
def macintosh : CodePage where
  name := "macintosh"
  runs := [(0xc4, 2), (0xc7, 1), (0xc9, 1), (0xd1, 1), (0xd6, 1), (0xdc, 1), (0xe1, 1), (0xe0, 1), (0xe2, 1),
    (0xe4, 1), (0xe3, 1), (0xe5, 1), (0xe7, 1), (0xe9, 1), (0xe8, 1), (0xea, 2), (0xed, 1), (0xec, 1),
    (0xee, 2), (0xf1, 1), (0xf3, 1), (0xf2, 1), (0xf4, 1), (0xf6, 1), (0xf5, 1), (0xfa, 1), (0xf9, 1),
    (0xfb, 2), (0x2020, 1), (0xb0, 1), (0xa2, 2), (0xa7, 1), (0x2022, 1), (0xb6, 1), (0xdf, 1), (0xae, 1),
    (0xa9, 1), (0x2122, 1), (0xb4, 1), (0xa8, 1), (0x2260, 1), (0xc6, 1), (0xd8, 1), (0x221e, 1),
    (0xb1, 1), (0x2264, 2), (0xa5, 1), (0xb5, 1), (0x2202, 1), (0x2211, 1), (0x220f, 1), (0x3c0, 1),
    (0x222b, 1), (0xaa, 1), (0xba, 1), (0x3a9, 1), (0xe6, 1), (0xf8, 1), (0xbf, 1), (0xa1, 1), (0xac, 1),
    (0x221a, 1), (0x192, 1), (0x2248, 1), (0x2206, 1), (0xab, 1), (0xbb, 1), (0x2026, 1), (0xa0, 1),
    (0xc0, 1), (0xc3, 1), (0xd5, 1), (0x152, 2), (0x2013, 2), (0x201c, 2), (0x2018, 2), (0xf7, 1),
    (0x25ca, 1), (0xff, 1), (0x178, 1), (0x2044, 1), (0x20ac, 1), (0x2039, 2), (0xfb01, 2), (0x2021, 1),
    (0xb7, 1), (0x201a, 1), (0x201e, 1), (0x2030, 1), (0xc2, 1), (0xca, 1), (0xc1, 1), (0xcb, 1),
    (0xc8, 1), (0xcd, 3), (0xcc, 1), (0xd3, 2), (0xf8ff, 1), (0xd2, 1), (0xda, 2), (0xd9, 1), (0x131, 1),
    (0x2c6, 1), (0x2dc, 1), (0xaf, 1), (0x2d8, 3), (0xb8, 1), (0x2dd, 1), (0x2db, 1), (0x2c7, 1)]

/-- Thai. -/
def windows874 : CodePage where
  name := "windows-874"
  runs := [(0x20ac, 1), (0x81, 4), (0x2026, 1), (0x86, 11), (0x2018, 2), (0x201c, 2), (0x2022, 1), (0x2013, 2),
    (0x98, 9), (0xe01, 58), (0, 4), (0xe3f, 29), (0, 4)]

/-- Central Europe. -/
def windows1250 : CodePage where
  name := "windows-1250"
  runs := [(0x20ac, 1), (0x81, 1), (0x201a, 1), (0x83, 1), (0x201e, 1), (0x2026, 1), (0x2020, 2), (0x88, 1),
    (0x2030, 1), (0x160, 1), (0x2039, 1), (0x15a, 1), (0x164, 1), (0x17d, 1), (0x179, 1), (0x90, 1),
    (0x2018, 2), (0x201c, 2), (0x2022, 1), (0x2013, 2), (0x98, 1), (0x2122, 1), (0x161, 1), (0x203a, 1),
    (0x15b, 1), (0x165, 1), (0x17e, 1), (0x17a, 1), (0xa0, 1), (0x2c7, 1), (0x2d8, 1), (0x141, 1),
    (0xa4, 1), (0x104, 1), (0xa6, 4), (0x15e, 1), (0xab, 4), (0x17b, 1), (0xb0, 2), (0x2db, 1), (0x142, 1),
    (0xb4, 5), (0x105, 1), (0x15f, 1), (0xbb, 1), (0x13d, 1), (0x2dd, 1), (0x13e, 1), (0x17c, 1),
    (0x154, 1), (0xc1, 2), (0x102, 1), (0xc4, 1), (0x139, 1), (0x106, 1), (0xc7, 1), (0x10c, 1), (0xc9, 1),
    (0x118, 1), (0xcb, 1), (0x11a, 1), (0xcd, 2), (0x10e, 1), (0x110, 1), (0x143, 1), (0x147, 1),
    (0xd3, 2), (0x150, 1), (0xd6, 2), (0x158, 1), (0x16e, 1), (0xda, 1), (0x170, 1), (0xdc, 2), (0x162, 1),
    (0xdf, 1), (0x155, 1), (0xe1, 2), (0x103, 1), (0xe4, 1), (0x13a, 1), (0x107, 1), (0xe7, 1), (0x10d, 1),
    (0xe9, 1), (0x119, 1), (0xeb, 1), (0x11b, 1), (0xed, 2), (0x10f, 1), (0x111, 1), (0x144, 1),
    (0x148, 1), (0xf3, 2), (0x151, 1), (0xf6, 2), (0x159, 1), (0x16f, 1), (0xfa, 1), (0x171, 1), (0xfc, 2),
    (0x163, 1), (0x2d9, 1)]

/-- Cyrillic. -/
def windows1251 : CodePage where
  name := "windows-1251"
  runs := [(0x402, 2), (0x201a, 1), (0x453, 1), (0x201e, 1), (0x2026, 1), (0x2020, 2), (0x20ac, 1), (0x2030, 1),
    (0x409, 1), (0x2039, 1), (0x40a, 1), (0x40c, 1), (0x40b, 1), (0x40f, 1), (0x452, 1), (0x2018, 2),
    (0x201c, 2), (0x2022, 1), (0x2013, 2), (0x98, 1), (0x2122, 1), (0x459, 1), (0x203a, 1), (0x45a, 1),
    (0x45c, 1), (0x45b, 1), (0x45f, 1), (0xa0, 1), (0x40e, 1), (0x45e, 1), (0x408, 1), (0xa4, 1),
    (0x490, 1), (0xa6, 2), (0x401, 1), (0xa9, 1), (0x404, 1), (0xab, 4), (0x407, 1), (0xb0, 2), (0x406, 1),
    (0x456, 1), (0x491, 1), (0xb5, 3), (0x451, 1), (0x2116, 1), (0x454, 1), (0xbb, 1), (0x458, 1),
    (0x405, 1), (0x455, 1), (0x457, 1), (0x410, 64)]

/-- Western Europe. -/
def windows1252 : CodePage where
  name := "windows-1252"
  runs := [(0x20ac, 1), (0x81, 1), (0x201a, 1), (0x192, 1), (0x201e, 1), (0x2026, 1), (0x2020, 2), (0x2c6, 1),
    (0x2030, 1), (0x160, 1), (0x2039, 1), (0x152, 1), (0x8d, 1), (0x17d, 1), (0x8f, 2), (0x2018, 2),
    (0x201c, 2), (0x2022, 1), (0x2013, 2), (0x2dc, 1), (0x2122, 1), (0x161, 1), (0x203a, 1), (0x153, 1),
    (0x9d, 1), (0x17e, 1), (0x178, 1), (0xa0, 96)]

/-- Greek. -/
def windows1253 : CodePage where
  name := "windows-1253"
  runs := [(0x20ac, 1), (0x81, 1), (0x201a, 1), (0x192, 1), (0x201e, 1), (0x2026, 1), (0x2020, 2), (0x88, 1),
    (0x2030, 1), (0x8a, 1), (0x2039, 1), (0x8c, 5), (0x2018, 2), (0x201c, 2), (0x2022, 1), (0x2013, 2),
    (0x98, 1), (0x2122, 1), (0x9a, 1), (0x203a, 1), (0x9c, 5), (0x385, 2), (0xa3, 7), (0, 1), (0xab, 4),
    (0x2015, 1), (0xb0, 4), (0x384, 1), (0xb5, 3), (0x388, 3), (0xbb, 1), (0x38c, 1), (0xbd, 1),
    (0x38e, 20), (0, 1), (0x3a3, 44), (0, 1)]

/-- Turkish. -/
def windows1254 : CodePage where
  name := "windows-1254"
  runs := [(0x20ac, 1), (0x81, 1), (0x201a, 1), (0x192, 1), (0x201e, 1), (0x2026, 1), (0x2020, 2), (0x2c6, 1),
    (0x2030, 1), (0x160, 1), (0x2039, 1), (0x152, 1), (0x8d, 4), (0x2018, 2), (0x201c, 2), (0x2022, 1),
    (0x2013, 2), (0x2dc, 1), (0x2122, 1), (0x161, 1), (0x203a, 1), (0x153, 1), (0x9d, 2), (0x178, 1),
    (0xa0, 48), (0x11e, 1), (0xd1, 12), (0x130, 1), (0x15e, 1), (0xdf, 17), (0x11f, 1), (0xf1, 12),
    (0x131, 1), (0x15f, 1), (0xff, 1)]

/-- Hebrew. -/
def windows1255 : CodePage where
  name := "windows-1255"
  runs := [(0x20ac, 1), (0x81, 1), (0x201a, 1), (0x192, 1), (0x201e, 1), (0x2026, 1), (0x2020, 2), (0x2c6, 1),
    (0x2030, 1), (0x8a, 1), (0x2039, 1), (0x8c, 5), (0x2018, 2), (0x201c, 2), (0x2022, 1), (0x2013, 2),
    (0x2dc, 1), (0x2122, 1), (0x9a, 1), (0x203a, 1), (0x9c, 8), (0x20aa, 1), (0xa5, 5), (0xd7, 1),
    (0xab, 15), (0xf7, 1), (0xbb, 5), (0x5b0, 20), (0x5f0, 5), (0, 7), (0x5d0, 27), (0, 2), (0x200e, 2),
    (0, 1)]

/-- Arabic. -/
def windows1256 : CodePage where
  name := "windows-1256"
  runs := [(0x20ac, 1), (0x67e, 1), (0x201a, 1), (0x192, 1), (0x201e, 1), (0x2026, 1), (0x2020, 2), (0x2c6, 1),
    (0x2030, 1), (0x679, 1), (0x2039, 1), (0x152, 1), (0x686, 1), (0x698, 1), (0x688, 1), (0x6af, 1),
    (0x2018, 2), (0x201c, 2), (0x2022, 1), (0x2013, 2), (0x6a9, 1), (0x2122, 1), (0x691, 1), (0x203a, 1),
    (0x153, 1), (0x200c, 2), (0x6ba, 1), (0xa0, 1), (0x60c, 1), (0xa2, 8), (0x6be, 1), (0xab, 15),
    (0x61b, 1), (0xbb, 4), (0x61f, 1), (0x6c1, 1), (0x621, 22), (0xd7, 1), (0x637, 4), (0x640, 4),
    (0xe0, 1), (0x644, 1), (0xe2, 1), (0x645, 4), (0xe7, 5), (0x649, 2), (0xee, 2), (0x64b, 4), (0xf4, 1),
    (0x64f, 2), (0xf7, 1), (0x651, 1), (0xf9, 1), (0x652, 1), (0xfb, 2), (0x200e, 2), (0x6d2, 1)]

/-- The Baltic languages. -/
def windows1257 : CodePage where
  name := "windows-1257"
  runs := [(0x20ac, 1), (0x81, 1), (0x201a, 1), (0x83, 1), (0x201e, 1), (0x2026, 1), (0x2020, 2), (0x88, 1),
    (0x2030, 1), (0x8a, 1), (0x2039, 1), (0x8c, 1), (0xa8, 1), (0x2c7, 1), (0xb8, 1), (0x90, 1),
    (0x2018, 2), (0x201c, 2), (0x2022, 1), (0x2013, 2), (0x98, 1), (0x2122, 1), (0x9a, 1), (0x203a, 1),
    (0x9c, 1), (0xaf, 1), (0x2db, 1), (0x9f, 2), (0, 1), (0xa2, 3), (0, 1), (0xa6, 2), (0xd8, 1),
    (0xa9, 1), (0x156, 1), (0xab, 4), (0xc6, 1), (0xb0, 8), (0xf8, 1), (0xb9, 1), (0x157, 1), (0xbb, 4),
    (0xe6, 1), (0x104, 1), (0x12e, 1), (0x100, 1), (0x106, 1), (0xc4, 2), (0x118, 1), (0x112, 1),
    (0x10c, 1), (0xc9, 1), (0x179, 1), (0x116, 1), (0x122, 1), (0x136, 1), (0x12a, 1), (0x13b, 1),
    (0x160, 1), (0x143, 1), (0x145, 1), (0xd3, 1), (0x14c, 1), (0xd5, 3), (0x172, 1), (0x141, 1),
    (0x15a, 1), (0x16a, 1), (0xdc, 1), (0x17b, 1), (0x17d, 1), (0xdf, 1), (0x105, 1), (0x12f, 1),
    (0x101, 1), (0x107, 1), (0xe4, 2), (0x119, 1), (0x113, 1), (0x10d, 1), (0xe9, 1), (0x17a, 1),
    (0x117, 1), (0x123, 1), (0x137, 1), (0x12b, 1), (0x13c, 1), (0x161, 1), (0x144, 1), (0x146, 1),
    (0xf3, 1), (0x14d, 1), (0xf5, 3), (0x173, 1), (0x142, 1), (0x15b, 1), (0x16b, 1), (0xfc, 1),
    (0x17c, 1), (0x17e, 1), (0x2d9, 1)]

/-- Vietnamese. -/
def windows1258 : CodePage where
  name := "windows-1258"
  runs := [(0x20ac, 1), (0x81, 1), (0x201a, 1), (0x192, 1), (0x201e, 1), (0x2026, 1), (0x2020, 2), (0x2c6, 1),
    (0x2030, 1), (0x8a, 1), (0x2039, 1), (0x152, 1), (0x8d, 4), (0x2018, 2), (0x201c, 2), (0x2022, 1),
    (0x2013, 2), (0x2dc, 1), (0x2122, 1), (0x9a, 1), (0x203a, 1), (0x153, 1), (0x9d, 2), (0x178, 1),
    (0xa0, 35), (0x102, 1), (0xc4, 8), (0x300, 1), (0xcd, 3), (0x110, 1), (0xd1, 1), (0x309, 1), (0xd3, 2),
    (0x1a0, 1), (0xd6, 7), (0x1af, 1), (0x303, 1), (0xdf, 4), (0x103, 1), (0xe4, 8), (0x301, 1), (0xed, 3),
    (0x111, 1), (0xf1, 1), (0x323, 1), (0xf3, 2), (0x1a1, 1), (0xf6, 7), (0x1b0, 1), (0x20ab, 1), (0xff, 1)]

/-- Cyrillic, as on the Macintosh. -/
def macCyrillic : CodePage where
  name := "x-mac-cyrillic"
  runs := [(0x410, 32), (0x2020, 1), (0xb0, 1), (0x490, 1), (0xa3, 1), (0xa7, 1), (0x2022, 1), (0xb6, 1),
    (0x406, 1), (0xae, 1), (0xa9, 1), (0x2122, 1), (0x402, 1), (0x452, 1), (0x2260, 1), (0x403, 1),
    (0x453, 1), (0x221e, 1), (0xb1, 1), (0x2264, 2), (0x456, 1), (0xb5, 1), (0x491, 1), (0x408, 1),
    (0x404, 1), (0x454, 1), (0x407, 1), (0x457, 1), (0x409, 1), (0x459, 1), (0x40a, 1), (0x45a, 1),
    (0x458, 1), (0x405, 1), (0xac, 1), (0x221a, 1), (0x192, 1), (0x2248, 1), (0x2206, 1), (0xab, 1),
    (0xbb, 1), (0x2026, 1), (0xa0, 1), (0x40b, 1), (0x45b, 1), (0x40c, 1), (0x45c, 1), (0x455, 1),
    (0x2013, 2), (0x201c, 2), (0x2018, 2), (0xf7, 1), (0x201e, 1), (0x40e, 1), (0x45e, 1), (0x40f, 1),
    (0x45f, 1), (0x2116, 1), (0x401, 1), (0x451, 1), (0x44f, 1), (0x430, 31), (0x20ac, 1)]

/-- Hebrew in logical order. The bytes are those of visual order. -/
def iso88598Logical : CodePage := { iso88598 with name := "ISO-8859-8-I" }

/-- The bytes from 0x80 on are in the private use area. -/
def userDefined : CodePage where
  name := "x-user-defined"
  runs := [(0xf780, 128)]

end LocalePaths.CodePage
