import LocalePaths.Unicode.Property

/-!
# Scripts

The scripts of Unicode 16.0 with their names.
-/

namespace LocalePaths.Unicode

namespace Script

def adlam : Property where
  names := ["adlam", "adlm"]
  rows := [(0x1e900, 0x1e94b, 1), (0x1e950, 0x1e959, 1), (0x1e95e, 0x1e95f, 1)]

def ahom : Property where
  names := ["ahom"]
  rows := [(0x11700, 0x1171a, 1), (0x1171d, 0x1172b, 1), (0x11730, 0x11746, 1)]

def anatolianHieroglyphs : Property where
  names := ["anatolianhieroglyphs", "hluw"]
  rows := [(0x14400, 0x14646, 1)]

def arabic : Property where
  names := ["arabic", "arab"]
  rows :=
    [(0x600, 0x604, 1), (0x606, 0x60b, 1), (0x60d, 0x61a, 1), (0x61c, 0x61e, 1), (0x620, 0x63f, 1),
     (0x641, 0x64a, 1), (0x656, 0x66f, 1), (0x671, 0x6dc, 1), (0x6de, 0x6ff, 1), (0x750, 0x77f, 1),
     (0x870, 0x88e, 1), (0x890, 0x891, 1), (0x897, 0x8e1, 1), (0x8e3, 0x8ff, 1),
     (0xfb50, 0xfbc2, 1), (0xfbd3, 0xfd3d, 1), (0xfd40, 0xfd8f, 1), (0xfd92, 0xfdc7, 1),
     (0xfdcf, 0xfdcf, 1), (0xfdf0, 0xfdff, 1), (0xfe70, 0xfe74, 1), (0xfe76, 0xfefc, 1),
     (0x10e60, 0x10e7e, 1), (0x10ec2, 0x10ec4, 1), (0x10efc, 0x10eff, 1), (0x1ee00, 0x1ee03, 1),
     (0x1ee05, 0x1ee1f, 1), (0x1ee21, 0x1ee22, 1), (0x1ee24, 0x1ee24, 1), (0x1ee27, 0x1ee27, 1),
     (0x1ee29, 0x1ee32, 1), (0x1ee34, 0x1ee37, 1), (0x1ee39, 0x1ee3b, 2), (0x1ee42, 0x1ee42, 1),
     (0x1ee47, 0x1ee4b, 2), (0x1ee4d, 0x1ee4f, 1), (0x1ee51, 0x1ee52, 1), (0x1ee54, 0x1ee54, 1),
     (0x1ee57, 0x1ee5f, 2), (0x1ee61, 0x1ee62, 1), (0x1ee64, 0x1ee64, 1), (0x1ee67, 0x1ee6a, 1),
     (0x1ee6c, 0x1ee72, 1), (0x1ee74, 0x1ee77, 1), (0x1ee79, 0x1ee7c, 1), (0x1ee7e, 0x1ee7e, 1),
     (0x1ee80, 0x1ee89, 1), (0x1ee8b, 0x1ee9b, 1), (0x1eea1, 0x1eea3, 1), (0x1eea5, 0x1eea9, 1),
     (0x1eeab, 0x1eebb, 1), (0x1eef0, 0x1eef1, 1)]

def armenian : Property where
  names := ["armenian", "armn"]
  rows := [(0x531, 0x556, 1), (0x559, 0x58a, 1), (0x58d, 0x58f, 1), (0xfb13, 0xfb17, 1)]

def avestan : Property where
  names := ["avestan", "avst"]
  rows := [(0x10b00, 0x10b35, 1), (0x10b39, 0x10b3f, 1)]

def balinese : Property where
  names := ["balinese", "bali"]
  rows := [(0x1b00, 0x1b4c, 1), (0x1b4e, 0x1b7f, 1)]

def bamum : Property where
  names := ["bamum", "bamu"]
  rows := [(0xa6a0, 0xa6f7, 1), (0x16800, 0x16a38, 1)]

def bassaVah : Property where
  names := ["bassavah", "bass"]
  rows := [(0x16ad0, 0x16aed, 1), (0x16af0, 0x16af5, 1)]

def batak : Property where
  names := ["batak", "batk"]
  rows := [(0x1bc0, 0x1bf3, 1), (0x1bfc, 0x1bff, 1)]

def bengali : Property where
  names := ["bengali", "beng"]
  rows :=
    [(0x980, 0x983, 1), (0x985, 0x98c, 1), (0x98f, 0x990, 1), (0x993, 0x9a8, 1), (0x9aa, 0x9b0, 1),
     (0x9b2, 0x9b2, 1), (0x9b6, 0x9b9, 1), (0x9bc, 0x9c4, 1), (0x9c7, 0x9c8, 1), (0x9cb, 0x9ce, 1),
     (0x9d7, 0x9d7, 1), (0x9dc, 0x9dd, 1), (0x9df, 0x9e3, 1), (0x9e6, 0x9fe, 1)]

def bhaiksuki : Property where
  names := ["bhaiksuki", "bhks"]
  rows :=
    [(0x11c00, 0x11c08, 1), (0x11c0a, 0x11c36, 1), (0x11c38, 0x11c45, 1), (0x11c50, 0x11c6c, 1)]

def bopomofo : Property where
  names := ["bopomofo", "bopo"]
  rows := [(0x2ea, 0x2eb, 1), (0x3105, 0x312f, 1), (0x31a0, 0x31bf, 1)]

def brahmi : Property where
  names := ["brahmi", "brah"]
  rows := [(0x11000, 0x1104d, 1), (0x11052, 0x11075, 1), (0x1107f, 0x1107f, 1)]

def braille : Property where
  names := ["braille", "brai"]
  rows := [(0x2800, 0x28ff, 1)]

def buginese : Property where
  names := ["buginese", "bugi"]
  rows := [(0x1a00, 0x1a1b, 1), (0x1a1e, 0x1a1f, 1)]

def buhid : Property where
  names := ["buhid", "buhd"]
  rows := [(0x1740, 0x1753, 1)]

def canadianAboriginal : Property where
  names := ["canadianaboriginal", "cans"]
  rows := [(0x1400, 0x167f, 1), (0x18b0, 0x18f5, 1), (0x11ab0, 0x11abf, 1)]

def carian : Property where
  names := ["carian", "cari"]
  rows := [(0x102a0, 0x102d0, 1)]

def caucasianAlbanian : Property where
  names := ["caucasianalbanian", "aghb"]
  rows := [(0x10530, 0x10563, 1), (0x1056f, 0x1056f, 1)]

def chakma : Property where
  names := ["chakma", "cakm"]
  rows := [(0x11100, 0x11134, 1), (0x11136, 0x11147, 1)]

def cham : Property where
  names := ["cham"]
  rows := [(0xaa00, 0xaa36, 1), (0xaa40, 0xaa4d, 1), (0xaa50, 0xaa59, 1), (0xaa5c, 0xaa5f, 1)]

def cherokee : Property where
  names := ["cherokee", "cher"]
  rows := [(0x13a0, 0x13f5, 1), (0x13f8, 0x13fd, 1), (0xab70, 0xabbf, 1)]

def chorasmian : Property where
  names := ["chorasmian", "chrs"]
  rows := [(0x10fb0, 0x10fcb, 1)]

def common : Property where
  names := ["common", "zyyy"]
  rows :=
    [(0x0, 0x40, 1), (0x5b, 0x60, 1), (0x7b, 0xa9, 1), (0xab, 0xb9, 1), (0xbb, 0xbf, 1),
     (0xd7, 0xd7, 1), (0xf7, 0xf7, 1), (0x2b9, 0x2df, 1), (0x2e5, 0x2e9, 1), (0x2ec, 0x2ff, 1),
     (0x374, 0x374, 1), (0x37e, 0x37e, 1), (0x385, 0x387, 2), (0x605, 0x605, 1), (0x60c, 0x60c, 1),
     (0x61b, 0x61b, 1), (0x61f, 0x61f, 1), (0x640, 0x640, 1), (0x6dd, 0x6dd, 1), (0x8e2, 0x8e2, 1),
     (0x964, 0x965, 1), (0xe3f, 0xe3f, 1), (0xfd5, 0xfd8, 1), (0x10fb, 0x10fb, 1),
     (0x16eb, 0x16ed, 1), (0x1735, 0x1736, 1), (0x1802, 0x1803, 1), (0x1805, 0x1805, 1),
     (0x1cd3, 0x1cd3, 1), (0x1ce1, 0x1ce1, 1), (0x1ce9, 0x1cec, 1), (0x1cee, 0x1cf3, 1),
     (0x1cf5, 0x1cf7, 1), (0x1cfa, 0x1cfa, 1), (0x2000, 0x200b, 1), (0x200e, 0x2064, 1),
     (0x2066, 0x2070, 1), (0x2074, 0x207e, 1), (0x2080, 0x208e, 1), (0x20a0, 0x20c0, 1),
     (0x2100, 0x2125, 1), (0x2127, 0x2129, 1), (0x212c, 0x2131, 1), (0x2133, 0x214d, 1),
     (0x214f, 0x215f, 1), (0x2189, 0x218b, 1), (0x2190, 0x2429, 1), (0x2440, 0x244a, 1),
     (0x2460, 0x27ff, 1), (0x2900, 0x2b73, 1), (0x2b76, 0x2b95, 1), (0x2b97, 0x2bff, 1),
     (0x2e00, 0x2e5d, 1), (0x2ff0, 0x3004, 1), (0x3006, 0x3006, 1), (0x3008, 0x3020, 1),
     (0x3030, 0x3037, 1), (0x303c, 0x303f, 1), (0x309b, 0x309c, 1), (0x30a0, 0x30a0, 1),
     (0x30fb, 0x30fc, 1), (0x3190, 0x319f, 1), (0x31c0, 0x31e5, 1), (0x31ef, 0x31ef, 1),
     (0x3220, 0x325f, 1), (0x327f, 0x32cf, 1), (0x32ff, 0x32ff, 1), (0x3358, 0x33ff, 1),
     (0x4dc0, 0x4dff, 1), (0xa700, 0xa721, 1), (0xa788, 0xa78a, 1), (0xa830, 0xa839, 1),
     (0xa92e, 0xa92e, 1), (0xa9cf, 0xa9cf, 1), (0xab5b, 0xab5b, 1), (0xab6a, 0xab6b, 1),
     (0xfd3e, 0xfd3f, 1), (0xfe10, 0xfe19, 1), (0xfe30, 0xfe52, 1), (0xfe54, 0xfe66, 1),
     (0xfe68, 0xfe6b, 1), (0xfeff, 0xfeff, 1), (0xff01, 0xff20, 1), (0xff3b, 0xff40, 1),
     (0xff5b, 0xff65, 1), (0xff70, 0xff70, 1), (0xff9e, 0xff9f, 1), (0xffe0, 0xffe6, 1),
     (0xffe8, 0xffee, 1), (0xfff9, 0xfffd, 1), (0x10100, 0x10102, 1), (0x10107, 0x10133, 1),
     (0x10137, 0x1013f, 1), (0x10190, 0x1019c, 1), (0x101d0, 0x101fc, 1), (0x102e1, 0x102fb, 1),
     (0x1bca0, 0x1bca3, 1), (0x1cc00, 0x1ccf9, 1), (0x1cd00, 0x1ceb3, 1), (0x1cf50, 0x1cfc3, 1),
     (0x1d000, 0x1d0f5, 1), (0x1d100, 0x1d126, 1), (0x1d129, 0x1d166, 1), (0x1d16a, 0x1d17a, 1),
     (0x1d183, 0x1d184, 1), (0x1d18c, 0x1d1a9, 1), (0x1d1ae, 0x1d1ea, 1), (0x1d2c0, 0x1d2d3, 1),
     (0x1d2e0, 0x1d2f3, 1), (0x1d300, 0x1d356, 1), (0x1d360, 0x1d378, 1), (0x1d400, 0x1d454, 1),
     (0x1d456, 0x1d49c, 1), (0x1d49e, 0x1d49f, 1), (0x1d4a2, 0x1d4a2, 1), (0x1d4a5, 0x1d4a6, 1),
     (0x1d4a9, 0x1d4ac, 1), (0x1d4ae, 0x1d4b9, 1), (0x1d4bb, 0x1d4bb, 1), (0x1d4bd, 0x1d4c3, 1),
     (0x1d4c5, 0x1d505, 1), (0x1d507, 0x1d50a, 1), (0x1d50d, 0x1d514, 1), (0x1d516, 0x1d51c, 1),
     (0x1d51e, 0x1d539, 1), (0x1d53b, 0x1d53e, 1), (0x1d540, 0x1d544, 1), (0x1d546, 0x1d546, 1),
     (0x1d54a, 0x1d550, 1), (0x1d552, 0x1d6a5, 1), (0x1d6a8, 0x1d7cb, 1), (0x1d7ce, 0x1d7ff, 1),
     (0x1ec71, 0x1ecb4, 1), (0x1ed01, 0x1ed3d, 1), (0x1f000, 0x1f02b, 1), (0x1f030, 0x1f093, 1),
     (0x1f0a0, 0x1f0ae, 1), (0x1f0b1, 0x1f0bf, 1), (0x1f0c1, 0x1f0cf, 1), (0x1f0d1, 0x1f0f5, 1),
     (0x1f100, 0x1f1ad, 1), (0x1f1e6, 0x1f1ff, 1), (0x1f201, 0x1f202, 1), (0x1f210, 0x1f23b, 1),
     (0x1f240, 0x1f248, 1), (0x1f250, 0x1f251, 1), (0x1f260, 0x1f265, 1), (0x1f300, 0x1f6d7, 1),
     (0x1f6dc, 0x1f6ec, 1), (0x1f6f0, 0x1f6fc, 1), (0x1f700, 0x1f776, 1), (0x1f77b, 0x1f7d9, 1),
     (0x1f7e0, 0x1f7eb, 1), (0x1f7f0, 0x1f7f0, 1), (0x1f800, 0x1f80b, 1), (0x1f810, 0x1f847, 1),
     (0x1f850, 0x1f859, 1), (0x1f860, 0x1f887, 1), (0x1f890, 0x1f8ad, 1), (0x1f8b0, 0x1f8bb, 1),
     (0x1f8c0, 0x1f8c1, 1), (0x1f900, 0x1fa53, 1), (0x1fa60, 0x1fa6d, 1), (0x1fa70, 0x1fa7c, 1),
     (0x1fa80, 0x1fa89, 1), (0x1fa8f, 0x1fac6, 1), (0x1face, 0x1fadc, 1), (0x1fadf, 0x1fae9, 1),
     (0x1faf0, 0x1faf8, 1), (0x1fb00, 0x1fb92, 1), (0x1fb94, 0x1fbf9, 1), (0xe0001, 0xe0001, 1),
     (0xe0020, 0xe007f, 1)]

def coptic : Property where
  names := ["coptic", "copt", "qaac"]
  rows := [(0x3e2, 0x3ef, 1), (0x2c80, 0x2cf3, 1), (0x2cf9, 0x2cff, 1)]

def cuneiform : Property where
  names := ["cuneiform", "xsux"]
  rows :=
    [(0x12000, 0x12399, 1), (0x12400, 0x1246e, 1), (0x12470, 0x12474, 1), (0x12480, 0x12543, 1)]

def cypriot : Property where
  names := ["cypriot", "cprt"]
  rows :=
    [(0x10800, 0x10805, 1), (0x10808, 0x10808, 1), (0x1080a, 0x10835, 1), (0x10837, 0x10838, 1),
     (0x1083c, 0x1083c, 1), (0x1083f, 0x1083f, 1)]

def cyproMinoan : Property where
  names := ["cyprominoan", "cpmn"]
  rows := [(0x12f90, 0x12ff2, 1)]

def cyrillic : Property where
  names := ["cyrillic", "cyrl"]
  rows :=
    [(0x400, 0x484, 1), (0x487, 0x52f, 1), (0x1c80, 0x1c8a, 1), (0x1d2b, 0x1d2b, 1),
     (0x1d78, 0x1d78, 1), (0x2de0, 0x2dff, 1), (0xa640, 0xa69f, 1), (0xfe2e, 0xfe2f, 1),
     (0x1e030, 0x1e06d, 1), (0x1e08f, 0x1e08f, 1)]

def deseret : Property where
  names := ["deseret", "dsrt"]
  rows := [(0x10400, 0x1044f, 1)]

def devanagari : Property where
  names := ["devanagari", "deva"]
  rows :=
    [(0x900, 0x950, 1), (0x955, 0x963, 1), (0x966, 0x97f, 1), (0xa8e0, 0xa8ff, 1),
     (0x11b00, 0x11b09, 1)]

def divesAkuru : Property where
  names := ["divesakuru", "diak"]
  rows :=
    [(0x11900, 0x11906, 1), (0x11909, 0x11909, 1), (0x1190c, 0x11913, 1), (0x11915, 0x11916, 1),
     (0x11918, 0x11935, 1), (0x11937, 0x11938, 1), (0x1193b, 0x11946, 1), (0x11950, 0x11959, 1)]

def dogra : Property where
  names := ["dogra", "dogr"]
  rows := [(0x11800, 0x1183b, 1)]

def duployan : Property where
  names := ["duployan", "dupl"]
  rows :=
    [(0x1bc00, 0x1bc6a, 1), (0x1bc70, 0x1bc7c, 1), (0x1bc80, 0x1bc88, 1), (0x1bc90, 0x1bc99, 1),
     (0x1bc9c, 0x1bc9f, 1)]

def egyptianHieroglyphs : Property where
  names := ["egyptianhieroglyphs", "egyp"]
  rows := [(0x13000, 0x13455, 1), (0x13460, 0x143fa, 1)]

def elbasan : Property where
  names := ["elbasan", "elba"]
  rows := [(0x10500, 0x10527, 1)]

def elymaic : Property where
  names := ["elymaic", "elym"]
  rows := [(0x10fe0, 0x10ff6, 1)]

def ethiopic : Property where
  names := ["ethiopic", "ethi"]
  rows :=
    [(0x1200, 0x1248, 1), (0x124a, 0x124d, 1), (0x1250, 0x1256, 1), (0x1258, 0x1258, 1),
     (0x125a, 0x125d, 1), (0x1260, 0x1288, 1), (0x128a, 0x128d, 1), (0x1290, 0x12b0, 1),
     (0x12b2, 0x12b5, 1), (0x12b8, 0x12be, 1), (0x12c0, 0x12c0, 1), (0x12c2, 0x12c5, 1),
     (0x12c8, 0x12d6, 1), (0x12d8, 0x1310, 1), (0x1312, 0x1315, 1), (0x1318, 0x135a, 1),
     (0x135d, 0x137c, 1), (0x1380, 0x1399, 1), (0x2d80, 0x2d96, 1), (0x2da0, 0x2da6, 1),
     (0x2da8, 0x2dae, 1), (0x2db0, 0x2db6, 1), (0x2db8, 0x2dbe, 1), (0x2dc0, 0x2dc6, 1),
     (0x2dc8, 0x2dce, 1), (0x2dd0, 0x2dd6, 1), (0x2dd8, 0x2dde, 1), (0xab01, 0xab06, 1),
     (0xab09, 0xab0e, 1), (0xab11, 0xab16, 1), (0xab20, 0xab26, 1), (0xab28, 0xab2e, 1),
     (0x1e7e0, 0x1e7e6, 1), (0x1e7e8, 0x1e7eb, 1), (0x1e7ed, 0x1e7ee, 1), (0x1e7f0, 0x1e7fe, 1)]

def garay : Property where
  names := ["garay", "gara"]
  rows := [(0x10d40, 0x10d65, 1), (0x10d69, 0x10d85, 1), (0x10d8e, 0x10d8f, 1)]

def georgian : Property where
  names := ["georgian", "geor"]
  rows :=
    [(0x10a0, 0x10c5, 1), (0x10c7, 0x10c7, 1), (0x10cd, 0x10cd, 1), (0x10d0, 0x10fa, 1),
     (0x10fc, 0x10ff, 1), (0x1c90, 0x1cba, 1), (0x1cbd, 0x1cbf, 1), (0x2d00, 0x2d25, 1),
     (0x2d27, 0x2d27, 1), (0x2d2d, 0x2d2d, 1)]

def glagolitic : Property where
  names := ["glagolitic", "glag"]
  rows :=
    [(0x2c00, 0x2c5f, 1), (0x1e000, 0x1e006, 1), (0x1e008, 0x1e018, 1), (0x1e01b, 0x1e021, 1),
     (0x1e023, 0x1e024, 1), (0x1e026, 0x1e02a, 1)]

def gothic : Property where
  names := ["gothic", "goth"]
  rows := [(0x10330, 0x1034a, 1)]

def grantha : Property where
  names := ["grantha", "gran"]
  rows :=
    [(0x11300, 0x11303, 1), (0x11305, 0x1130c, 1), (0x1130f, 0x11310, 1), (0x11313, 0x11328, 1),
     (0x1132a, 0x11330, 1), (0x11332, 0x11333, 1), (0x11335, 0x11339, 1), (0x1133c, 0x11344, 1),
     (0x11347, 0x11348, 1), (0x1134b, 0x1134d, 1), (0x11350, 0x11350, 1), (0x11357, 0x11357, 1),
     (0x1135d, 0x11363, 1), (0x11366, 0x1136c, 1), (0x11370, 0x11374, 1)]

def greek : Property where
  names := ["greek", "grek"]
  rows :=
    [(0x370, 0x373, 1), (0x375, 0x377, 1), (0x37a, 0x37d, 1), (0x37f, 0x37f, 1), (0x384, 0x386, 2),
     (0x388, 0x38a, 1), (0x38c, 0x38c, 1), (0x38e, 0x3a1, 1), (0x3a3, 0x3e1, 1), (0x3f0, 0x3ff, 1),
     (0x1d26, 0x1d2a, 1), (0x1d5d, 0x1d61, 1), (0x1d66, 0x1d6a, 1), (0x1dbf, 0x1dbf, 1),
     (0x1f00, 0x1f15, 1), (0x1f18, 0x1f1d, 1), (0x1f20, 0x1f45, 1), (0x1f48, 0x1f4d, 1),
     (0x1f50, 0x1f57, 1), (0x1f59, 0x1f5d, 2), (0x1f5f, 0x1f7d, 1), (0x1f80, 0x1fb4, 1),
     (0x1fb6, 0x1fc4, 1), (0x1fc6, 0x1fd3, 1), (0x1fd6, 0x1fdb, 1), (0x1fdd, 0x1fef, 1),
     (0x1ff2, 0x1ff4, 1), (0x1ff6, 0x1ffe, 1), (0x2126, 0x2126, 1), (0xab65, 0xab65, 1),
     (0x10140, 0x1018e, 1), (0x101a0, 0x101a0, 1), (0x1d200, 0x1d245, 1)]

def gujarati : Property where
  names := ["gujarati", "gujr"]
  rows :=
    [(0xa81, 0xa83, 1), (0xa85, 0xa8d, 1), (0xa8f, 0xa91, 1), (0xa93, 0xaa8, 1), (0xaaa, 0xab0, 1),
     (0xab2, 0xab3, 1), (0xab5, 0xab9, 1), (0xabc, 0xac5, 1), (0xac7, 0xac9, 1), (0xacb, 0xacd, 1),
     (0xad0, 0xad0, 1), (0xae0, 0xae3, 1), (0xae6, 0xaf1, 1), (0xaf9, 0xaff, 1)]

def gunjalaGondi : Property where
  names := ["gunjalagondi", "gong"]
  rows :=
    [(0x11d60, 0x11d65, 1), (0x11d67, 0x11d68, 1), (0x11d6a, 0x11d8e, 1), (0x11d90, 0x11d91, 1),
     (0x11d93, 0x11d98, 1), (0x11da0, 0x11da9, 1)]

def gurmukhi : Property where
  names := ["gurmukhi", "guru"]
  rows :=
    [(0xa01, 0xa03, 1), (0xa05, 0xa0a, 1), (0xa0f, 0xa10, 1), (0xa13, 0xa28, 1), (0xa2a, 0xa30, 1),
     (0xa32, 0xa33, 1), (0xa35, 0xa36, 1), (0xa38, 0xa39, 1), (0xa3c, 0xa3c, 1), (0xa3e, 0xa42, 1),
     (0xa47, 0xa48, 1), (0xa4b, 0xa4d, 1), (0xa51, 0xa51, 1), (0xa59, 0xa5c, 1), (0xa5e, 0xa5e, 1),
     (0xa66, 0xa76, 1)]

def gurungKhema : Property where
  names := ["gurungkhema", "gukh"]
  rows := [(0x16100, 0x16139, 1)]

def han : Property where
  names := ["han", "hani"]
  rows :=
    [(0x2e80, 0x2e99, 1), (0x2e9b, 0x2ef3, 1), (0x2f00, 0x2fd5, 1), (0x3005, 0x3007, 2),
     (0x3021, 0x3029, 1), (0x3038, 0x303b, 1), (0x3400, 0x4dbf, 1), (0x4e00, 0x9fff, 1),
     (0xf900, 0xfa6d, 1), (0xfa70, 0xfad9, 1), (0x16fe2, 0x16fe3, 1), (0x16ff0, 0x16ff1, 1),
     (0x20000, 0x2a6df, 1), (0x2a700, 0x2b739, 1), (0x2b740, 0x2b81d, 1), (0x2b820, 0x2cea1, 1),
     (0x2ceb0, 0x2ebe0, 1), (0x2ebf0, 0x2ee5d, 1), (0x2f800, 0x2fa1d, 1), (0x30000, 0x3134a, 1),
     (0x31350, 0x323af, 1)]

def hangul : Property where
  names := ["hangul", "hang"]
  rows :=
    [(0x1100, 0x11ff, 1), (0x302e, 0x302f, 1), (0x3131, 0x318e, 1), (0x3200, 0x321e, 1),
     (0x3260, 0x327e, 1), (0xa960, 0xa97c, 1), (0xac00, 0xd7a3, 1), (0xd7b0, 0xd7c6, 1),
     (0xd7cb, 0xd7fb, 1), (0xffa0, 0xffbe, 1), (0xffc2, 0xffc7, 1), (0xffca, 0xffcf, 1),
     (0xffd2, 0xffd7, 1), (0xffda, 0xffdc, 1)]

def hanifiRohingya : Property where
  names := ["hanifirohingya", "rohg"]
  rows := [(0x10d00, 0x10d27, 1), (0x10d30, 0x10d39, 1)]

def hanunoo : Property where
  names := ["hanunoo", "hano"]
  rows := [(0x1720, 0x1734, 1)]

def hatran : Property where
  names := ["hatran", "hatr"]
  rows := [(0x108e0, 0x108f2, 1), (0x108f4, 0x108f5, 1), (0x108fb, 0x108ff, 1)]

def hebrew : Property where
  names := ["hebrew", "hebr"]
  rows :=
    [(0x591, 0x5c7, 1), (0x5d0, 0x5ea, 1), (0x5ef, 0x5f4, 1), (0xfb1d, 0xfb36, 1),
     (0xfb38, 0xfb3c, 1), (0xfb3e, 0xfb3e, 1), (0xfb40, 0xfb41, 1), (0xfb43, 0xfb44, 1),
     (0xfb46, 0xfb4f, 1)]

def hiragana : Property where
  names := ["hiragana", "hira"]
  rows :=
    [(0x3041, 0x3096, 1), (0x309d, 0x309f, 1), (0x1b001, 0x1b11f, 1), (0x1b132, 0x1b132, 1),
     (0x1b150, 0x1b152, 1), (0x1f200, 0x1f200, 1)]

def imperialAramaic : Property where
  names := ["imperialaramaic", "armi"]
  rows := [(0x10840, 0x10855, 1), (0x10857, 0x1085f, 1)]

def inherited : Property where
  names := ["inherited", "zinh", "qaai"]
  rows :=
    [(0x300, 0x36f, 1), (0x485, 0x486, 1), (0x64b, 0x655, 1), (0x670, 0x670, 1), (0x951, 0x954, 1),
     (0x1ab0, 0x1ace, 1), (0x1cd0, 0x1cd2, 1), (0x1cd4, 0x1ce0, 1), (0x1ce2, 0x1ce8, 1),
     (0x1ced, 0x1ced, 1), (0x1cf4, 0x1cf4, 1), (0x1cf8, 0x1cf9, 1), (0x1dc0, 0x1dff, 1),
     (0x200c, 0x200d, 1), (0x20d0, 0x20f0, 1), (0x302a, 0x302d, 1), (0x3099, 0x309a, 1),
     (0xfe00, 0xfe0f, 1), (0xfe20, 0xfe2d, 1), (0x101fd, 0x101fd, 1), (0x102e0, 0x102e0, 1),
     (0x1133b, 0x1133b, 1), (0x1cf00, 0x1cf2d, 1), (0x1cf30, 0x1cf46, 1), (0x1d167, 0x1d169, 1),
     (0x1d17b, 0x1d182, 1), (0x1d185, 0x1d18b, 1), (0x1d1aa, 0x1d1ad, 1), (0xe0100, 0xe01ef, 1)]

def inscriptionalPahlavi : Property where
  names := ["inscriptionalpahlavi", "phli"]
  rows := [(0x10b60, 0x10b72, 1), (0x10b78, 0x10b7f, 1)]

def inscriptionalParthian : Property where
  names := ["inscriptionalparthian", "prti"]
  rows := [(0x10b40, 0x10b55, 1), (0x10b58, 0x10b5f, 1)]

def javanese : Property where
  names := ["javanese", "java"]
  rows := [(0xa980, 0xa9cd, 1), (0xa9d0, 0xa9d9, 1), (0xa9de, 0xa9df, 1)]

def kaithi : Property where
  names := ["kaithi", "kthi"]
  rows := [(0x11080, 0x110c2, 1), (0x110cd, 0x110cd, 1)]

def kannada : Property where
  names := ["kannada", "knda"]
  rows :=
    [(0xc80, 0xc8c, 1), (0xc8e, 0xc90, 1), (0xc92, 0xca8, 1), (0xcaa, 0xcb3, 1), (0xcb5, 0xcb9, 1),
     (0xcbc, 0xcc4, 1), (0xcc6, 0xcc8, 1), (0xcca, 0xccd, 1), (0xcd5, 0xcd6, 1), (0xcdd, 0xcde, 1),
     (0xce0, 0xce3, 1), (0xce6, 0xcef, 1), (0xcf1, 0xcf3, 1)]

def katakana : Property where
  names := ["katakana", "kana"]
  rows :=
    [(0x30a1, 0x30fa, 1), (0x30fd, 0x30ff, 1), (0x31f0, 0x31ff, 1), (0x32d0, 0x32fe, 1),
     (0x3300, 0x3357, 1), (0xff66, 0xff6f, 1), (0xff71, 0xff9d, 1), (0x1aff0, 0x1aff3, 1),
     (0x1aff5, 0x1affb, 1), (0x1affd, 0x1affe, 1), (0x1b000, 0x1b000, 1), (0x1b120, 0x1b122, 1),
     (0x1b155, 0x1b155, 1), (0x1b164, 0x1b167, 1)]

def kawi : Property where
  names := ["kawi"]
  rows := [(0x11f00, 0x11f10, 1), (0x11f12, 0x11f3a, 1), (0x11f3e, 0x11f5a, 1)]

def kayahLi : Property where
  names := ["kayahli", "kali"]
  rows := [(0xa900, 0xa92d, 1), (0xa92f, 0xa92f, 1)]

def kharoshthi : Property where
  names := ["kharoshthi", "khar"]
  rows :=
    [(0x10a00, 0x10a03, 1), (0x10a05, 0x10a06, 1), (0x10a0c, 0x10a13, 1), (0x10a15, 0x10a17, 1),
     (0x10a19, 0x10a35, 1), (0x10a38, 0x10a3a, 1), (0x10a3f, 0x10a48, 1), (0x10a50, 0x10a58, 1)]

def khitanSmallScript : Property where
  names := ["khitansmallscript", "kits"]
  rows := [(0x16fe4, 0x16fe4, 1), (0x18b00, 0x18cd5, 1), (0x18cff, 0x18cff, 1)]

def khmer : Property where
  names := ["khmer", "khmr"]
  rows := [(0x1780, 0x17dd, 1), (0x17e0, 0x17e9, 1), (0x17f0, 0x17f9, 1), (0x19e0, 0x19ff, 1)]

def khojki : Property where
  names := ["khojki", "khoj"]
  rows := [(0x11200, 0x11211, 1), (0x11213, 0x11241, 1)]

def khudawadi : Property where
  names := ["khudawadi", "sind"]
  rows := [(0x112b0, 0x112ea, 1), (0x112f0, 0x112f9, 1)]

def kiratRai : Property where
  names := ["kiratrai", "krai"]
  rows := [(0x16d40, 0x16d79, 1)]

def lao : Property where
  names := ["lao", "laoo"]
  rows :=
    [(0xe81, 0xe82, 1), (0xe84, 0xe84, 1), (0xe86, 0xe8a, 1), (0xe8c, 0xea3, 1), (0xea5, 0xea5, 1),
     (0xea7, 0xebd, 1), (0xec0, 0xec4, 1), (0xec6, 0xec6, 1), (0xec8, 0xece, 1), (0xed0, 0xed9, 1),
     (0xedc, 0xedf, 1)]

def latin : Property where
  names := ["latin", "latn"]
  rows :=
    [(0x41, 0x5a, 1), (0x61, 0x7a, 1), (0xaa, 0xaa, 1), (0xba, 0xba, 1), (0xc0, 0xd6, 1),
     (0xd8, 0xf6, 1), (0xf8, 0x2b8, 1), (0x2e0, 0x2e4, 1), (0x1d00, 0x1d25, 1), (0x1d2c, 0x1d5c, 1),
     (0x1d62, 0x1d65, 1), (0x1d6b, 0x1d77, 1), (0x1d79, 0x1dbe, 1), (0x1e00, 0x1eff, 1),
     (0x2071, 0x2071, 1), (0x207f, 0x207f, 1), (0x2090, 0x209c, 1), (0x212a, 0x212b, 1),
     (0x2132, 0x2132, 1), (0x214e, 0x214e, 1), (0x2160, 0x2188, 1), (0x2c60, 0x2c7f, 1),
     (0xa722, 0xa787, 1), (0xa78b, 0xa7cd, 1), (0xa7d0, 0xa7d1, 1), (0xa7d3, 0xa7d3, 1),
     (0xa7d5, 0xa7dc, 1), (0xa7f2, 0xa7ff, 1), (0xab30, 0xab5a, 1), (0xab5c, 0xab64, 1),
     (0xab66, 0xab69, 1), (0xfb00, 0xfb06, 1), (0xff21, 0xff3a, 1), (0xff41, 0xff5a, 1),
     (0x10780, 0x10785, 1), (0x10787, 0x107b0, 1), (0x107b2, 0x107ba, 1), (0x1df00, 0x1df1e, 1),
     (0x1df25, 0x1df2a, 1)]

def lepcha : Property where
  names := ["lepcha", "lepc"]
  rows := [(0x1c00, 0x1c37, 1), (0x1c3b, 0x1c49, 1), (0x1c4d, 0x1c4f, 1)]

def limbu : Property where
  names := ["limbu", "limb"]
  rows :=
    [(0x1900, 0x191e, 1), (0x1920, 0x192b, 1), (0x1930, 0x193b, 1), (0x1940, 0x1940, 1),
     (0x1944, 0x194f, 1)]

def linearA : Property where
  names := ["lineara", "lina"]
  rows := [(0x10600, 0x10736, 1), (0x10740, 0x10755, 1), (0x10760, 0x10767, 1)]

def linearB : Property where
  names := ["linearb", "linb"]
  rows :=
    [(0x10000, 0x1000b, 1), (0x1000d, 0x10026, 1), (0x10028, 0x1003a, 1), (0x1003c, 0x1003d, 1),
     (0x1003f, 0x1004d, 1), (0x10050, 0x1005d, 1), (0x10080, 0x100fa, 1)]

def lisu : Property where
  names := ["lisu"]
  rows := [(0xa4d0, 0xa4ff, 1), (0x11fb0, 0x11fb0, 1)]

def lycian : Property where
  names := ["lycian", "lyci"]
  rows := [(0x10280, 0x1029c, 1)]

def lydian : Property where
  names := ["lydian", "lydi"]
  rows := [(0x10920, 0x10939, 1), (0x1093f, 0x1093f, 1)]

def mahajani : Property where
  names := ["mahajani", "mahj"]
  rows := [(0x11150, 0x11176, 1)]

def makasar : Property where
  names := ["makasar", "maka"]
  rows := [(0x11ee0, 0x11ef8, 1)]

def malayalam : Property where
  names := ["malayalam", "mlym"]
  rows :=
    [(0xd00, 0xd0c, 1), (0xd0e, 0xd10, 1), (0xd12, 0xd44, 1), (0xd46, 0xd48, 1), (0xd4a, 0xd4f, 1),
     (0xd54, 0xd63, 1), (0xd66, 0xd7f, 1)]

def mandaic : Property where
  names := ["mandaic", "mand"]
  rows := [(0x840, 0x85b, 1), (0x85e, 0x85e, 1)]

def manichaean : Property where
  names := ["manichaean", "mani"]
  rows := [(0x10ac0, 0x10ae6, 1), (0x10aeb, 0x10af6, 1)]

def marchen : Property where
  names := ["marchen", "marc"]
  rows := [(0x11c70, 0x11c8f, 1), (0x11c92, 0x11ca7, 1), (0x11ca9, 0x11cb6, 1)]

def masaramGondi : Property where
  names := ["masaramgondi", "gonm"]
  rows :=
    [(0x11d00, 0x11d06, 1), (0x11d08, 0x11d09, 1), (0x11d0b, 0x11d36, 1), (0x11d3a, 0x11d3a, 1),
     (0x11d3c, 0x11d3d, 1), (0x11d3f, 0x11d47, 1), (0x11d50, 0x11d59, 1)]

def medefaidrin : Property where
  names := ["medefaidrin", "medf"]
  rows := [(0x16e40, 0x16e9a, 1)]

def meeteiMayek : Property where
  names := ["meeteimayek", "mtei"]
  rows := [(0xaae0, 0xaaf6, 1), (0xabc0, 0xabed, 1), (0xabf0, 0xabf9, 1)]

def mendeKikakui : Property where
  names := ["mendekikakui", "mend"]
  rows := [(0x1e800, 0x1e8c4, 1), (0x1e8c7, 0x1e8d6, 1)]

def meroiticCursive : Property where
  names := ["meroiticcursive", "merc"]
  rows := [(0x109a0, 0x109b7, 1), (0x109bc, 0x109cf, 1), (0x109d2, 0x109ff, 1)]

def meroiticHieroglyphs : Property where
  names := ["meroitichieroglyphs", "mero"]
  rows := [(0x10980, 0x1099f, 1)]

def miao : Property where
  names := ["miao", "plrd"]
  rows := [(0x16f00, 0x16f4a, 1), (0x16f4f, 0x16f87, 1), (0x16f8f, 0x16f9f, 1)]

def modi : Property where
  names := ["modi"]
  rows := [(0x11600, 0x11644, 1), (0x11650, 0x11659, 1)]

def mongolian : Property where
  names := ["mongolian", "mong"]
  rows :=
    [(0x1800, 0x1801, 1), (0x1804, 0x1804, 1), (0x1806, 0x1819, 1), (0x1820, 0x1878, 1),
     (0x1880, 0x18aa, 1), (0x11660, 0x1166c, 1)]

def mro : Property where
  names := ["mro", "mroo"]
  rows := [(0x16a40, 0x16a5e, 1), (0x16a60, 0x16a69, 1), (0x16a6e, 0x16a6f, 1)]

def multani : Property where
  names := ["multani", "mult"]
  rows :=
    [(0x11280, 0x11286, 1), (0x11288, 0x11288, 1), (0x1128a, 0x1128d, 1), (0x1128f, 0x1129d, 1),
     (0x1129f, 0x112a9, 1)]

def myanmar : Property where
  names := ["myanmar", "mymr"]
  rows := [(0x1000, 0x109f, 1), (0xa9e0, 0xa9fe, 1), (0xaa60, 0xaa7f, 1), (0x116d0, 0x116e3, 1)]

def nabataean : Property where
  names := ["nabataean", "nbat"]
  rows := [(0x10880, 0x1089e, 1), (0x108a7, 0x108af, 1)]

def nagMundari : Property where
  names := ["nagmundari", "nagm"]
  rows := [(0x1e4d0, 0x1e4f9, 1)]

def nandinagari : Property where
  names := ["nandinagari", "nand"]
  rows := [(0x119a0, 0x119a7, 1), (0x119aa, 0x119d7, 1), (0x119da, 0x119e4, 1)]

def newTaiLue : Property where
  names := ["newtailue", "talu"]
  rows := [(0x1980, 0x19ab, 1), (0x19b0, 0x19c9, 1), (0x19d0, 0x19da, 1), (0x19de, 0x19df, 1)]

def newa : Property where
  names := ["newa"]
  rows := [(0x11400, 0x1145b, 1), (0x1145d, 0x11461, 1)]

def nko : Property where
  names := ["nko", "nkoo"]
  rows := [(0x7c0, 0x7fa, 1), (0x7fd, 0x7ff, 1)]

def nushu : Property where
  names := ["nushu", "nshu"]
  rows := [(0x16fe1, 0x16fe1, 1), (0x1b170, 0x1b2fb, 1)]

def nyiakengPuachueHmong : Property where
  names := ["nyiakengpuachuehmong", "hmnp"]
  rows :=
    [(0x1e100, 0x1e12c, 1), (0x1e130, 0x1e13d, 1), (0x1e140, 0x1e149, 1), (0x1e14e, 0x1e14f, 1)]

def ogham : Property where
  names := ["ogham", "ogam"]
  rows := [(0x1680, 0x169c, 1)]

def olChiki : Property where
  names := ["olchiki", "olck"]
  rows := [(0x1c50, 0x1c7f, 1)]

def olOnal : Property where
  names := ["olonal", "onao"]
  rows := [(0x1e5d0, 0x1e5fa, 1), (0x1e5ff, 0x1e5ff, 1)]

def oldHungarian : Property where
  names := ["oldhungarian", "hung"]
  rows := [(0x10c80, 0x10cb2, 1), (0x10cc0, 0x10cf2, 1), (0x10cfa, 0x10cff, 1)]

def oldItalic : Property where
  names := ["olditalic", "ital"]
  rows := [(0x10300, 0x10323, 1), (0x1032d, 0x1032f, 1)]

def oldNorthArabian : Property where
  names := ["oldnortharabian", "narb"]
  rows := [(0x10a80, 0x10a9f, 1)]

def oldPermic : Property where
  names := ["oldpermic", "perm"]
  rows := [(0x10350, 0x1037a, 1)]

def oldPersian : Property where
  names := ["oldpersian", "xpeo"]
  rows := [(0x103a0, 0x103c3, 1), (0x103c8, 0x103d5, 1)]

def oldSogdian : Property where
  names := ["oldsogdian", "sogo"]
  rows := [(0x10f00, 0x10f27, 1)]

def oldSouthArabian : Property where
  names := ["oldsoutharabian", "sarb"]
  rows := [(0x10a60, 0x10a7f, 1)]

def oldTurkic : Property where
  names := ["oldturkic", "orkh"]
  rows := [(0x10c00, 0x10c48, 1)]

def oldUyghur : Property where
  names := ["olduyghur", "ougr"]
  rows := [(0x10f70, 0x10f89, 1)]

def oriya : Property where
  names := ["oriya", "orya"]
  rows :=
    [(0xb01, 0xb03, 1), (0xb05, 0xb0c, 1), (0xb0f, 0xb10, 1), (0xb13, 0xb28, 1), (0xb2a, 0xb30, 1),
     (0xb32, 0xb33, 1), (0xb35, 0xb39, 1), (0xb3c, 0xb44, 1), (0xb47, 0xb48, 1), (0xb4b, 0xb4d, 1),
     (0xb55, 0xb57, 1), (0xb5c, 0xb5d, 1), (0xb5f, 0xb63, 1), (0xb66, 0xb77, 1)]

def osage : Property where
  names := ["osage", "osge"]
  rows := [(0x104b0, 0x104d3, 1), (0x104d8, 0x104fb, 1)]

def osmanya : Property where
  names := ["osmanya", "osma"]
  rows := [(0x10480, 0x1049d, 1), (0x104a0, 0x104a9, 1)]

def pahawhHmong : Property where
  names := ["pahawhhmong", "hmng"]
  rows :=
    [(0x16b00, 0x16b45, 1), (0x16b50, 0x16b59, 1), (0x16b5b, 0x16b61, 1), (0x16b63, 0x16b77, 1),
     (0x16b7d, 0x16b8f, 1)]

def palmyrene : Property where
  names := ["palmyrene", "palm"]
  rows := [(0x10860, 0x1087f, 1)]

def pauCinHau : Property where
  names := ["paucinhau", "pauc"]
  rows := [(0x11ac0, 0x11af8, 1)]

def phagsPa : Property where
  names := ["phagspa", "phag"]
  rows := [(0xa840, 0xa877, 1)]

def phoenician : Property where
  names := ["phoenician", "phnx"]
  rows := [(0x10900, 0x1091b, 1), (0x1091f, 0x1091f, 1)]

def psalterPahlavi : Property where
  names := ["psalterpahlavi", "phlp"]
  rows := [(0x10b80, 0x10b91, 1), (0x10b99, 0x10b9c, 1), (0x10ba9, 0x10baf, 1)]

def rejang : Property where
  names := ["rejang", "rjng"]
  rows := [(0xa930, 0xa953, 1), (0xa95f, 0xa95f, 1)]

def runic : Property where
  names := ["runic", "runr"]
  rows := [(0x16a0, 0x16ea, 1), (0x16ee, 0x16f8, 1)]

def samaritan : Property where
  names := ["samaritan", "samr"]
  rows := [(0x800, 0x82d, 1), (0x830, 0x83e, 1)]

def saurashtra : Property where
  names := ["saurashtra", "saur"]
  rows := [(0xa880, 0xa8c5, 1), (0xa8ce, 0xa8d9, 1)]

def sharada : Property where
  names := ["sharada", "shrd"]
  rows := [(0x11180, 0x111df, 1)]

def shavian : Property where
  names := ["shavian", "shaw"]
  rows := [(0x10450, 0x1047f, 1)]

def siddham : Property where
  names := ["siddham", "sidd"]
  rows := [(0x11580, 0x115b5, 1), (0x115b8, 0x115dd, 1)]

def signWriting : Property where
  names := ["signwriting", "sgnw"]
  rows := [(0x1d800, 0x1da8b, 1), (0x1da9b, 0x1da9f, 1), (0x1daa1, 0x1daaf, 1)]

def sinhala : Property where
  names := ["sinhala", "sinh"]
  rows :=
    [(0xd81, 0xd83, 1), (0xd85, 0xd96, 1), (0xd9a, 0xdb1, 1), (0xdb3, 0xdbb, 1), (0xdbd, 0xdbd, 1),
     (0xdc0, 0xdc6, 1), (0xdca, 0xdca, 1), (0xdcf, 0xdd4, 1), (0xdd6, 0xdd6, 1), (0xdd8, 0xddf, 1),
     (0xde6, 0xdef, 1), (0xdf2, 0xdf4, 1), (0x111e1, 0x111f4, 1)]

def sogdian : Property where
  names := ["sogdian", "sogd"]
  rows := [(0x10f30, 0x10f59, 1)]

def soraSompeng : Property where
  names := ["sorasompeng", "sora"]
  rows := [(0x110d0, 0x110e8, 1), (0x110f0, 0x110f9, 1)]

def soyombo : Property where
  names := ["soyombo", "soyo"]
  rows := [(0x11a50, 0x11aa2, 1)]

def sundanese : Property where
  names := ["sundanese", "sund"]
  rows := [(0x1b80, 0x1bbf, 1), (0x1cc0, 0x1cc7, 1)]

def sunuwar : Property where
  names := ["sunuwar", "sunu"]
  rows := [(0x11bc0, 0x11be1, 1), (0x11bf0, 0x11bf9, 1)]

def sylotiNagri : Property where
  names := ["sylotinagri", "sylo"]
  rows := [(0xa800, 0xa82c, 1)]

def syriac : Property where
  names := ["syriac", "syrc"]
  rows := [(0x700, 0x70d, 1), (0x70f, 0x74a, 1), (0x74d, 0x74f, 1), (0x860, 0x86a, 1)]

def tagalog : Property where
  names := ["tagalog", "tglg"]
  rows := [(0x1700, 0x1715, 1), (0x171f, 0x171f, 1)]

def tagbanwa : Property where
  names := ["tagbanwa", "tagb"]
  rows := [(0x1760, 0x176c, 1), (0x176e, 0x1770, 1), (0x1772, 0x1773, 1)]

def taiLe : Property where
  names := ["taile", "tale"]
  rows := [(0x1950, 0x196d, 1), (0x1970, 0x1974, 1)]

def taiTham : Property where
  names := ["taitham", "lana"]
  rows :=
    [(0x1a20, 0x1a5e, 1), (0x1a60, 0x1a7c, 1), (0x1a7f, 0x1a89, 1), (0x1a90, 0x1a99, 1),
     (0x1aa0, 0x1aad, 1)]

def taiViet : Property where
  names := ["taiviet", "tavt"]
  rows := [(0xaa80, 0xaac2, 1), (0xaadb, 0xaadf, 1)]

def takri : Property where
  names := ["takri", "takr"]
  rows := [(0x11680, 0x116b9, 1), (0x116c0, 0x116c9, 1)]

def tamil : Property where
  names := ["tamil", "taml"]
  rows :=
    [(0xb82, 0xb83, 1), (0xb85, 0xb8a, 1), (0xb8e, 0xb90, 1), (0xb92, 0xb95, 1), (0xb99, 0xb9a, 1),
     (0xb9c, 0xb9c, 1), (0xb9e, 0xb9f, 1), (0xba3, 0xba4, 1), (0xba8, 0xbaa, 1), (0xbae, 0xbb9, 1),
     (0xbbe, 0xbc2, 1), (0xbc6, 0xbc8, 1), (0xbca, 0xbcd, 1), (0xbd0, 0xbd0, 1), (0xbd7, 0xbd7, 1),
     (0xbe6, 0xbfa, 1), (0x11fc0, 0x11ff1, 1), (0x11fff, 0x11fff, 1)]

def tangsa : Property where
  names := ["tangsa", "tnsa"]
  rows := [(0x16a70, 0x16abe, 1), (0x16ac0, 0x16ac9, 1)]

def tangut : Property where
  names := ["tangut", "tang"]
  rows :=
    [(0x16fe0, 0x16fe0, 1), (0x17000, 0x187f7, 1), (0x18800, 0x18aff, 1), (0x18d00, 0x18d08, 1)]

def telugu : Property where
  names := ["telugu", "telu"]
  rows :=
    [(0xc00, 0xc0c, 1), (0xc0e, 0xc10, 1), (0xc12, 0xc28, 1), (0xc2a, 0xc39, 1), (0xc3c, 0xc44, 1),
     (0xc46, 0xc48, 1), (0xc4a, 0xc4d, 1), (0xc55, 0xc56, 1), (0xc58, 0xc5a, 1), (0xc5d, 0xc5d, 1),
     (0xc60, 0xc63, 1), (0xc66, 0xc6f, 1), (0xc77, 0xc7f, 1)]

def thaana : Property where
  names := ["thaana", "thaa"]
  rows := [(0x780, 0x7b1, 1)]

def thai : Property where
  names := ["thai"]
  rows := [(0xe01, 0xe3a, 1), (0xe40, 0xe5b, 1)]

def tibetan : Property where
  names := ["tibetan", "tibt"]
  rows :=
    [(0xf00, 0xf47, 1), (0xf49, 0xf6c, 1), (0xf71, 0xf97, 1), (0xf99, 0xfbc, 1), (0xfbe, 0xfcc, 1),
     (0xfce, 0xfd4, 1), (0xfd9, 0xfda, 1)]

def tifinagh : Property where
  names := ["tifinagh", "tfng"]
  rows := [(0x2d30, 0x2d67, 1), (0x2d6f, 0x2d70, 1), (0x2d7f, 0x2d7f, 1)]

def tirhuta : Property where
  names := ["tirhuta", "tirh"]
  rows := [(0x11480, 0x114c7, 1), (0x114d0, 0x114d9, 1)]

def todhri : Property where
  names := ["todhri", "todr"]
  rows := [(0x105c0, 0x105f3, 1)]

def toto : Property where
  names := ["toto"]
  rows := [(0x1e290, 0x1e2ae, 1)]

def tuluTigalari : Property where
  names := ["tulutigalari", "tutg"]
  rows :=
    [(0x11380, 0x11389, 1), (0x1138b, 0x1138b, 1), (0x1138e, 0x1138e, 1), (0x11390, 0x113b5, 1),
     (0x113b7, 0x113c0, 1), (0x113c2, 0x113c2, 1), (0x113c5, 0x113c5, 1), (0x113c7, 0x113ca, 1),
     (0x113cc, 0x113d5, 1), (0x113d7, 0x113d8, 1), (0x113e1, 0x113e2, 1)]

def ugaritic : Property where
  names := ["ugaritic", "ugar"]
  rows := [(0x10380, 0x1039d, 1), (0x1039f, 0x1039f, 1)]

def vai : Property where
  names := ["vai", "vaii"]
  rows := [(0xa500, 0xa62b, 1)]

def vithkuqi : Property where
  names := ["vithkuqi", "vith"]
  rows :=
    [(0x10570, 0x1057a, 1), (0x1057c, 0x1058a, 1), (0x1058c, 0x10592, 1), (0x10594, 0x10595, 1),
     (0x10597, 0x105a1, 1), (0x105a3, 0x105b1, 1), (0x105b3, 0x105b9, 1), (0x105bb, 0x105bc, 1)]

def wancho : Property where
  names := ["wancho", "wcho"]
  rows := [(0x1e2c0, 0x1e2f9, 1), (0x1e2ff, 0x1e2ff, 1)]

def warangCiti : Property where
  names := ["warangciti", "wara"]
  rows := [(0x118a0, 0x118f2, 1), (0x118ff, 0x118ff, 1)]

def yezidi : Property where
  names := ["yezidi", "yezi"]
  rows := [(0x10e80, 0x10ea9, 1), (0x10eab, 0x10ead, 1), (0x10eb0, 0x10eb1, 1)]

def yi : Property where
  names := ["yi", "yiii"]
  rows := [(0xa000, 0xa48c, 1), (0xa490, 0xa4c6, 1)]

def zanabazarSquare : Property where
  names := ["zanabazarsquare", "zanb"]
  rows := [(0x11a00, 0x11a47, 1)]

end Script

open Script in
def scripts : List Property :=
  [adlam, ahom, anatolianHieroglyphs, arabic, armenian, avestan, balinese, bamum, bassaVah, batak,
   bengali, bhaiksuki, bopomofo, brahmi, braille, buginese, buhid, canadianAboriginal, carian,
   caucasianAlbanian, chakma, cham, cherokee, chorasmian, common, coptic, cuneiform, cypriot,
   cyproMinoan, cyrillic, deseret, devanagari, divesAkuru, dogra, duployan, egyptianHieroglyphs,
   elbasan, elymaic, ethiopic, garay, georgian, glagolitic, gothic, grantha, greek, gujarati,
   gunjalaGondi, gurmukhi, gurungKhema, han, hangul, hanifiRohingya, hanunoo, hatran, hebrew,
   hiragana, imperialAramaic, inherited, inscriptionalPahlavi, inscriptionalParthian, javanese,
   kaithi, kannada, katakana, kawi, kayahLi, kharoshthi, khitanSmallScript, khmer, khojki,
   khudawadi, kiratRai, lao, latin, lepcha, limbu, linearA, linearB, lisu, lycian, lydian, mahajani,
   makasar, malayalam, mandaic, manichaean, marchen, masaramGondi, medefaidrin, meeteiMayek,
   mendeKikakui, meroiticCursive, meroiticHieroglyphs, miao, modi, mongolian, mro, multani, myanmar,
   nabataean, nagMundari, nandinagari, newTaiLue, newa, nko, nushu, nyiakengPuachueHmong, ogham,
   olChiki, olOnal, oldHungarian, oldItalic, oldNorthArabian, oldPermic, oldPersian, oldSogdian,
   oldSouthArabian, oldTurkic, oldUyghur, oriya, osage, osmanya, pahawhHmong, palmyrene, pauCinHau,
   phagsPa, phoenician, psalterPahlavi, rejang, runic, samaritan, saurashtra, sharada, shavian,
   siddham, signWriting, sinhala, sogdian, soraSompeng, soyombo, sundanese, sunuwar, sylotiNagri,
   syriac, tagalog, tagbanwa, taiLe, taiTham, taiViet, takri, tamil, tangsa, tangut, telugu, thaana,
   thai, tibetan, tifinagh, tirhuta, todhri, toto, tuluTigalari, ugaritic, vai, vithkuqi, wancho,
   warangCiti, yezidi, yi, zanabazarSquare]

end LocalePaths.Unicode
