import Handoff.Text.Span

/-!
What becomes of each character of a name of a host.
-/
namespace Handoff.Url.Name

/-! Characters that names of hosts do not have, and those that they lose. -/

private def refusedRanges1 : List (Nat × Nat) :=
  [
    (0x80, 0x9f), (0x378, 0x379), (0x380, 0x383), (0x38b, 0x38b), (0x38d, 0x38d), (0x3a2, 0x3a2),
    (0x530, 0x530), (0x557, 0x558), (0x58b, 0x58c), (0x590, 0x590), (0x5c8, 0x5cf), (0x5eb, 0x5ee),
    (0x5f5, 0x605), (0x61c, 0x61c), (0x6dd, 0x6dd), (0x70e, 0x70f), (0x74b, 0x74c), (0x7b2, 0x7bf),
    (0x7fb, 0x7fc), (0x82e, 0x82f), (0x83f, 0x83f), (0x85c, 0x85d), (0x85f, 0x85f), (0x86b, 0x86f),
    (0x890, 0x896), (0x8e2, 0x8e2), (0x984, 0x984), (0x98d, 0x98e), (0x991, 0x992), (0x9a9, 0x9a9),
    (0x9b1, 0x9b1), (0x9b3, 0x9b5), (0x9ba, 0x9bb), (0x9c5, 0x9c6), (0x9c9, 0x9ca), (0x9cf, 0x9d6),
    (0x9d8, 0x9db), (0x9de, 0x9de), (0x9e4, 0x9e5), (0x9ff, 0xa00), (0xa04, 0xa04), (0xa0b, 0xa0e),
    (0xa11, 0xa12), (0xa29, 0xa29), (0xa31, 0xa31), (0xa34, 0xa34), (0xa37, 0xa37), (0xa3a, 0xa3b),
    (0xa3d, 0xa3d), (0xa43, 0xa46), (0xa49, 0xa4a), (0xa4e, 0xa50), (0xa52, 0xa58), (0xa5d, 0xa5d),
    (0xa5f, 0xa65), (0xa77, 0xa80), (0xa84, 0xa84), (0xa8e, 0xa8e), (0xa92, 0xa92), (0xaa9, 0xaa9),
    (0xab1, 0xab1), (0xab4, 0xab4), (0xaba, 0xabb), (0xac6, 0xac6), (0xaca, 0xaca), (0xace, 0xacf),
    (0xad1, 0xadf), (0xae4, 0xae5), (0xaf2, 0xaf8), (0xb00, 0xb00), (0xb04, 0xb04), (0xb0d, 0xb0e),
    (0xb11, 0xb12), (0xb29, 0xb29), (0xb31, 0xb31), (0xb34, 0xb34), (0xb3a, 0xb3b), (0xb45, 0xb46),
    (0xb49, 0xb4a), (0xb4e, 0xb54), (0xb58, 0xb5b), (0xb5e, 0xb5e), (0xb64, 0xb65), (0xb78, 0xb81),
    (0xb84, 0xb84), (0xb8b, 0xb8d), (0xb91, 0xb91), (0xb96, 0xb98), (0xb9b, 0xb9b), (0xb9d, 0xb9d),
    (0xba0, 0xba2), (0xba5, 0xba7), (0xbab, 0xbad), (0xbba, 0xbbd), (0xbc3, 0xbc5), (0xbc9, 0xbc9),
    (0xbce, 0xbcf), (0xbd1, 0xbd6), (0xbd8, 0xbe5), (0xbfb, 0xbff), (0xc0d, 0xc0d), (0xc11, 0xc11),
    (0xc29, 0xc29), (0xc3a, 0xc3b), (0xc45, 0xc45), (0xc49, 0xc49), (0xc4e, 0xc54), (0xc57, 0xc57),
    (0xc5b, 0xc5b), (0xc5e, 0xc5f), (0xc64, 0xc65), (0xc70, 0xc76), (0xc8d, 0xc8d), (0xc91, 0xc91),
    (0xca9, 0xca9), (0xcb4, 0xcb4), (0xcba, 0xcbb), (0xcc5, 0xcc5), (0xcc9, 0xcc9), (0xcce, 0xcd4),
    (0xcd7, 0xcdb), (0xcdf, 0xcdf), (0xce4, 0xce5), (0xcf0, 0xcf0), (0xcf4, 0xcff), (0xd0d, 0xd0d),
    (0xd11, 0xd11), (0xd45, 0xd45), (0xd49, 0xd49), (0xd50, 0xd53), (0xd64, 0xd65), (0xd80, 0xd80),
    (0xd84, 0xd84), (0xd97, 0xd99), (0xdb2, 0xdb2), (0xdbc, 0xdbc), (0xdbe, 0xdbf), (0xdc7, 0xdc9),
    (0xdcb, 0xdce), (0xdd5, 0xdd5), (0xdd7, 0xdd7), (0xde0, 0xde5), (0xdf0, 0xdf1), (0xdf5, 0xe00),
    (0xe3b, 0xe3e), (0xe5c, 0xe80), (0xe83, 0xe83), (0xe85, 0xe85), (0xe8b, 0xe8b), (0xea4, 0xea4),
    (0xea6, 0xea6), (0xebe, 0xebf), (0xec5, 0xec5), (0xec7, 0xec7), (0xecf, 0xecf), (0xeda, 0xedb),
    (0xee0, 0xeff), (0xf48, 0xf48), (0xf6d, 0xf70), (0xf98, 0xf98), (0xfbd, 0xfbd), (0xfcd, 0xfcd),
    (0xfdb, 0xfff), (0x10c6, 0x10c6), (0x10c8, 0x10cc), (0x10ce, 0x10cf), (0x1249, 0x1249),
    (0x124e, 0x124f), (0x1257, 0x1257), (0x1259, 0x1259), (0x125e, 0x125f), (0x1289, 0x1289),
    (0x128e, 0x128f), (0x12b1, 0x12b1), (0x12b6, 0x12b7), (0x12bf, 0x12bf), (0x12c1, 0x12c1),
    (0x12c6, 0x12c7), (0x12d7, 0x12d7), (0x1311, 0x1311), (0x1316, 0x1317), (0x135b, 0x135c),
    (0x137d, 0x137f), (0x139a, 0x139f), (0x13f6, 0x13f7), (0x13fe, 0x13ff), (0x1680, 0x1680),
    (0x169d, 0x169f), (0x16f9, 0x16ff), (0x1716, 0x171e), (0x1737, 0x173f), (0x1754, 0x175f),
    (0x176d, 0x176d), (0x1771, 0x1771), (0x1774, 0x177f), (0x17de, 0x17df), (0x17ea, 0x17ef),
    (0x17fa, 0x17ff), (0x181a, 0x181f), (0x1879, 0x187f), (0x18ab, 0x18af), (0x18f6, 0x18ff),
    (0x191f, 0x191f), (0x192c, 0x192f), (0x193c, 0x193f), (0x1941, 0x1943), (0x196e, 0x196f),
    (0x1975, 0x197f), (0x19ac, 0x19af), (0x19ca, 0x19cf), (0x19db, 0x19dd), (0x1a1c, 0x1a1d),
    (0x1a5f, 0x1a5f), (0x1a7d, 0x1a7e), (0x1a8a, 0x1a8f), (0x1a9a, 0x1a9f), (0x1aae, 0x1aaf),
    (0x1ade, 0x1adf), (0x1aec, 0x1aff), (0x1b4d, 0x1b4d), (0x1bf4, 0x1bfb), (0x1c38, 0x1c3a),
    (0x1c4a, 0x1c4c), (0x1c8b, 0x1c8f), (0x1cbb, 0x1cbc), (0x1cc8, 0x1ccf), (0x1cfb, 0x1cff),
    (0x1f16, 0x1f17), (0x1f1e, 0x1f1f), (0x1f46, 0x1f47), (0x1f4e, 0x1f4f), (0x1f58, 0x1f58),
    (0x1f5a, 0x1f5a), (0x1f5c, 0x1f5c), (0x1f5e, 0x1f5e), (0x1f7e, 0x1f7f), (0x1fb5, 0x1fb5),
    (0x1fc5, 0x1fc5), (0x1fd4, 0x1fd5), (0x1fdc, 0x1fdc), (0x1ff0, 0x1ff1), (0x1ff5, 0x1ff5),
    (0x1fff, 0x1fff), (0x200e, 0x200f), (0x2024, 0x2026), (0x2028, 0x202e), (0x2065, 0x2069),
    (0x2072, 0x2073), (0x208f, 0x208f), (0x209d, 0x209f), (0x20c2, 0x20cf), (0x20f1, 0x20ff),
    (0x218c, 0x218f), (0x242a, 0x243f), (0x244b, 0x245f), (0x2488, 0x249b) ]

private def refusedRanges2 : List (Nat × Nat) :=
  [
    (0x2b74, 0x2b75), (0x2cf4, 0x2cf8), (0x2d26, 0x2d26), (0x2d28, 0x2d2c), (0x2d2e, 0x2d2f),
    (0x2d68, 0x2d6e), (0x2d71, 0x2d7e), (0x2d97, 0x2d9f), (0x2da7, 0x2da7), (0x2daf, 0x2daf),
    (0x2db7, 0x2db7), (0x2dbf, 0x2dbf), (0x2dc7, 0x2dc7), (0x2dcf, 0x2dcf), (0x2dd7, 0x2dd7),
    (0x2ddf, 0x2ddf), (0x2e5e, 0x2e7f), (0x2e9a, 0x2e9a), (0x2ef4, 0x2eff), (0x2fd6, 0x2fff),
    (0x3040, 0x3040), (0x3097, 0x3098), (0x3100, 0x3104), (0x3130, 0x3130), (0x318f, 0x318f),
    (0x31e6, 0x31ef), (0x321f, 0x321f), (0x33c2, 0x33c2), (0x33c7, 0x33c7), (0x33d8, 0x33d8),
    (0xa48d, 0xa48f), (0xa4c7, 0xa4cf), (0xa62c, 0xa63f), (0xa6f8, 0xa6ff), (0xa7dd, 0xa7f0),
    (0xa82d, 0xa82f), (0xa83a, 0xa83f), (0xa878, 0xa87f), (0xa8c6, 0xa8cd), (0xa8da, 0xa8df),
    (0xa954, 0xa95e), (0xa97d, 0xa97f), (0xa9ce, 0xa9ce), (0xa9da, 0xa9dd), (0xa9ff, 0xa9ff),
    (0xaa37, 0xaa3f), (0xaa4e, 0xaa4f), (0xaa5a, 0xaa5b), (0xaac3, 0xaada), (0xaaf7, 0xab00),
    (0xab07, 0xab08), (0xab0f, 0xab10), (0xab17, 0xab1f), (0xab27, 0xab27), (0xab2f, 0xab2f),
    (0xab6c, 0xab6f), (0xabee, 0xabef), (0xabfa, 0xabff), (0xd7a4, 0xd7af), (0xd7c7, 0xd7ca),
    (0xd7fc, 0xd7ff), (0xe000, 0xf8ff), (0xfa6e, 0xfa6f), (0xfada, 0xfaff), (0xfb07, 0xfb12),
    (0xfb18, 0xfb1c), (0xfb37, 0xfb37), (0xfb3d, 0xfb3d), (0xfb3f, 0xfb3f), (0xfb42, 0xfb42),
    (0xfb45, 0xfb45), (0xfdd0, 0xfdef), (0xfe12, 0xfe12), (0xfe19, 0xfe1f), (0xfe30, 0xfe30),
    (0xfe52, 0xfe53), (0xfe67, 0xfe67), (0xfe6c, 0xfe6f), (0xfe75, 0xfe75), (0xfefd, 0xfefe),
    (0xff00, 0xff00), (0xffbf, 0xffc1), (0xffc8, 0xffc9), (0xffd0, 0xffd1), (0xffd8, 0xffd9),
    (0xffdd, 0xffdf), (0xffe7, 0xffe7), (0xffef, 0xffff), (0x1000c, 0x1000c), (0x10027, 0x10027),
    (0x1003b, 0x1003b), (0x1003e, 0x1003e), (0x1004e, 0x1004f), (0x1005e, 0x1007f),
    (0x100fb, 0x100ff), (0x10103, 0x10106), (0x10134, 0x10136), (0x1018f, 0x1018f),
    (0x1019d, 0x1019f), (0x101a1, 0x101cf), (0x101fe, 0x1027f), (0x1029d, 0x1029f),
    (0x102d1, 0x102df), (0x102fc, 0x102ff), (0x10324, 0x1032c), (0x1034b, 0x1034f),
    (0x1037b, 0x1037f), (0x1039e, 0x1039e), (0x103c4, 0x103c7), (0x103d6, 0x103ff),
    (0x1049e, 0x1049f), (0x104aa, 0x104af), (0x104d4, 0x104d7), (0x104fc, 0x104ff),
    (0x10528, 0x1052f), (0x10564, 0x1056e), (0x1057b, 0x1057b), (0x1058b, 0x1058b),
    (0x10593, 0x10593), (0x10596, 0x10596), (0x105a2, 0x105a2), (0x105b2, 0x105b2),
    (0x105ba, 0x105ba), (0x105bd, 0x105bf), (0x105f4, 0x105ff), (0x10737, 0x1073f),
    (0x10756, 0x1075f), (0x10768, 0x1077f), (0x10786, 0x10786), (0x107b1, 0x107b1),
    (0x107bb, 0x107ff), (0x10806, 0x10807), (0x10809, 0x10809), (0x10836, 0x10836),
    (0x10839, 0x1083b), (0x1083d, 0x1083e), (0x10856, 0x10856), (0x1089f, 0x108a6),
    (0x108b0, 0x108df), (0x108f3, 0x108f3), (0x108f6, 0x108fa), (0x1091c, 0x1091e),
    (0x1093a, 0x1093e), (0x1095a, 0x1097f), (0x109b8, 0x109bb), (0x109d0, 0x109d1),
    (0x10a04, 0x10a04), (0x10a07, 0x10a0b), (0x10a14, 0x10a14), (0x10a18, 0x10a18),
    (0x10a36, 0x10a37), (0x10a3b, 0x10a3e), (0x10a49, 0x10a4f), (0x10a59, 0x10a5f),
    (0x10aa0, 0x10abf), (0x10ae7, 0x10aea), (0x10af7, 0x10aff), (0x10b36, 0x10b38),
    (0x10b56, 0x10b57), (0x10b73, 0x10b77), (0x10b92, 0x10b98), (0x10b9d, 0x10ba8),
    (0x10bb0, 0x10bff), (0x10c49, 0x10c7f), (0x10cb3, 0x10cbf), (0x10cf3, 0x10cf9),
    (0x10d28, 0x10d2f), (0x10d3a, 0x10d3f), (0x10d66, 0x10d68), (0x10d86, 0x10d8d),
    (0x10d90, 0x10e5f), (0x10e7f, 0x10e7f), (0x10eaa, 0x10eaa), (0x10eae, 0x10eaf),
    (0x10eb2, 0x10ec1), (0x10ec8, 0x10ecf), (0x10ed9, 0x10ef9), (0x10f28, 0x10f2f),
    (0x10f5a, 0x10f6f), (0x10f8a, 0x10faf), (0x10fcc, 0x10fdf), (0x10ff7, 0x10fff),
    (0x1104e, 0x11051), (0x11076, 0x1107e), (0x110bd, 0x110bd), (0x110c3, 0x110cf),
    (0x110e9, 0x110ef), (0x110fa, 0x110ff), (0x11135, 0x11135), (0x11148, 0x1114f),
    (0x11177, 0x1117f), (0x111e0, 0x111e0), (0x111f5, 0x111ff), (0x11212, 0x11212),
    (0x11242, 0x1127f), (0x11287, 0x11287), (0x11289, 0x11289), (0x1128e, 0x1128e),
    (0x1129e, 0x1129e), (0x112aa, 0x112af), (0x112eb, 0x112ef), (0x112fa, 0x112ff),
    (0x11304, 0x11304), (0x1130d, 0x1130e), (0x11311, 0x11312), (0x11329, 0x11329),
    (0x11331, 0x11331), (0x11334, 0x11334), (0x1133a, 0x1133a), (0x11345, 0x11346),
    (0x11349, 0x1134a), (0x1134e, 0x1134f), (0x11351, 0x11356), (0x11358, 0x1135c),
    (0x11364, 0x11365), (0x1136d, 0x1136f), (0x11375, 0x1137f), (0x1138a, 0x1138a),
    (0x1138c, 0x1138d), (0x1138f, 0x1138f), (0x113b6, 0x113b6), (0x113c1, 0x113c1),
    (0x113c3, 0x113c4), (0x113c6, 0x113c6), (0x113cb, 0x113cb), (0x113d6, 0x113d6),
    (0x113d9, 0x113e0), (0x113e3, 0x113ff), (0x1145c, 0x1145c), (0x11462, 0x1147f),
    (0x114c8, 0x114cf), (0x114da, 0x1157f), (0x115b6, 0x115b7), (0x115de, 0x115ff),
    (0x11645, 0x1164f), (0x1165a, 0x1165f), (0x1166d, 0x1167f), (0x116ba, 0x116bf),
    (0x116ca, 0x116cf), (0x116e4, 0x116ff), (0x1171b, 0x1171c), (0x1172c, 0x1172f),
    (0x11747, 0x117ff), (0x1183c, 0x1189f), (0x118f3, 0x118fe), (0x11907, 0x11908),
    (0x1190a, 0x1190b), (0x11914, 0x11914), (0x11917, 0x11917), (0x11936, 0x11936),
    (0x11939, 0x1193a), (0x11947, 0x1194f), (0x1195a, 0x1199f), (0x119a8, 0x119a9),
    (0x119d8, 0x119d9), (0x119e5, 0x119ff) ]

private def refusedRanges3 : List (Nat × Nat) :=
  [
    (0x11a48, 0x11a4f), (0x11aa3, 0x11aaf), (0x11af9, 0x11aff), (0x11b0a, 0x11b5f),
    (0x11b68, 0x11bbf), (0x11be2, 0x11bef), (0x11bfa, 0x11bff), (0x11c09, 0x11c09),
    (0x11c37, 0x11c37), (0x11c46, 0x11c4f), (0x11c6d, 0x11c6f), (0x11c90, 0x11c91),
    (0x11ca8, 0x11ca8), (0x11cb7, 0x11cff), (0x11d07, 0x11d07), (0x11d0a, 0x11d0a),
    (0x11d37, 0x11d39), (0x11d3b, 0x11d3b), (0x11d3e, 0x11d3e), (0x11d48, 0x11d4f),
    (0x11d5a, 0x11d5f), (0x11d66, 0x11d66), (0x11d69, 0x11d69), (0x11d8f, 0x11d8f),
    (0x11d92, 0x11d92), (0x11d99, 0x11d9f), (0x11daa, 0x11daf), (0x11ddc, 0x11ddf),
    (0x11dea, 0x11edf), (0x11ef9, 0x11eff), (0x11f11, 0x11f11), (0x11f3b, 0x11f3d),
    (0x11f5b, 0x11faf), (0x11fb1, 0x11fbf), (0x11ff2, 0x11ffe), (0x1239a, 0x123ff),
    (0x1246f, 0x1246f), (0x12475, 0x1247f), (0x12544, 0x12f8f), (0x12ff3, 0x12fff),
    (0x13430, 0x1343f), (0x13456, 0x1345f), (0x143fb, 0x143ff), (0x14647, 0x160ff),
    (0x1613a, 0x167ff), (0x16a39, 0x16a3f), (0x16a5f, 0x16a5f), (0x16a6a, 0x16a6d),
    (0x16abf, 0x16abf), (0x16aca, 0x16acf), (0x16aee, 0x16aef), (0x16af6, 0x16aff),
    (0x16b46, 0x16b4f), (0x16b5a, 0x16b5a), (0x16b62, 0x16b62), (0x16b78, 0x16b7c),
    (0x16b90, 0x16d3f), (0x16d7a, 0x16e3f), (0x16e9b, 0x16e9f), (0x16eb9, 0x16eba),
    (0x16ed4, 0x16eff), (0x16f4b, 0x16f4e), (0x16f88, 0x16f8e), (0x16fa0, 0x16fdf),
    (0x16fe5, 0x16fef), (0x16ff7, 0x16fff), (0x18cd6, 0x18cfe), (0x18d1f, 0x18d7f),
    (0x18df3, 0x1afef), (0x1aff4, 0x1aff4), (0x1affc, 0x1affc), (0x1afff, 0x1afff),
    (0x1b123, 0x1b131), (0x1b133, 0x1b14f), (0x1b153, 0x1b154), (0x1b156, 0x1b163),
    (0x1b168, 0x1b16f), (0x1b2fc, 0x1bbff), (0x1bc6b, 0x1bc6f), (0x1bc7d, 0x1bc7f),
    (0x1bc89, 0x1bc8f), (0x1bc9a, 0x1bc9b), (0x1bca4, 0x1cbff), (0x1ccfd, 0x1ccff),
    (0x1ceb4, 0x1ceb9), (0x1ced1, 0x1cedf), (0x1cef1, 0x1ceff), (0x1cf2e, 0x1cf2f),
    (0x1cf47, 0x1cf4f), (0x1cfc4, 0x1cfff), (0x1d0f6, 0x1d0ff), (0x1d127, 0x1d128),
    (0x1d1eb, 0x1d1ff), (0x1d246, 0x1d2bf), (0x1d2d4, 0x1d2df), (0x1d2f4, 0x1d2ff),
    (0x1d357, 0x1d35f), (0x1d379, 0x1d3ff), (0x1d455, 0x1d455), (0x1d49d, 0x1d49d),
    (0x1d4a0, 0x1d4a1), (0x1d4a3, 0x1d4a4), (0x1d4a7, 0x1d4a8), (0x1d4ad, 0x1d4ad),
    (0x1d4ba, 0x1d4ba), (0x1d4bc, 0x1d4bc), (0x1d4c4, 0x1d4c4), (0x1d506, 0x1d506),
    (0x1d50b, 0x1d50c), (0x1d515, 0x1d515), (0x1d51d, 0x1d51d), (0x1d53a, 0x1d53a),
    (0x1d53f, 0x1d53f), (0x1d545, 0x1d545), (0x1d547, 0x1d549), (0x1d551, 0x1d551),
    (0x1d6a6, 0x1d6a7), (0x1d7cc, 0x1d7cd), (0x1da8c, 0x1da9a), (0x1daa0, 0x1daa0),
    (0x1dab0, 0x1deff), (0x1df1f, 0x1df24), (0x1df2b, 0x1dfff), (0x1e007, 0x1e007),
    (0x1e019, 0x1e01a), (0x1e022, 0x1e022), (0x1e025, 0x1e025), (0x1e02b, 0x1e02f),
    (0x1e06e, 0x1e08e), (0x1e090, 0x1e0ff), (0x1e12d, 0x1e12f), (0x1e13e, 0x1e13f),
    (0x1e14a, 0x1e14d), (0x1e150, 0x1e28f), (0x1e2af, 0x1e2bf), (0x1e2fa, 0x1e2fe),
    (0x1e300, 0x1e4cf), (0x1e4fa, 0x1e5cf), (0x1e5fb, 0x1e5fe), (0x1e600, 0x1e6bf),
    (0x1e6df, 0x1e6df), (0x1e6f6, 0x1e6fd), (0x1e700, 0x1e7df), (0x1e7e7, 0x1e7e7),
    (0x1e7ec, 0x1e7ec), (0x1e7ef, 0x1e7ef), (0x1e7ff, 0x1e7ff), (0x1e8c5, 0x1e8c6),
    (0x1e8d7, 0x1e8ff), (0x1e94c, 0x1e94f), (0x1e95a, 0x1e95d), (0x1e960, 0x1ec70),
    (0x1ecb5, 0x1ed00), (0x1ed3e, 0x1edff), (0x1ee04, 0x1ee04), (0x1ee20, 0x1ee20),
    (0x1ee23, 0x1ee23), (0x1ee25, 0x1ee26), (0x1ee28, 0x1ee28), (0x1ee33, 0x1ee33),
    (0x1ee38, 0x1ee38), (0x1ee3a, 0x1ee3a), (0x1ee3c, 0x1ee41), (0x1ee43, 0x1ee46),
    (0x1ee48, 0x1ee48), (0x1ee4a, 0x1ee4a), (0x1ee4c, 0x1ee4c), (0x1ee50, 0x1ee50),
    (0x1ee53, 0x1ee53), (0x1ee55, 0x1ee56), (0x1ee58, 0x1ee58), (0x1ee5a, 0x1ee5a),
    (0x1ee5c, 0x1ee5c), (0x1ee5e, 0x1ee5e), (0x1ee60, 0x1ee60), (0x1ee63, 0x1ee63),
    (0x1ee65, 0x1ee66), (0x1ee6b, 0x1ee6b), (0x1ee73, 0x1ee73), (0x1ee78, 0x1ee78),
    (0x1ee7d, 0x1ee7d), (0x1ee7f, 0x1ee7f), (0x1ee8a, 0x1ee8a), (0x1ee9c, 0x1eea0),
    (0x1eea4, 0x1eea4), (0x1eeaa, 0x1eeaa), (0x1eebc, 0x1eeef), (0x1eef2, 0x1efff),
    (0x1f02c, 0x1f02f), (0x1f094, 0x1f09f), (0x1f0af, 0x1f0b0), (0x1f0c0, 0x1f0c0),
    (0x1f0d0, 0x1f0d0), (0x1f0f6, 0x1f100), (0x1f1ae, 0x1f1e5), (0x1f203, 0x1f20f),
    (0x1f23c, 0x1f23f), (0x1f249, 0x1f24f), (0x1f252, 0x1f25f), (0x1f266, 0x1f2ff),
    (0x1f6d9, 0x1f6db), (0x1f6ed, 0x1f6ef), (0x1f6fd, 0x1f6ff), (0x1f7da, 0x1f7df),
    (0x1f7ec, 0x1f7ef), (0x1f7f1, 0x1f7ff), (0x1f80c, 0x1f80f), (0x1f848, 0x1f84f),
    (0x1f85a, 0x1f85f), (0x1f888, 0x1f88f), (0x1f8ae, 0x1f8af), (0x1f8bc, 0x1f8bf),
    (0x1f8c2, 0x1f8cf), (0x1f8d9, 0x1f8ff), (0x1fa58, 0x1fa5f), (0x1fa6e, 0x1fa6f),
    (0x1fa7d, 0x1fa7f), (0x1fa8b, 0x1fa8d), (0x1fac7, 0x1fac7), (0x1fac9, 0x1facc),
    (0x1fadd, 0x1fade), (0x1faeb, 0x1faee), (0x1faf9, 0x1faff), (0x1fb93, 0x1fb93),
    (0x1fbfb, 0x1ffff), (0x2a6e0, 0x2a6ff), (0x2b81e, 0x2b81f), (0x2ceae, 0x2ceaf),
    (0x2ebe1, 0x2ebef), (0x2ee5e, 0x2f7ff), (0x2fa1e, 0x2ffff), (0x3134b, 0x3134f),
    (0x3347a, 0xe00ff), (0xe01f0, 0x10ffff) ]

private def ignoredRanges : List (Nat × Nat) :=
  [
    (0xad, 0xad), (0x34f, 0x34f), (0x115f, 0x1160), (0x17b4, 0x17b5), (0x180b, 0x180f),
    (0x200b, 0x200b), (0x2060, 0x2064), (0x206a, 0x206f), (0x3164, 0x3164), (0xfe00, 0xfe0f),
    (0xfeff, 0xfeff), (0xffa0, 0xffa0), (0x1bca0, 0x1bca3), (0x1d173, 0x1d17a), (0xe0100, 0xe01ef) ]

/-- Characters that no name has. -/
def refused : List Text.Span :=
  Text.Span.ofRanges (refusedRanges1 ++ refusedRanges2 ++ refusedRanges3)

/-- Characters that are left out of a name. -/
def ignored : List Text.Span :=
  Text.Span.ofRanges ignoredRanges

/-! Characters of names that stand for one other character: capitals for small letters, and forms in
other widths, styles and positions for plain ones. Characters that composed text never holds are
not listed. -/

private def stepQuads1 : List (Nat × Nat × Nat × Nat) :=
  [
    (0x41, 0x5a, 1, 0x61), (0xa0, 0xa0, 1, 0x20), (0xaa, 0xaa, 1, 0x61), (0xb2, 0xb3, 1, 0x32),
    (0xb5, 0xb5, 1, 0x3bc), (0xb9, 0xb9, 1, 0x31), (0xba, 0xba, 1, 0x6f), (0xc0, 0xd6, 1, 0xe0),
    (0xd8, 0xde, 1, 0xf8), (0x100, 0x12e, 2, 0x101), (0x134, 0x136, 2, 0x135),
    (0x139, 0x13d, 2, 0x13a), (0x141, 0x147, 2, 0x142), (0x14a, 0x176, 2, 0x14b),
    (0x178, 0x178, 1, 0xff), (0x179, 0x17d, 2, 0x17a), (0x17f, 0x17f, 1, 0x73),
    (0x181, 0x181, 1, 0x253), (0x182, 0x184, 2, 0x183), (0x186, 0x186, 1, 0x254),
    (0x187, 0x187, 1, 0x188), (0x189, 0x18a, 1, 0x256), (0x18b, 0x18b, 1, 0x18c),
    (0x18e, 0x18e, 1, 0x1dd), (0x18f, 0x18f, 1, 0x259), (0x190, 0x190, 1, 0x25b),
    (0x191, 0x191, 1, 0x192), (0x193, 0x193, 1, 0x260), (0x194, 0x194, 1, 0x263),
    (0x196, 0x196, 1, 0x269), (0x197, 0x197, 1, 0x268), (0x198, 0x198, 1, 0x199),
    (0x19c, 0x19c, 1, 0x26f), (0x19d, 0x19d, 1, 0x272), (0x19f, 0x19f, 1, 0x275),
    (0x1a0, 0x1a4, 2, 0x1a1), (0x1a6, 0x1a6, 1, 0x280), (0x1a7, 0x1a7, 1, 0x1a8),
    (0x1a9, 0x1a9, 1, 0x283), (0x1ac, 0x1ac, 1, 0x1ad), (0x1ae, 0x1ae, 1, 0x288),
    (0x1af, 0x1af, 1, 0x1b0), (0x1b1, 0x1b2, 1, 0x28a), (0x1b3, 0x1b5, 2, 0x1b4),
    (0x1b7, 0x1b7, 1, 0x292), (0x1b8, 0x1b8, 1, 0x1b9), (0x1bc, 0x1bc, 1, 0x1bd),
    (0x1cd, 0x1db, 2, 0x1ce), (0x1de, 0x1ee, 2, 0x1df), (0x1f4, 0x1f4, 1, 0x1f5),
    (0x1f6, 0x1f6, 1, 0x195), (0x1f7, 0x1f7, 1, 0x1bf), (0x1f8, 0x21e, 2, 0x1f9),
    (0x220, 0x220, 1, 0x19e), (0x222, 0x232, 2, 0x223), (0x23a, 0x23a, 1, 0x2c65),
    (0x23b, 0x23b, 1, 0x23c), (0x23d, 0x23d, 1, 0x19a), (0x23e, 0x23e, 1, 0x2c66),
    (0x241, 0x241, 1, 0x242), (0x243, 0x243, 1, 0x180), (0x244, 0x244, 1, 0x289),
    (0x245, 0x245, 1, 0x28c), (0x246, 0x24e, 2, 0x247), (0x2b0, 0x2b0, 1, 0x68),
    (0x2b1, 0x2b1, 1, 0x266), (0x2b2, 0x2b2, 1, 0x6a), (0x2b3, 0x2b3, 1, 0x72),
    (0x2b4, 0x2b4, 1, 0x279), (0x2b5, 0x2b5, 1, 0x27b), (0x2b6, 0x2b6, 1, 0x281),
    (0x2b7, 0x2b7, 1, 0x77), (0x2b8, 0x2b8, 1, 0x79), (0x2e0, 0x2e0, 1, 0x263),
    (0x2e1, 0x2e1, 1, 0x6c), (0x2e2, 0x2e2, 1, 0x73), (0x2e3, 0x2e3, 1, 0x78),
    (0x2e4, 0x2e4, 1, 0x295), (0x345, 0x345, 1, 0x3b9), (0x370, 0x372, 2, 0x371),
    (0x376, 0x376, 1, 0x377), (0x37f, 0x37f, 1, 0x3f3), (0x386, 0x386, 1, 0x3ac),
    (0x388, 0x38a, 1, 0x3ad), (0x38c, 0x38c, 1, 0x3cc), (0x38e, 0x38f, 1, 0x3cd),
    (0x391, 0x3a1, 1, 0x3b1), (0x3a3, 0x3ab, 1, 0x3c3), (0x3cf, 0x3cf, 1, 0x3d7),
    (0x3d0, 0x3d0, 1, 0x3b2), (0x3d1, 0x3d1, 1, 0x3b8), (0x3d2, 0x3d2, 1, 0x3c5),
    (0x3d3, 0x3d3, 1, 0x3cd), (0x3d4, 0x3d4, 1, 0x3cb), (0x3d5, 0x3d5, 1, 0x3c6),
    (0x3d6, 0x3d6, 1, 0x3c0), (0x3d8, 0x3ee, 2, 0x3d9), (0x3f0, 0x3f0, 1, 0x3ba),
    (0x3f1, 0x3f1, 1, 0x3c1), (0x3f2, 0x3f2, 1, 0x3c3), (0x3f4, 0x3f4, 1, 0x3b8),
    (0x3f5, 0x3f5, 1, 0x3b5), (0x3f7, 0x3f7, 1, 0x3f8), (0x3f9, 0x3f9, 1, 0x3c3),
    (0x3fa, 0x3fa, 1, 0x3fb), (0x3fd, 0x3ff, 1, 0x37b), (0x400, 0x40f, 1, 0x450),
    (0x410, 0x42f, 1, 0x430), (0x460, 0x480, 2, 0x461), (0x48a, 0x4be, 2, 0x48b),
    (0x4c0, 0x4c0, 1, 0x4cf), (0x4c1, 0x4cd, 2, 0x4c2), (0x4d0, 0x52e, 2, 0x4d1),
    (0x531, 0x556, 1, 0x561), (0xf0c, 0xf0c, 1, 0xf0b), (0x10a0, 0x10c5, 1, 0x2d00),
    (0x10c7, 0x10c7, 1, 0x2d27), (0x10cd, 0x10cd, 1, 0x2d2d), (0x10fc, 0x10fc, 1, 0x10dc),
    (0x13f8, 0x13fd, 1, 0x13f0), (0x1c80, 0x1c80, 1, 0x432), (0x1c81, 0x1c81, 1, 0x434),
    (0x1c82, 0x1c82, 1, 0x43e), (0x1c83, 0x1c84, 1, 0x441), (0x1c85, 0x1c85, 1, 0x442),
    (0x1c86, 0x1c86, 1, 0x44a), (0x1c87, 0x1c87, 1, 0x463), (0x1c88, 0x1c88, 1, 0xa64b),
    (0x1c89, 0x1c89, 1, 0x1c8a), (0x1c90, 0x1cba, 1, 0x10d0), (0x1cbd, 0x1cbf, 1, 0x10fd),
    (0x1d2c, 0x1d2c, 1, 0x61), (0x1d2d, 0x1d2d, 1, 0xe6), (0x1d2e, 0x1d30, 2, 0x62),
    (0x1d31, 0x1d31, 1, 0x65), (0x1d32, 0x1d32, 1, 0x1dd), (0x1d33, 0x1d3a, 1, 0x67),
    (0x1d3c, 0x1d3c, 1, 0x6f), (0x1d3d, 0x1d3d, 1, 0x223), (0x1d3e, 0x1d3e, 1, 0x70),
    (0x1d3f, 0x1d3f, 1, 0x72), (0x1d40, 0x1d41, 1, 0x74), (0x1d42, 0x1d42, 1, 0x77),
    (0x1d43, 0x1d43, 1, 0x61), (0x1d44, 0x1d45, 1, 0x250), (0x1d46, 0x1d46, 1, 0x1d02),
    (0x1d47, 0x1d47, 1, 0x62), (0x1d48, 0x1d49, 1, 0x64), (0x1d4a, 0x1d4a, 1, 0x259),
    (0x1d4b, 0x1d4c, 1, 0x25b), (0x1d4d, 0x1d4d, 1, 0x67), (0x1d4f, 0x1d4f, 1, 0x6b),
    (0x1d50, 0x1d50, 1, 0x6d), (0x1d51, 0x1d51, 1, 0x14b), (0x1d52, 0x1d52, 1, 0x6f),
    (0x1d53, 0x1d53, 1, 0x254), (0x1d54, 0x1d55, 1, 0x1d16), (0x1d56, 0x1d56, 1, 0x70),
    (0x1d57, 0x1d58, 1, 0x74), (0x1d59, 0x1d59, 1, 0x1d1d), (0x1d5a, 0x1d5a, 1, 0x26f),
    (0x1d5b, 0x1d5b, 1, 0x76), (0x1d5c, 0x1d5c, 1, 0x1d25), (0x1d5d, 0x1d5f, 1, 0x3b2),
    (0x1d60, 0x1d61, 1, 0x3c6), (0x1d62, 0x1d62, 1, 0x69), (0x1d63, 0x1d63, 1, 0x72),
    (0x1d64, 0x1d65, 1, 0x75), (0x1d66, 0x1d67, 1, 0x3b2), (0x1d68, 0x1d68, 1, 0x3c1),
    (0x1d69, 0x1d6a, 1, 0x3c6), (0x1d78, 0x1d78, 1, 0x43d), (0x1d9b, 0x1d9b, 1, 0x252),
    (0x1d9c, 0x1d9c, 1, 0x63), (0x1d9d, 0x1d9d, 1, 0x255), (0x1d9e, 0x1d9e, 1, 0xf0),
    (0x1d9f, 0x1d9f, 1, 0x25c), (0x1da0, 0x1da0, 1, 0x66), (0x1da1, 0x1da1, 1, 0x25f),
    (0x1da2, 0x1da2, 1, 0x261), (0x1da3, 0x1da3, 1, 0x265), (0x1da4, 0x1da6, 1, 0x268),
    (0x1da7, 0x1da7, 1, 0x1d7b), (0x1da8, 0x1da8, 1, 0x29d), (0x1da9, 0x1da9, 1, 0x26d),
    (0x1daa, 0x1daa, 1, 0x1d85), (0x1dab, 0x1dab, 1, 0x29f), (0x1dac, 0x1dac, 1, 0x271),
    (0x1dad, 0x1dad, 1, 0x270), (0x1dae, 0x1db1, 1, 0x272), (0x1db2, 0x1db2, 1, 0x278),
    (0x1db3, 0x1db4, 1, 0x282), (0x1db5, 0x1db5, 1, 0x1ab), (0x1db6, 0x1db7, 1, 0x289),
    (0x1db8, 0x1db8, 1, 0x1d1c), (0x1db9, 0x1dba, 1, 0x28b), (0x1dbb, 0x1dbb, 1, 0x7a),
    (0x1dbc, 0x1dbe, 1, 0x290), (0x1dbf, 0x1dbf, 1, 0x3b8), (0x1e00, 0x1e94, 2, 0x1e01),
    (0x1e9b, 0x1e9b, 1, 0x1e61), (0x1e9e, 0x1e9e, 1, 0xdf), (0x1ea0, 0x1efe, 2, 0x1ea1),
    (0x1f08, 0x1f0f, 1, 0x1f00), (0x1f18, 0x1f1d, 1, 0x1f10), (0x1f28, 0x1f2f, 1, 0x1f20),
    (0x1f38, 0x1f3f, 1, 0x1f30), (0x1f48, 0x1f4d, 1, 0x1f40), (0x1f59, 0x1f5f, 2, 0x1f51),
    (0x1f68, 0x1f6f, 1, 0x1f60), (0x1fb8, 0x1fb9, 1, 0x1fb0), (0x1fba, 0x1fba, 1, 0x1f70),
    (0x1fbb, 0x1fbb, 1, 0x3ac), (0x1fc8, 0x1fc8, 1, 0x1f72), (0x1fc9, 0x1fc9, 1, 0x3ad),
    (0x1fca, 0x1fca, 1, 0x1f74), (0x1fcb, 0x1fcb, 1, 0x3ae), (0x1fd8, 0x1fd9, 1, 0x1fd0),
    (0x1fda, 0x1fda, 1, 0x1f76), (0x1fdb, 0x1fdb, 1, 0x3af), (0x1fe8, 0x1fe9, 1, 0x1fe0),
    (0x1fea, 0x1fea, 1, 0x1f7a), (0x1feb, 0x1feb, 1, 0x3cd), (0x1fec, 0x1fec, 1, 0x1fe5),
    (0x1ff8, 0x1ff8, 1, 0x1f78), (0x1ff9, 0x1ff9, 1, 0x3cc), (0x1ffa, 0x1ffa, 1, 0x1f7c),
    (0x1ffb, 0x1ffb, 1, 0x3ce), (0x2000, 0x2000, 1, 0x20), (0x2001, 0x2001, 1, 0x20),
    (0x2002, 0x2002, 1, 0x20), (0x2003, 0x2003, 1, 0x20), (0x2004, 0x2004, 1, 0x20),
    (0x2005, 0x2005, 1, 0x20), (0x2006, 0x2006, 1, 0x20), (0x2007, 0x2007, 1, 0x20),
    (0x2008, 0x2008, 1, 0x20), (0x2009, 0x2009, 1, 0x20), (0x200a, 0x200a, 1, 0x20),
    (0x2011, 0x2011, 1, 0x2010), (0x202f, 0x202f, 1, 0x20), (0x205f, 0x205f, 1, 0x20),
    (0x2070, 0x2070, 1, 0x30), (0x2071, 0x2071, 1, 0x69), (0x2074, 0x2079, 1, 0x34),
    (0x207a, 0x207a, 1, 0x2b), (0x207b, 0x207b, 1, 0x2212), (0x207c, 0x207c, 1, 0x3d),
    (0x207d, 0x207e, 1, 0x28), (0x207f, 0x207f, 1, 0x6e), (0x2080, 0x2089, 1, 0x30),
    (0x208a, 0x208a, 1, 0x2b), (0x208b, 0x208b, 1, 0x2212), (0x208c, 0x208c, 1, 0x3d),
    (0x208d, 0x208e, 1, 0x28), (0x2090, 0x2090, 1, 0x61) ]

private def stepQuads2 : List (Nat × Nat × Nat × Nat) :=
  [
    (0x2091, 0x2091, 1, 0x65), (0x2092, 0x2092, 1, 0x6f), (0x2093, 0x2093, 1, 0x78),
    (0x2094, 0x2094, 1, 0x259), (0x2095, 0x2095, 1, 0x68), (0x2096, 0x2099, 1, 0x6b),
    (0x209a, 0x209a, 1, 0x70), (0x209b, 0x209c, 1, 0x73), (0x2102, 0x2102, 1, 0x63),
    (0x2107, 0x2107, 1, 0x25b), (0x210a, 0x210b, 1, 0x67), (0x210c, 0x210c, 1, 0x68),
    (0x210d, 0x210d, 1, 0x68), (0x210e, 0x210e, 1, 0x68), (0x210f, 0x210f, 1, 0x127),
    (0x2110, 0x2110, 1, 0x69), (0x2111, 0x2111, 1, 0x69), (0x2112, 0x2112, 1, 0x6c),
    (0x2113, 0x2115, 2, 0x6c), (0x2119, 0x211b, 1, 0x70), (0x211c, 0x211c, 1, 0x72),
    (0x211d, 0x211d, 1, 0x72), (0x2124, 0x2124, 1, 0x7a), (0x2126, 0x2126, 1, 0x3c9),
    (0x2128, 0x2128, 1, 0x7a), (0x212a, 0x212a, 1, 0x6b), (0x212b, 0x212b, 1, 0xe5),
    (0x212c, 0x212d, 1, 0x62), (0x212f, 0x212f, 1, 0x65), (0x2130, 0x2131, 1, 0x65),
    (0x2132, 0x2132, 1, 0x214e), (0x2133, 0x2133, 1, 0x6d), (0x2134, 0x2134, 1, 0x6f),
    (0x2135, 0x2138, 1, 0x5d0), (0x2139, 0x2139, 1, 0x69), (0x213c, 0x213c, 1, 0x3c0),
    (0x213d, 0x213d, 1, 0x3b3), (0x213e, 0x213e, 1, 0x3b3), (0x213f, 0x213f, 1, 0x3c0),
    (0x2140, 0x2140, 1, 0x2211), (0x2145, 0x2145, 1, 0x64), (0x2146, 0x2147, 1, 0x64),
    (0x2148, 0x2149, 1, 0x69), (0x2160, 0x2160, 1, 0x69), (0x2164, 0x2164, 1, 0x76),
    (0x2169, 0x2169, 1, 0x78), (0x216c, 0x216c, 1, 0x6c), (0x216d, 0x216e, 1, 0x63),
    (0x216f, 0x216f, 1, 0x6d), (0x2170, 0x2170, 1, 0x69), (0x2174, 0x2174, 1, 0x76),
    (0x2179, 0x2179, 1, 0x78), (0x217c, 0x217c, 1, 0x6c), (0x217d, 0x217e, 1, 0x63),
    (0x217f, 0x217f, 1, 0x6d), (0x2183, 0x2183, 1, 0x2184), (0x2460, 0x2468, 1, 0x31),
    (0x24b6, 0x24cf, 1, 0x61), (0x24d0, 0x24e9, 1, 0x61), (0x24ea, 0x24ea, 1, 0x30),
    (0x2c00, 0x2c2f, 1, 0x2c30), (0x2c60, 0x2c60, 1, 0x2c61), (0x2c62, 0x2c62, 1, 0x26b),
    (0x2c63, 0x2c63, 1, 0x1d7d), (0x2c64, 0x2c64, 1, 0x27d), (0x2c67, 0x2c6b, 2, 0x2c68),
    (0x2c6d, 0x2c6d, 1, 0x251), (0x2c6e, 0x2c6e, 1, 0x271), (0x2c6f, 0x2c6f, 1, 0x250),
    (0x2c70, 0x2c70, 1, 0x252), (0x2c72, 0x2c72, 1, 0x2c73), (0x2c75, 0x2c75, 1, 0x2c76),
    (0x2c7c, 0x2c7c, 1, 0x6a), (0x2c7d, 0x2c7d, 1, 0x76), (0x2c7e, 0x2c7f, 1, 0x23f),
    (0x2c80, 0x2ce2, 2, 0x2c81), (0x2ceb, 0x2ced, 2, 0x2cec), (0x2cf2, 0x2cf2, 1, 0x2cf3),
    (0x2d6f, 0x2d6f, 1, 0x2d61), (0x2e9f, 0x2e9f, 1, 0x6bcd), (0x2ef3, 0x2ef3, 1, 0x9f9f),
    (0x2f00, 0x2f00, 1, 0x4e00), (0x2f01, 0x2f01, 1, 0x4e28), (0x2f02, 0x2f02, 1, 0x4e36),
    (0x2f03, 0x2f03, 1, 0x4e3f), (0x2f04, 0x2f04, 1, 0x4e59), (0x2f05, 0x2f05, 1, 0x4e85),
    (0x2f06, 0x2f06, 1, 0x4e8c), (0x2f07, 0x2f07, 1, 0x4ea0), (0x2f08, 0x2f08, 1, 0x4eba),
    (0x2f09, 0x2f09, 1, 0x513f), (0x2f0a, 0x2f0a, 1, 0x5165), (0x2f0b, 0x2f0b, 1, 0x516b),
    (0x2f0c, 0x2f0c, 1, 0x5182), (0x2f0d, 0x2f0d, 1, 0x5196), (0x2f0e, 0x2f0e, 1, 0x51ab),
    (0x2f0f, 0x2f0f, 1, 0x51e0), (0x2f10, 0x2f10, 1, 0x51f5), (0x2f11, 0x2f11, 1, 0x5200),
    (0x2f12, 0x2f12, 1, 0x529b), (0x2f13, 0x2f13, 1, 0x52f9), (0x2f14, 0x2f14, 1, 0x5315),
    (0x2f15, 0x2f15, 1, 0x531a), (0x2f16, 0x2f16, 1, 0x5338), (0x2f17, 0x2f17, 1, 0x5341),
    (0x2f18, 0x2f18, 1, 0x535c), (0x2f19, 0x2f19, 1, 0x5369), (0x2f1a, 0x2f1a, 1, 0x5382),
    (0x2f1b, 0x2f1b, 1, 0x53b6), (0x2f1c, 0x2f1c, 1, 0x53c8), (0x2f1d, 0x2f1d, 1, 0x53e3),
    (0x2f1e, 0x2f1e, 1, 0x56d7), (0x2f1f, 0x2f1f, 1, 0x571f), (0x2f20, 0x2f20, 1, 0x58eb),
    (0x2f21, 0x2f21, 1, 0x5902), (0x2f22, 0x2f22, 1, 0x590a), (0x2f23, 0x2f23, 1, 0x5915),
    (0x2f24, 0x2f24, 1, 0x5927), (0x2f25, 0x2f25, 1, 0x5973), (0x2f26, 0x2f26, 1, 0x5b50),
    (0x2f27, 0x2f27, 1, 0x5b80), (0x2f28, 0x2f28, 1, 0x5bf8), (0x2f29, 0x2f29, 1, 0x5c0f),
    (0x2f2a, 0x2f2a, 1, 0x5c22), (0x2f2b, 0x2f2b, 1, 0x5c38), (0x2f2c, 0x2f2c, 1, 0x5c6e),
    (0x2f2d, 0x2f2d, 1, 0x5c71), (0x2f2e, 0x2f2e, 1, 0x5ddb), (0x2f2f, 0x2f2f, 1, 0x5de5),
    (0x2f30, 0x2f30, 1, 0x5df1), (0x2f31, 0x2f31, 1, 0x5dfe), (0x2f32, 0x2f32, 1, 0x5e72),
    (0x2f33, 0x2f33, 1, 0x5e7a), (0x2f34, 0x2f34, 1, 0x5e7f), (0x2f35, 0x2f35, 1, 0x5ef4),
    (0x2f36, 0x2f36, 1, 0x5efe), (0x2f37, 0x2f37, 1, 0x5f0b), (0x2f38, 0x2f38, 1, 0x5f13),
    (0x2f39, 0x2f39, 1, 0x5f50), (0x2f3a, 0x2f3a, 1, 0x5f61), (0x2f3b, 0x2f3b, 1, 0x5f73),
    (0x2f3c, 0x2f3c, 1, 0x5fc3), (0x2f3d, 0x2f3d, 1, 0x6208), (0x2f3e, 0x2f3e, 1, 0x6236),
    (0x2f3f, 0x2f3f, 1, 0x624b), (0x2f40, 0x2f40, 1, 0x652f), (0x2f41, 0x2f41, 1, 0x6534),
    (0x2f42, 0x2f42, 1, 0x6587), (0x2f43, 0x2f43, 1, 0x6597), (0x2f44, 0x2f44, 1, 0x65a4),
    (0x2f45, 0x2f45, 1, 0x65b9), (0x2f46, 0x2f46, 1, 0x65e0), (0x2f47, 0x2f47, 1, 0x65e5),
    (0x2f48, 0x2f48, 1, 0x66f0), (0x2f49, 0x2f49, 1, 0x6708), (0x2f4a, 0x2f4a, 1, 0x6728),
    (0x2f4b, 0x2f4b, 1, 0x6b20), (0x2f4c, 0x2f4c, 1, 0x6b62), (0x2f4d, 0x2f4d, 1, 0x6b79),
    (0x2f4e, 0x2f4e, 1, 0x6bb3), (0x2f4f, 0x2f4f, 1, 0x6bcb), (0x2f50, 0x2f50, 1, 0x6bd4),
    (0x2f51, 0x2f51, 1, 0x6bdb), (0x2f52, 0x2f52, 1, 0x6c0f), (0x2f53, 0x2f53, 1, 0x6c14),
    (0x2f54, 0x2f54, 1, 0x6c34), (0x2f55, 0x2f55, 1, 0x706b), (0x2f56, 0x2f56, 1, 0x722a),
    (0x2f57, 0x2f57, 1, 0x7236), (0x2f58, 0x2f58, 1, 0x723b), (0x2f59, 0x2f59, 1, 0x723f),
    (0x2f5a, 0x2f5a, 1, 0x7247), (0x2f5b, 0x2f5b, 1, 0x7259), (0x2f5c, 0x2f5c, 1, 0x725b),
    (0x2f5d, 0x2f5d, 1, 0x72ac), (0x2f5e, 0x2f5e, 1, 0x7384), (0x2f5f, 0x2f5f, 1, 0x7389),
    (0x2f60, 0x2f60, 1, 0x74dc), (0x2f61, 0x2f61, 1, 0x74e6), (0x2f62, 0x2f62, 1, 0x7518),
    (0x2f63, 0x2f63, 1, 0x751f), (0x2f64, 0x2f64, 1, 0x7528), (0x2f65, 0x2f65, 1, 0x7530),
    (0x2f66, 0x2f66, 1, 0x758b), (0x2f67, 0x2f67, 1, 0x7592), (0x2f68, 0x2f68, 1, 0x7676),
    (0x2f69, 0x2f69, 1, 0x767d), (0x2f6a, 0x2f6a, 1, 0x76ae), (0x2f6b, 0x2f6b, 1, 0x76bf),
    (0x2f6c, 0x2f6c, 1, 0x76ee), (0x2f6d, 0x2f6d, 1, 0x77db), (0x2f6e, 0x2f6e, 1, 0x77e2),
    (0x2f6f, 0x2f6f, 1, 0x77f3), (0x2f70, 0x2f70, 1, 0x793a), (0x2f71, 0x2f71, 1, 0x79b8),
    (0x2f72, 0x2f72, 1, 0x79be), (0x2f73, 0x2f73, 1, 0x7a74), (0x2f74, 0x2f74, 1, 0x7acb),
    (0x2f75, 0x2f75, 1, 0x7af9), (0x2f76, 0x2f76, 1, 0x7c73), (0x2f77, 0x2f77, 1, 0x7cf8),
    (0x2f78, 0x2f78, 1, 0x7f36), (0x2f79, 0x2f79, 1, 0x7f51), (0x2f7a, 0x2f7a, 1, 0x7f8a),
    (0x2f7b, 0x2f7b, 1, 0x7fbd), (0x2f7c, 0x2f7c, 1, 0x8001), (0x2f7d, 0x2f7d, 1, 0x800c),
    (0x2f7e, 0x2f7e, 1, 0x8012), (0x2f7f, 0x2f7f, 1, 0x8033), (0x2f80, 0x2f80, 1, 0x807f),
    (0x2f81, 0x2f81, 1, 0x8089), (0x2f82, 0x2f82, 1, 0x81e3), (0x2f83, 0x2f83, 1, 0x81ea),
    (0x2f84, 0x2f84, 1, 0x81f3), (0x2f85, 0x2f85, 1, 0x81fc), (0x2f86, 0x2f86, 1, 0x820c),
    (0x2f87, 0x2f87, 1, 0x821b), (0x2f88, 0x2f88, 1, 0x821f), (0x2f89, 0x2f89, 1, 0x826e),
    (0x2f8a, 0x2f8a, 1, 0x8272), (0x2f8b, 0x2f8b, 1, 0x8278), (0x2f8c, 0x2f8c, 1, 0x864d),
    (0x2f8d, 0x2f8d, 1, 0x866b), (0x2f8e, 0x2f8e, 1, 0x8840), (0x2f8f, 0x2f8f, 1, 0x884c),
    (0x2f90, 0x2f90, 1, 0x8863), (0x2f91, 0x2f91, 1, 0x897e), (0x2f92, 0x2f92, 1, 0x898b),
    (0x2f93, 0x2f93, 1, 0x89d2), (0x2f94, 0x2f94, 1, 0x8a00), (0x2f95, 0x2f95, 1, 0x8c37),
    (0x2f96, 0x2f96, 1, 0x8c46), (0x2f97, 0x2f97, 1, 0x8c55), (0x2f98, 0x2f98, 1, 0x8c78),
    (0x2f99, 0x2f99, 1, 0x8c9d), (0x2f9a, 0x2f9a, 1, 0x8d64), (0x2f9b, 0x2f9b, 1, 0x8d70),
    (0x2f9c, 0x2f9c, 1, 0x8db3), (0x2f9d, 0x2f9d, 1, 0x8eab), (0x2f9e, 0x2f9e, 1, 0x8eca),
    (0x2f9f, 0x2f9f, 1, 0x8f9b), (0x2fa0, 0x2fa0, 1, 0x8fb0), (0x2fa1, 0x2fa1, 1, 0x8fb5),
    (0x2fa2, 0x2fa2, 1, 0x9091), (0x2fa3, 0x2fa3, 1, 0x9149), (0x2fa4, 0x2fa4, 1, 0x91c6),
    (0x2fa5, 0x2fa5, 1, 0x91cc), (0x2fa6, 0x2fa6, 1, 0x91d1), (0x2fa7, 0x2fa7, 1, 0x9577),
    (0x2fa8, 0x2fa8, 1, 0x9580), (0x2fa9, 0x2fa9, 1, 0x961c), (0x2faa, 0x2faa, 1, 0x96b6),
    (0x2fab, 0x2fab, 1, 0x96b9), (0x2fac, 0x2fac, 1, 0x96e8), (0x2fad, 0x2fad, 1, 0x9751),
    (0x2fae, 0x2fae, 1, 0x975e) ]

private def stepQuads3 : List (Nat × Nat × Nat × Nat) :=
  [
    (0x2faf, 0x2faf, 1, 0x9762), (0x2fb0, 0x2fb0, 1, 0x9769), (0x2fb1, 0x2fb1, 1, 0x97cb),
    (0x2fb2, 0x2fb2, 1, 0x97ed), (0x2fb3, 0x2fb3, 1, 0x97f3), (0x2fb4, 0x2fb4, 1, 0x9801),
    (0x2fb5, 0x2fb5, 1, 0x98a8), (0x2fb6, 0x2fb6, 1, 0x98db), (0x2fb7, 0x2fb7, 1, 0x98df),
    (0x2fb8, 0x2fb8, 1, 0x9996), (0x2fb9, 0x2fb9, 1, 0x9999), (0x2fba, 0x2fba, 1, 0x99ac),
    (0x2fbb, 0x2fbb, 1, 0x9aa8), (0x2fbc, 0x2fbc, 1, 0x9ad8), (0x2fbd, 0x2fbd, 1, 0x9adf),
    (0x2fbe, 0x2fbe, 1, 0x9b25), (0x2fbf, 0x2fbf, 1, 0x9b2f), (0x2fc0, 0x2fc0, 1, 0x9b32),
    (0x2fc1, 0x2fc1, 1, 0x9b3c), (0x2fc2, 0x2fc2, 1, 0x9b5a), (0x2fc3, 0x2fc3, 1, 0x9ce5),
    (0x2fc4, 0x2fc4, 1, 0x9e75), (0x2fc5, 0x2fc5, 1, 0x9e7f), (0x2fc6, 0x2fc6, 1, 0x9ea5),
    (0x2fc7, 0x2fc7, 1, 0x9ebb), (0x2fc8, 0x2fc8, 1, 0x9ec3), (0x2fc9, 0x2fc9, 1, 0x9ecd),
    (0x2fca, 0x2fca, 1, 0x9ed1), (0x2fcb, 0x2fcb, 1, 0x9ef9), (0x2fcc, 0x2fcc, 1, 0x9efd),
    (0x2fcd, 0x2fcd, 1, 0x9f0e), (0x2fce, 0x2fce, 1, 0x9f13), (0x2fcf, 0x2fcf, 1, 0x9f20),
    (0x2fd0, 0x2fd0, 1, 0x9f3b), (0x2fd1, 0x2fd1, 1, 0x9f4a), (0x2fd2, 0x2fd2, 1, 0x9f52),
    (0x2fd3, 0x2fd3, 1, 0x9f8d), (0x2fd4, 0x2fd4, 1, 0x9f9c), (0x2fd5, 0x2fd5, 1, 0x9fa0),
    (0x3000, 0x3000, 1, 0x20), (0x3002, 0x3002, 1, 0x2e), (0x3036, 0x3036, 1, 0x3012),
    (0x3038, 0x3038, 1, 0x5341), (0x3039, 0x303a, 1, 0x5344), (0x3131, 0x3132, 1, 0x1100),
    (0x3133, 0x3133, 1, 0x11aa), (0x3134, 0x3134, 1, 0x1102), (0x3135, 0x3136, 1, 0x11ac),
    (0x3137, 0x3139, 1, 0x1103), (0x313a, 0x313f, 1, 0x11b0), (0x3140, 0x3140, 1, 0x111a),
    (0x3141, 0x3143, 1, 0x1106), (0x3144, 0x3144, 1, 0x1121), (0x3145, 0x314e, 1, 0x1109),
    (0x314f, 0x3163, 1, 0x1161), (0x3165, 0x3166, 1, 0x1114), (0x3167, 0x3168, 1, 0x11c7),
    (0x3169, 0x3169, 1, 0x11cc), (0x316a, 0x316a, 1, 0x11ce), (0x316b, 0x316b, 1, 0x11d3),
    (0x316c, 0x316c, 1, 0x11d7), (0x316d, 0x316d, 1, 0x11d9), (0x316e, 0x316e, 1, 0x111c),
    (0x316f, 0x316f, 1, 0x11dd), (0x3170, 0x3170, 1, 0x11df), (0x3171, 0x3172, 1, 0x111d),
    (0x3173, 0x3173, 1, 0x1120), (0x3174, 0x3175, 1, 0x1122), (0x3176, 0x3176, 1, 0x1127),
    (0x3177, 0x3177, 1, 0x1129), (0x3178, 0x317c, 1, 0x112b), (0x317d, 0x317d, 1, 0x1132),
    (0x317e, 0x317e, 1, 0x1136), (0x317f, 0x317f, 1, 0x1140), (0x3180, 0x3180, 1, 0x1147),
    (0x3181, 0x3181, 1, 0x114c), (0x3182, 0x3183, 1, 0x11f1), (0x3184, 0x3186, 1, 0x1157),
    (0x3187, 0x3188, 1, 0x1184), (0x3189, 0x3189, 1, 0x1188), (0x318a, 0x318b, 1, 0x1191),
    (0x318c, 0x318c, 1, 0x1194), (0x318d, 0x318d, 1, 0x119e), (0x318e, 0x318e, 1, 0x11a1),
    (0x3192, 0x3192, 1, 0x4e00), (0x3193, 0x3193, 1, 0x4e8c), (0x3194, 0x3194, 1, 0x4e09),
    (0x3195, 0x3195, 1, 0x56db), (0x3196, 0x3196, 1, 0x4e0a), (0x3197, 0x3197, 1, 0x4e2d),
    (0x3198, 0x3198, 1, 0x4e0b), (0x3199, 0x3199, 1, 0x7532), (0x319a, 0x319a, 1, 0x4e59),
    (0x319b, 0x319b, 1, 0x4e19), (0x319c, 0x319c, 1, 0x4e01), (0x319d, 0x319d, 1, 0x5929),
    (0x319e, 0x319e, 1, 0x5730), (0x319f, 0x319f, 1, 0x4eba), (0x3244, 0x3244, 1, 0x554f),
    (0x3245, 0x3245, 1, 0x5e7c), (0x3246, 0x3246, 1, 0x6587), (0x3247, 0x3247, 1, 0x7b8f),
    (0x3260, 0x3260, 1, 0x1100), (0x3261, 0x3262, 1, 0x1102), (0x3263, 0x3265, 1, 0x1105),
    (0x3266, 0x3266, 1, 0x1109), (0x3267, 0x3268, 1, 0x110b), (0x3269, 0x326d, 1, 0x110e),
    (0x326e, 0x326e, 1, 0xac00), (0x326f, 0x326f, 1, 0xb098), (0x3270, 0x3270, 1, 0xb2e4),
    (0x3271, 0x3271, 1, 0xb77c), (0x3272, 0x3272, 1, 0xb9c8), (0x3273, 0x3273, 1, 0xbc14),
    (0x3274, 0x3274, 1, 0xc0ac), (0x3275, 0x3275, 1, 0xc544), (0x3276, 0x3276, 1, 0xc790),
    (0x3277, 0x3277, 1, 0xcc28), (0x3278, 0x3278, 1, 0xce74), (0x3279, 0x3279, 1, 0xd0c0),
    (0x327a, 0x327a, 1, 0xd30c), (0x327b, 0x327b, 1, 0xd558), (0x327e, 0x327e, 1, 0xc6b0),
    (0x3280, 0x3280, 1, 0x4e00), (0x3281, 0x3281, 1, 0x4e8c), (0x3282, 0x3282, 1, 0x4e09),
    (0x3283, 0x3283, 1, 0x56db), (0x3284, 0x3284, 1, 0x4e94), (0x3285, 0x3285, 1, 0x516d),
    (0x3286, 0x3286, 1, 0x4e03), (0x3287, 0x3287, 1, 0x516b), (0x3288, 0x3288, 1, 0x4e5d),
    (0x3289, 0x3289, 1, 0x5341), (0x328a, 0x328a, 1, 0x6708), (0x328b, 0x328b, 1, 0x706b),
    (0x328c, 0x328c, 1, 0x6c34), (0x328d, 0x328d, 1, 0x6728), (0x328e, 0x328e, 1, 0x91d1),
    (0x328f, 0x328f, 1, 0x571f), (0x3290, 0x3290, 1, 0x65e5), (0x3291, 0x3291, 1, 0x682a),
    (0x3292, 0x3292, 1, 0x6709), (0x3293, 0x3293, 1, 0x793e), (0x3294, 0x3294, 1, 0x540d),
    (0x3295, 0x3295, 1, 0x7279), (0x3296, 0x3296, 1, 0x8ca1), (0x3297, 0x3297, 1, 0x795d),
    (0x3298, 0x3298, 1, 0x52b4), (0x3299, 0x3299, 1, 0x79d8), (0x329a, 0x329a, 1, 0x7537),
    (0x329b, 0x329b, 1, 0x5973), (0x329c, 0x329c, 1, 0x9069), (0x329d, 0x329d, 1, 0x512a),
    (0x329e, 0x329e, 1, 0x5370), (0x329f, 0x329f, 1, 0x6ce8), (0x32a0, 0x32a0, 1, 0x9805),
    (0x32a1, 0x32a1, 1, 0x4f11), (0x32a2, 0x32a2, 1, 0x5199), (0x32a3, 0x32a3, 1, 0x6b63),
    (0x32a4, 0x32a4, 1, 0x4e0a), (0x32a5, 0x32a5, 1, 0x4e2d), (0x32a6, 0x32a6, 1, 0x4e0b),
    (0x32a7, 0x32a7, 1, 0x5de6), (0x32a8, 0x32a8, 1, 0x53f3), (0x32a9, 0x32a9, 1, 0x533b),
    (0x32aa, 0x32aa, 1, 0x5b97), (0x32ab, 0x32ab, 1, 0x5b66), (0x32ac, 0x32ac, 1, 0x76e3),
    (0x32ad, 0x32ad, 1, 0x4f01), (0x32ae, 0x32ae, 1, 0x8cc7), (0x32af, 0x32af, 1, 0x5354),
    (0x32b0, 0x32b0, 1, 0x591c), (0x32d0, 0x32d0, 1, 0x30a2), (0x32d1, 0x32d1, 1, 0x30a4),
    (0x32d2, 0x32d2, 1, 0x30a6), (0x32d3, 0x32d3, 1, 0x30a8), (0x32d4, 0x32d5, 1, 0x30aa),
    (0x32d6, 0x32d6, 1, 0x30ad), (0x32d7, 0x32d7, 1, 0x30af), (0x32d8, 0x32d8, 1, 0x30b1),
    (0x32d9, 0x32d9, 1, 0x30b3), (0x32da, 0x32da, 1, 0x30b5), (0x32db, 0x32db, 1, 0x30b7),
    (0x32dc, 0x32dc, 1, 0x30b9), (0x32dd, 0x32dd, 1, 0x30bb), (0x32de, 0x32de, 1, 0x30bd),
    (0x32df, 0x32df, 1, 0x30bf), (0x32e0, 0x32e0, 1, 0x30c1), (0x32e1, 0x32e1, 1, 0x30c4),
    (0x32e2, 0x32e2, 1, 0x30c6), (0x32e3, 0x32e3, 1, 0x30c8), (0x32e4, 0x32e9, 1, 0x30ca),
    (0x32ea, 0x32ea, 1, 0x30d2), (0x32eb, 0x32eb, 1, 0x30d5), (0x32ec, 0x32ec, 1, 0x30d8),
    (0x32ed, 0x32ed, 1, 0x30db), (0x32ee, 0x32f2, 1, 0x30de), (0x32f3, 0x32f3, 1, 0x30e4),
    (0x32f4, 0x32f4, 1, 0x30e6), (0x32f5, 0x32fa, 1, 0x30e8), (0x32fb, 0x32fe, 1, 0x30ef),
    (0xa640, 0xa66c, 2, 0xa641), (0xa680, 0xa69a, 2, 0xa681), (0xa69c, 0xa69c, 1, 0x44a),
    (0xa69d, 0xa69d, 1, 0x44c), (0xa722, 0xa72e, 2, 0xa723), (0xa732, 0xa76e, 2, 0xa733),
    (0xa770, 0xa770, 1, 0xa76f), (0xa779, 0xa77b, 2, 0xa77a), (0xa77d, 0xa77d, 1, 0x1d79),
    (0xa77e, 0xa786, 2, 0xa77f), (0xa78b, 0xa78b, 1, 0xa78c), (0xa78d, 0xa78d, 1, 0x265),
    (0xa790, 0xa792, 2, 0xa791), (0xa796, 0xa7a8, 2, 0xa797), (0xa7aa, 0xa7aa, 1, 0x266),
    (0xa7ab, 0xa7ab, 1, 0x25c), (0xa7ac, 0xa7ac, 1, 0x261), (0xa7ad, 0xa7ad, 1, 0x26c),
    (0xa7ae, 0xa7ae, 1, 0x26a), (0xa7b0, 0xa7b0, 1, 0x29e), (0xa7b1, 0xa7b1, 1, 0x287),
    (0xa7b2, 0xa7b2, 1, 0x29d), (0xa7b3, 0xa7b3, 1, 0xab53), (0xa7b4, 0xa7c2, 2, 0xa7b5),
    (0xa7c4, 0xa7c4, 1, 0xa794), (0xa7c5, 0xa7c5, 1, 0x282), (0xa7c6, 0xa7c6, 1, 0x1d8e),
    (0xa7c7, 0xa7c9, 2, 0xa7c8), (0xa7cb, 0xa7cb, 1, 0x264), (0xa7cc, 0xa7da, 2, 0xa7cd),
    (0xa7dc, 0xa7dc, 1, 0x19b), (0xa7f1, 0xa7f1, 1, 0x73), (0xa7f2, 0xa7f2, 1, 0x63),
    (0xa7f3, 0xa7f3, 1, 0x66), (0xa7f4, 0xa7f4, 1, 0x71), (0xa7f5, 0xa7f5, 1, 0xa7f6),
    (0xa7f8, 0xa7f8, 1, 0x127), (0xa7f9, 0xa7f9, 1, 0x153), (0xab5c, 0xab5c, 1, 0xa727),
    (0xab5d, 0xab5d, 1, 0xab37), (0xab5e, 0xab5e, 1, 0x26b), (0xab5f, 0xab5f, 1, 0xab52),
    (0xab69, 0xab69, 1, 0x28d), (0xab70, 0xabbf, 1, 0x13a0), (0xfb20, 0xfb20, 1, 0x5e2),
    (0xfb21, 0xfb21, 1, 0x5d0), (0xfb22, 0xfb23, 1, 0x5d3), (0xfb24, 0xfb26, 1, 0x5db),
    (0xfb27, 0xfb27, 1, 0x5e8), (0xfb28, 0xfb28, 1, 0x5ea), (0xfb29, 0xfb29, 1, 0x2b),
    (0xfb50, 0xfb50, 1, 0x671), (0xfb51, 0xfb51, 1, 0x671), (0xfb52, 0xfb52, 1, 0x67b),
    (0xfb53, 0xfb53, 1, 0x67b) ]

private def stepQuads4 : List (Nat × Nat × Nat × Nat) :=
  [
    (0xfb54, 0xfb54, 1, 0x67b), (0xfb55, 0xfb55, 1, 0x67b), (0xfb56, 0xfb56, 1, 0x67e),
    (0xfb57, 0xfb57, 1, 0x67e), (0xfb58, 0xfb58, 1, 0x67e), (0xfb59, 0xfb59, 1, 0x67e),
    (0xfb5a, 0xfb5a, 1, 0x680), (0xfb5b, 0xfb5b, 1, 0x680), (0xfb5c, 0xfb5c, 1, 0x680),
    (0xfb5d, 0xfb5d, 1, 0x680), (0xfb5e, 0xfb5e, 1, 0x67a), (0xfb5f, 0xfb5f, 1, 0x67a),
    (0xfb60, 0xfb60, 1, 0x67a), (0xfb61, 0xfb61, 1, 0x67a), (0xfb62, 0xfb62, 1, 0x67f),
    (0xfb63, 0xfb63, 1, 0x67f), (0xfb64, 0xfb64, 1, 0x67f), (0xfb65, 0xfb65, 1, 0x67f),
    (0xfb66, 0xfb66, 1, 0x679), (0xfb67, 0xfb67, 1, 0x679), (0xfb68, 0xfb68, 1, 0x679),
    (0xfb69, 0xfb69, 1, 0x679), (0xfb6a, 0xfb6a, 1, 0x6a4), (0xfb6b, 0xfb6b, 1, 0x6a4),
    (0xfb6c, 0xfb6c, 1, 0x6a4), (0xfb6d, 0xfb6d, 1, 0x6a4), (0xfb6e, 0xfb6e, 1, 0x6a6),
    (0xfb6f, 0xfb6f, 1, 0x6a6), (0xfb70, 0xfb70, 1, 0x6a6), (0xfb71, 0xfb71, 1, 0x6a6),
    (0xfb72, 0xfb72, 1, 0x684), (0xfb73, 0xfb73, 1, 0x684), (0xfb74, 0xfb74, 1, 0x684),
    (0xfb75, 0xfb75, 1, 0x684), (0xfb76, 0xfb76, 1, 0x683), (0xfb77, 0xfb77, 1, 0x683),
    (0xfb78, 0xfb78, 1, 0x683), (0xfb79, 0xfb79, 1, 0x683), (0xfb7a, 0xfb7a, 1, 0x686),
    (0xfb7b, 0xfb7b, 1, 0x686), (0xfb7c, 0xfb7c, 1, 0x686), (0xfb7d, 0xfb7e, 1, 0x686),
    (0xfb7f, 0xfb7f, 1, 0x687), (0xfb80, 0xfb80, 1, 0x687), (0xfb81, 0xfb81, 1, 0x687),
    (0xfb82, 0xfb82, 1, 0x68d), (0xfb83, 0xfb83, 1, 0x68d), (0xfb84, 0xfb84, 1, 0x68c),
    (0xfb85, 0xfb85, 1, 0x68c), (0xfb86, 0xfb86, 1, 0x68e), (0xfb87, 0xfb87, 1, 0x68e),
    (0xfb88, 0xfb88, 1, 0x688), (0xfb89, 0xfb89, 1, 0x688), (0xfb8a, 0xfb8a, 1, 0x698),
    (0xfb8b, 0xfb8b, 1, 0x698), (0xfb8c, 0xfb8c, 1, 0x691), (0xfb8d, 0xfb8d, 1, 0x691),
    (0xfb8e, 0xfb8e, 1, 0x6a9), (0xfb8f, 0xfb8f, 1, 0x6a9), (0xfb90, 0xfb90, 1, 0x6a9),
    (0xfb91, 0xfb91, 1, 0x6a9), (0xfb92, 0xfb92, 1, 0x6af), (0xfb93, 0xfb93, 1, 0x6af),
    (0xfb94, 0xfb94, 1, 0x6af), (0xfb95, 0xfb95, 1, 0x6af), (0xfb96, 0xfb96, 1, 0x6b3),
    (0xfb97, 0xfb97, 1, 0x6b3), (0xfb98, 0xfb98, 1, 0x6b3), (0xfb99, 0xfb99, 1, 0x6b3),
    (0xfb9a, 0xfb9a, 1, 0x6b1), (0xfb9b, 0xfb9b, 1, 0x6b1), (0xfb9c, 0xfb9c, 1, 0x6b1),
    (0xfb9d, 0xfb9d, 1, 0x6b1), (0xfb9e, 0xfb9e, 1, 0x6ba), (0xfb9f, 0xfba0, 1, 0x6ba),
    (0xfba1, 0xfba1, 1, 0x6bb), (0xfba2, 0xfba2, 1, 0x6bb), (0xfba3, 0xfba3, 1, 0x6bb),
    (0xfba4, 0xfba4, 1, 0x6c0), (0xfba5, 0xfba6, 1, 0x6c0), (0xfba7, 0xfba7, 1, 0x6c1),
    (0xfba8, 0xfba8, 1, 0x6c1), (0xfba9, 0xfba9, 1, 0x6c1), (0xfbaa, 0xfbaa, 1, 0x6be),
    (0xfbab, 0xfbab, 1, 0x6be), (0xfbac, 0xfbac, 1, 0x6be), (0xfbad, 0xfbad, 1, 0x6be),
    (0xfbae, 0xfbae, 1, 0x6d2), (0xfbaf, 0xfbb0, 1, 0x6d2), (0xfbb1, 0xfbb1, 1, 0x6d3),
    (0xfbd3, 0xfbd3, 1, 0x6ad), (0xfbd4, 0xfbd4, 1, 0x6ad), (0xfbd5, 0xfbd5, 1, 0x6ad),
    (0xfbd6, 0xfbd6, 1, 0x6ad), (0xfbd7, 0xfbd7, 1, 0x6c7), (0xfbd8, 0xfbd8, 1, 0x6c7),
    (0xfbd9, 0xfbd9, 1, 0x6c6), (0xfbda, 0xfbda, 1, 0x6c6), (0xfbdb, 0xfbdb, 1, 0x6c8),
    (0xfbdc, 0xfbdc, 1, 0x6c8), (0xfbde, 0xfbde, 1, 0x6cb), (0xfbdf, 0xfbdf, 1, 0x6cb),
    (0xfbe0, 0xfbe0, 1, 0x6c5), (0xfbe1, 0xfbe1, 1, 0x6c5), (0xfbe2, 0xfbe2, 1, 0x6c9),
    (0xfbe3, 0xfbe3, 1, 0x6c9), (0xfbe4, 0xfbe4, 1, 0x6d0), (0xfbe5, 0xfbe5, 1, 0x6d0),
    (0xfbe6, 0xfbe6, 1, 0x6d0), (0xfbe7, 0xfbe7, 1, 0x6d0), (0xfbe8, 0xfbe8, 1, 0x649),
    (0xfbe9, 0xfbe9, 1, 0x649), (0xfbfc, 0xfbfc, 1, 0x6cc), (0xfbfd, 0xfbfd, 1, 0x6cc),
    (0xfbfe, 0xfbfe, 1, 0x6cc), (0xfbff, 0xfbff, 1, 0x6cc), (0xfe10, 0xfe10, 1, 0x2c),
    (0xfe11, 0xfe11, 1, 0x3001), (0xfe13, 0xfe14, 1, 0x3a), (0xfe15, 0xfe15, 1, 0x21),
    (0xfe16, 0xfe16, 1, 0x3f), (0xfe17, 0xfe18, 1, 0x3016), (0xfe31, 0xfe31, 1, 0x2014),
    (0xfe32, 0xfe32, 1, 0x2013), (0xfe33, 0xfe33, 1, 0x5f), (0xfe34, 0xfe34, 1, 0x5f),
    (0xfe35, 0xfe36, 1, 0x28), (0xfe37, 0xfe37, 1, 0x7b), (0xfe38, 0xfe38, 1, 0x7d),
    (0xfe39, 0xfe3a, 1, 0x3014), (0xfe3b, 0xfe3c, 1, 0x3010), (0xfe3d, 0xfe3e, 1, 0x300a),
    (0xfe3f, 0xfe40, 1, 0x3008), (0xfe41, 0xfe44, 1, 0x300c), (0xfe47, 0xfe47, 1, 0x5b),
    (0xfe48, 0xfe48, 1, 0x5d), (0xfe4d, 0xfe4d, 1, 0x5f), (0xfe4e, 0xfe4e, 1, 0x5f),
    (0xfe4f, 0xfe4f, 1, 0x5f), (0xfe50, 0xfe50, 1, 0x2c), (0xfe51, 0xfe51, 1, 0x3001),
    (0xfe54, 0xfe54, 1, 0x3b), (0xfe55, 0xfe55, 1, 0x3a), (0xfe56, 0xfe56, 1, 0x3f),
    (0xfe57, 0xfe57, 1, 0x21), (0xfe58, 0xfe58, 1, 0x2014), (0xfe59, 0xfe5a, 1, 0x28),
    (0xfe5b, 0xfe5b, 1, 0x7b), (0xfe5c, 0xfe5c, 1, 0x7d), (0xfe5d, 0xfe5e, 1, 0x3014),
    (0xfe5f, 0xfe5f, 1, 0x23), (0xfe60, 0xfe60, 1, 0x26), (0xfe61, 0xfe62, 1, 0x2a),
    (0xfe63, 0xfe63, 1, 0x2d), (0xfe64, 0xfe64, 1, 0x3c), (0xfe65, 0xfe65, 1, 0x3e),
    (0xfe66, 0xfe66, 1, 0x3d), (0xfe68, 0xfe68, 1, 0x5c), (0xfe69, 0xfe6a, 1, 0x24),
    (0xfe6b, 0xfe6b, 1, 0x40), (0xfe80, 0xfe81, 1, 0x621), (0xfe82, 0xfe83, 1, 0x622),
    (0xfe84, 0xfe85, 1, 0x623), (0xfe86, 0xfe87, 1, 0x624), (0xfe88, 0xfe89, 1, 0x625),
    (0xfe8a, 0xfe8a, 1, 0x626), (0xfe8b, 0xfe8b, 1, 0x626), (0xfe8c, 0xfe8d, 1, 0x626),
    (0xfe8e, 0xfe8f, 1, 0x627), (0xfe90, 0xfe90, 1, 0x628), (0xfe91, 0xfe91, 1, 0x628),
    (0xfe92, 0xfe93, 1, 0x628), (0xfe94, 0xfe95, 1, 0x629), (0xfe96, 0xfe96, 1, 0x62a),
    (0xfe97, 0xfe97, 1, 0x62a), (0xfe98, 0xfe99, 1, 0x62a), (0xfe9a, 0xfe9a, 1, 0x62b),
    (0xfe9b, 0xfe9b, 1, 0x62b), (0xfe9c, 0xfe9d, 1, 0x62b), (0xfe9e, 0xfe9e, 1, 0x62c),
    (0xfe9f, 0xfe9f, 1, 0x62c), (0xfea0, 0xfea1, 1, 0x62c), (0xfea2, 0xfea2, 1, 0x62d),
    (0xfea3, 0xfea3, 1, 0x62d), (0xfea4, 0xfea5, 1, 0x62d), (0xfea6, 0xfea6, 1, 0x62e),
    (0xfea7, 0xfea7, 1, 0x62e), (0xfea8, 0xfea9, 1, 0x62e), (0xfeaa, 0xfeab, 1, 0x62f),
    (0xfeac, 0xfead, 1, 0x630), (0xfeae, 0xfeaf, 1, 0x631), (0xfeb0, 0xfeb1, 1, 0x632),
    (0xfeb2, 0xfeb2, 1, 0x633), (0xfeb3, 0xfeb3, 1, 0x633), (0xfeb4, 0xfeb5, 1, 0x633),
    (0xfeb6, 0xfeb6, 1, 0x634), (0xfeb7, 0xfeb7, 1, 0x634), (0xfeb8, 0xfeb9, 1, 0x634),
    (0xfeba, 0xfeba, 1, 0x635), (0xfebb, 0xfebb, 1, 0x635), (0xfebc, 0xfebd, 1, 0x635),
    (0xfebe, 0xfebe, 1, 0x636), (0xfebf, 0xfebf, 1, 0x636), (0xfec0, 0xfec1, 1, 0x636),
    (0xfec2, 0xfec2, 1, 0x637), (0xfec3, 0xfec3, 1, 0x637), (0xfec4, 0xfec5, 1, 0x637),
    (0xfec6, 0xfec6, 1, 0x638), (0xfec7, 0xfec7, 1, 0x638), (0xfec8, 0xfec9, 1, 0x638),
    (0xfeca, 0xfeca, 1, 0x639), (0xfecb, 0xfecb, 1, 0x639), (0xfecc, 0xfecd, 1, 0x639),
    (0xfece, 0xfece, 1, 0x63a), (0xfecf, 0xfecf, 1, 0x63a), (0xfed0, 0xfed0, 1, 0x63a),
    (0xfed1, 0xfed1, 1, 0x641), (0xfed2, 0xfed2, 1, 0x641), (0xfed3, 0xfed3, 1, 0x641),
    (0xfed4, 0xfed5, 1, 0x641), (0xfed6, 0xfed6, 1, 0x642), (0xfed7, 0xfed7, 1, 0x642),
    (0xfed8, 0xfed9, 1, 0x642), (0xfeda, 0xfeda, 1, 0x643), (0xfedb, 0xfedb, 1, 0x643),
    (0xfedc, 0xfedd, 1, 0x643), (0xfede, 0xfede, 1, 0x644), (0xfedf, 0xfedf, 1, 0x644),
    (0xfee0, 0xfee1, 1, 0x644), (0xfee2, 0xfee2, 1, 0x645), (0xfee3, 0xfee3, 1, 0x645),
    (0xfee4, 0xfee5, 1, 0x645), (0xfee6, 0xfee6, 1, 0x646), (0xfee7, 0xfee7, 1, 0x646),
    (0xfee8, 0xfee9, 1, 0x646), (0xfeea, 0xfeea, 1, 0x647), (0xfeeb, 0xfeeb, 1, 0x647),
    (0xfeec, 0xfeed, 1, 0x647), (0xfeee, 0xfeef, 1, 0x648), (0xfef0, 0xfef1, 1, 0x649),
    (0xfef2, 0xfef2, 1, 0x64a), (0xfef3, 0xfef3, 1, 0x64a), (0xfef4, 0xfef4, 1, 0x64a),
    (0xff01, 0xff20, 1, 0x21), (0xff21, 0xff3a, 1, 0x61), (0xff3b, 0xff5e, 1, 0x5b),
    (0xff5f, 0xff60, 1, 0x2985), (0xff61, 0xff61, 1, 0x2e), (0xff62, 0xff63, 1, 0x300c),
    (0xff64, 0xff64, 1, 0x3001), (0xff65, 0xff65, 1, 0x30fb), (0xff66, 0xff66, 1, 0x30f2),
    (0xff67, 0xff67, 1, 0x30a1), (0xff68, 0xff68, 1, 0x30a3), (0xff69, 0xff69, 1, 0x30a5),
    (0xff6a, 0xff6a, 1, 0x30a7) ]

private def stepQuads5 : List (Nat × Nat × Nat × Nat) :=
  [
    (0xff6b, 0xff6b, 1, 0x30a9), (0xff6c, 0xff6c, 1, 0x30e3), (0xff6d, 0xff6d, 1, 0x30e5),
    (0xff6e, 0xff6e, 1, 0x30e7), (0xff6f, 0xff6f, 1, 0x30c3), (0xff70, 0xff70, 1, 0x30fc),
    (0xff71, 0xff71, 1, 0x30a2), (0xff72, 0xff72, 1, 0x30a4), (0xff73, 0xff73, 1, 0x30a6),
    (0xff74, 0xff74, 1, 0x30a8), (0xff75, 0xff76, 1, 0x30aa), (0xff77, 0xff77, 1, 0x30ad),
    (0xff78, 0xff78, 1, 0x30af), (0xff79, 0xff79, 1, 0x30b1), (0xff7a, 0xff7a, 1, 0x30b3),
    (0xff7b, 0xff7b, 1, 0x30b5), (0xff7c, 0xff7c, 1, 0x30b7), (0xff7d, 0xff7d, 1, 0x30b9),
    (0xff7e, 0xff7e, 1, 0x30bb), (0xff7f, 0xff7f, 1, 0x30bd), (0xff80, 0xff80, 1, 0x30bf),
    (0xff81, 0xff81, 1, 0x30c1), (0xff82, 0xff82, 1, 0x30c4), (0xff83, 0xff83, 1, 0x30c6),
    (0xff84, 0xff84, 1, 0x30c8), (0xff85, 0xff8a, 1, 0x30ca), (0xff8b, 0xff8b, 1, 0x30d2),
    (0xff8c, 0xff8c, 1, 0x30d5), (0xff8d, 0xff8d, 1, 0x30d8), (0xff8e, 0xff8e, 1, 0x30db),
    (0xff8f, 0xff93, 1, 0x30de), (0xff94, 0xff94, 1, 0x30e4), (0xff95, 0xff95, 1, 0x30e6),
    (0xff96, 0xff9b, 1, 0x30e8), (0xff9c, 0xff9c, 1, 0x30ef), (0xff9d, 0xff9d, 1, 0x30f3),
    (0xff9e, 0xff9f, 1, 0x3099), (0xffa1, 0xffa2, 1, 0x1100), (0xffa3, 0xffa3, 1, 0x11aa),
    (0xffa4, 0xffa4, 1, 0x1102), (0xffa5, 0xffa6, 1, 0x11ac), (0xffa7, 0xffa9, 1, 0x1103),
    (0xffaa, 0xffaf, 1, 0x11b0), (0xffb0, 0xffb0, 1, 0x111a), (0xffb1, 0xffb3, 1, 0x1106),
    (0xffb4, 0xffb4, 1, 0x1121), (0xffb5, 0xffbe, 1, 0x1109), (0xffc2, 0xffc7, 1, 0x1161),
    (0xffca, 0xffcf, 1, 0x1167), (0xffd2, 0xffd7, 1, 0x116d), (0xffda, 0xffdc, 1, 0x1173),
    (0xffe0, 0xffe1, 1, 0xa2), (0xffe2, 0xffe2, 1, 0xac), (0xffe4, 0xffe4, 1, 0xa6),
    (0xffe5, 0xffe5, 1, 0xa5), (0xffe6, 0xffe6, 1, 0x20a9), (0xffe8, 0xffe8, 1, 0x2502),
    (0xffe9, 0xffec, 1, 0x2190), (0xffed, 0xffed, 1, 0x25a0), (0xffee, 0xffee, 1, 0x25cb),
    (0x10400, 0x10427, 1, 0x10428), (0x104b0, 0x104d3, 1, 0x104d8), (0x10570, 0x1057a, 1, 0x10597),
    (0x1057c, 0x1058a, 1, 0x105a3), (0x1058c, 0x10592, 1, 0x105b3), (0x10594, 0x10595, 1, 0x105bb),
    (0x10781, 0x10782, 1, 0x2d0), (0x10783, 0x10783, 1, 0xe6), (0x10784, 0x10784, 1, 0x299),
    (0x10785, 0x10785, 1, 0x253), (0x10787, 0x10787, 1, 0x2a3), (0x10788, 0x10788, 1, 0xab66),
    (0x10789, 0x10789, 1, 0x2a5), (0x1078a, 0x1078a, 1, 0x2a4), (0x1078b, 0x1078c, 1, 0x256),
    (0x1078d, 0x1078d, 1, 0x1d91), (0x1078e, 0x1078e, 1, 0x258), (0x1078f, 0x1078f, 1, 0x25e),
    (0x10790, 0x10790, 1, 0x2a9), (0x10791, 0x10791, 1, 0x264), (0x10792, 0x10792, 1, 0x262),
    (0x10793, 0x10793, 1, 0x260), (0x10794, 0x10794, 1, 0x29b), (0x10795, 0x10795, 1, 0x127),
    (0x10796, 0x10796, 1, 0x29c), (0x10797, 0x10797, 1, 0x267), (0x10798, 0x10798, 1, 0x284),
    (0x10799, 0x1079a, 1, 0x2aa), (0x1079b, 0x1079b, 1, 0x26c), (0x1079c, 0x1079c, 1, 0x1df04),
    (0x1079d, 0x1079d, 1, 0xa78e), (0x1079e, 0x1079e, 1, 0x26e), (0x1079f, 0x1079f, 1, 0x1df05),
    (0x107a0, 0x107a0, 1, 0x28e), (0x107a1, 0x107a1, 1, 0x1df06), (0x107a2, 0x107a2, 1, 0xf8),
    (0x107a3, 0x107a4, 1, 0x276), (0x107a5, 0x107a5, 1, 0x71), (0x107a6, 0x107a6, 1, 0x27a),
    (0x107a7, 0x107a7, 1, 0x1df08), (0x107a8, 0x107a9, 1, 0x27d), (0x107aa, 0x107aa, 1, 0x280),
    (0x107ab, 0x107ab, 1, 0x2a8), (0x107ac, 0x107ac, 1, 0x2a6), (0x107ad, 0x107ad, 1, 0xab67),
    (0x107ae, 0x107ae, 1, 0x2a7), (0x107af, 0x107af, 1, 0x288), (0x107b0, 0x107b0, 1, 0x2c71),
    (0x107b2, 0x107b2, 1, 0x28f), (0x107b3, 0x107b4, 1, 0x2a1), (0x107b5, 0x107b5, 1, 0x298),
    (0x107b6, 0x107b8, 1, 0x1c0), (0x107b9, 0x107b9, 1, 0x1df0a), (0x107ba, 0x107ba, 1, 0x1df1e),
    (0x10c80, 0x10cb2, 1, 0x10cc0), (0x10d50, 0x10d65, 1, 0x10d70), (0x118a0, 0x118bf, 1, 0x118c0),
    (0x16e40, 0x16e5f, 1, 0x16e60), (0x16ea0, 0x16eb8, 1, 0x16ebb), (0x1ccd6, 0x1ccef, 1, 0x61),
    (0x1ccf0, 0x1ccf9, 1, 0x30), (0x1d400, 0x1d419, 1, 0x61), (0x1d41a, 0x1d433, 1, 0x61),
    (0x1d434, 0x1d44d, 1, 0x61), (0x1d44e, 0x1d454, 1, 0x61), (0x1d456, 0x1d467, 1, 0x69),
    (0x1d468, 0x1d481, 1, 0x61), (0x1d482, 0x1d49b, 1, 0x61), (0x1d49c, 0x1d49e, 2, 0x61),
    (0x1d49f, 0x1d49f, 1, 0x64), (0x1d4a2, 0x1d4a2, 1, 0x67), (0x1d4a5, 0x1d4a6, 1, 0x6a),
    (0x1d4a9, 0x1d4ac, 1, 0x6e), (0x1d4ae, 0x1d4b5, 1, 0x73), (0x1d4b6, 0x1d4b9, 1, 0x61),
    (0x1d4bb, 0x1d4bd, 2, 0x66), (0x1d4be, 0x1d4c3, 1, 0x69), (0x1d4c5, 0x1d4cf, 1, 0x70),
    (0x1d4d0, 0x1d4e9, 1, 0x61), (0x1d4ea, 0x1d503, 1, 0x61), (0x1d504, 0x1d505, 1, 0x61),
    (0x1d507, 0x1d50a, 1, 0x64), (0x1d50d, 0x1d514, 1, 0x6a), (0x1d516, 0x1d51c, 1, 0x73),
    (0x1d51e, 0x1d537, 1, 0x61), (0x1d538, 0x1d539, 1, 0x61), (0x1d53b, 0x1d53e, 1, 0x64),
    (0x1d540, 0x1d544, 1, 0x69), (0x1d546, 0x1d546, 1, 0x6f), (0x1d54a, 0x1d550, 1, 0x73),
    (0x1d552, 0x1d56b, 1, 0x61), (0x1d56c, 0x1d585, 1, 0x61), (0x1d586, 0x1d59f, 1, 0x61),
    (0x1d5a0, 0x1d5b9, 1, 0x61), (0x1d5ba, 0x1d5d3, 1, 0x61), (0x1d5d4, 0x1d5ed, 1, 0x61),
    (0x1d5ee, 0x1d607, 1, 0x61), (0x1d608, 0x1d621, 1, 0x61), (0x1d622, 0x1d63b, 1, 0x61),
    (0x1d63c, 0x1d655, 1, 0x61), (0x1d656, 0x1d66f, 1, 0x61), (0x1d670, 0x1d689, 1, 0x61),
    (0x1d68a, 0x1d6a3, 1, 0x61), (0x1d6a4, 0x1d6a4, 1, 0x131), (0x1d6a5, 0x1d6a5, 1, 0x237),
    (0x1d6a8, 0x1d6b8, 1, 0x3b1), (0x1d6b9, 0x1d6b9, 1, 0x3b8), (0x1d6ba, 0x1d6c0, 1, 0x3c3),
    (0x1d6c1, 0x1d6c1, 1, 0x2207), (0x1d6c2, 0x1d6d2, 1, 0x3b1), (0x1d6d3, 0x1d6d3, 1, 0x3c3),
    (0x1d6d4, 0x1d6da, 1, 0x3c3), (0x1d6db, 0x1d6db, 1, 0x2202), (0x1d6dc, 0x1d6dc, 1, 0x3b5),
    (0x1d6dd, 0x1d6dd, 1, 0x3b8), (0x1d6de, 0x1d6de, 1, 0x3ba), (0x1d6df, 0x1d6df, 1, 0x3c6),
    (0x1d6e0, 0x1d6e0, 1, 0x3c1), (0x1d6e1, 0x1d6e1, 1, 0x3c0), (0x1d6e2, 0x1d6f2, 1, 0x3b1),
    (0x1d6f3, 0x1d6f3, 1, 0x3b8), (0x1d6f4, 0x1d6fa, 1, 0x3c3), (0x1d6fb, 0x1d6fb, 1, 0x2207),
    (0x1d6fc, 0x1d70c, 1, 0x3b1), (0x1d70d, 0x1d70d, 1, 0x3c3), (0x1d70e, 0x1d714, 1, 0x3c3),
    (0x1d715, 0x1d715, 1, 0x2202), (0x1d716, 0x1d716, 1, 0x3b5), (0x1d717, 0x1d717, 1, 0x3b8),
    (0x1d718, 0x1d718, 1, 0x3ba), (0x1d719, 0x1d719, 1, 0x3c6), (0x1d71a, 0x1d71a, 1, 0x3c1),
    (0x1d71b, 0x1d71b, 1, 0x3c0), (0x1d71c, 0x1d72c, 1, 0x3b1), (0x1d72d, 0x1d72d, 1, 0x3b8),
    (0x1d72e, 0x1d734, 1, 0x3c3), (0x1d735, 0x1d735, 1, 0x2207), (0x1d736, 0x1d746, 1, 0x3b1),
    (0x1d747, 0x1d747, 1, 0x3c3), (0x1d748, 0x1d74e, 1, 0x3c3), (0x1d74f, 0x1d74f, 1, 0x2202),
    (0x1d750, 0x1d750, 1, 0x3b5), (0x1d751, 0x1d751, 1, 0x3b8), (0x1d752, 0x1d752, 1, 0x3ba),
    (0x1d753, 0x1d753, 1, 0x3c6), (0x1d754, 0x1d754, 1, 0x3c1), (0x1d755, 0x1d755, 1, 0x3c0),
    (0x1d756, 0x1d766, 1, 0x3b1), (0x1d767, 0x1d767, 1, 0x3b8), (0x1d768, 0x1d76e, 1, 0x3c3),
    (0x1d76f, 0x1d76f, 1, 0x2207), (0x1d770, 0x1d780, 1, 0x3b1), (0x1d781, 0x1d781, 1, 0x3c3),
    (0x1d782, 0x1d788, 1, 0x3c3), (0x1d789, 0x1d789, 1, 0x2202), (0x1d78a, 0x1d78a, 1, 0x3b5),
    (0x1d78b, 0x1d78b, 1, 0x3b8), (0x1d78c, 0x1d78c, 1, 0x3ba), (0x1d78d, 0x1d78d, 1, 0x3c6),
    (0x1d78e, 0x1d78e, 1, 0x3c1), (0x1d78f, 0x1d78f, 1, 0x3c0), (0x1d790, 0x1d7a0, 1, 0x3b1),
    (0x1d7a1, 0x1d7a1, 1, 0x3b8), (0x1d7a2, 0x1d7a8, 1, 0x3c3), (0x1d7a9, 0x1d7a9, 1, 0x2207),
    (0x1d7aa, 0x1d7ba, 1, 0x3b1), (0x1d7bb, 0x1d7bb, 1, 0x3c3), (0x1d7bc, 0x1d7c2, 1, 0x3c3),
    (0x1d7c3, 0x1d7c3, 1, 0x2202), (0x1d7c4, 0x1d7c4, 1, 0x3b5), (0x1d7c5, 0x1d7c5, 1, 0x3b8),
    (0x1d7c6, 0x1d7c6, 1, 0x3ba), (0x1d7c7, 0x1d7c7, 1, 0x3c6), (0x1d7c8, 0x1d7c8, 1, 0x3c1),
    (0x1d7c9, 0x1d7c9, 1, 0x3c0), (0x1d7ca, 0x1d7ca, 1, 0x3dd), (0x1d7cb, 0x1d7cb, 1, 0x3dd),
    (0x1d7ce, 0x1d7d7, 1, 0x30), (0x1d7d8, 0x1d7e1, 1, 0x30), (0x1d7e2, 0x1d7eb, 1, 0x30),
    (0x1d7ec, 0x1d7f5, 1, 0x30), (0x1d7f6, 0x1d7ff, 1, 0x30), (0x1e030, 0x1e038, 1, 0x430),
    (0x1e039, 0x1e03b, 1, 0x43a), (0x1e03c, 0x1e046, 1, 0x43e), (0x1e047, 0x1e047, 1, 0x44b),
    (0x1e048, 0x1e049, 1, 0x44d), (0x1e04a, 0x1e04a, 1, 0xa689), (0x1e04b, 0x1e04b, 1, 0x4d9),
    (0x1e04c, 0x1e04c, 1, 0x456), (0x1e04d, 0x1e04d, 1, 0x458), (0x1e04e, 0x1e04e, 1, 0x4e9),
    (0x1e04f, 0x1e04f, 1, 0x4af), (0x1e050, 0x1e050, 1, 0x4cf), (0x1e051, 0x1e059, 1, 0x430),
    (0x1e05a, 0x1e05b, 1, 0x43a) ]

private def stepQuads6 : List (Nat × Nat × Nat × Nat) :=
  [
    (0x1e05c, 0x1e05d, 1, 0x43e), (0x1e05e, 0x1e05e, 1, 0x441), (0x1e05f, 0x1e064, 1, 0x443),
    (0x1e065, 0x1e066, 1, 0x44a), (0x1e067, 0x1e067, 1, 0x491), (0x1e068, 0x1e068, 1, 0x456),
    (0x1e069, 0x1e069, 1, 0x455), (0x1e06a, 0x1e06a, 1, 0x45f), (0x1e06b, 0x1e06b, 1, 0x4ab),
    (0x1e06c, 0x1e06c, 1, 0xa651), (0x1e06d, 0x1e06d, 1, 0x4b1), (0x1e900, 0x1e921, 1, 0x1e922),
    (0x1ee00, 0x1ee01, 1, 0x627), (0x1ee02, 0x1ee02, 1, 0x62c), (0x1ee03, 0x1ee03, 1, 0x62f),
    (0x1ee05, 0x1ee05, 1, 0x648), (0x1ee06, 0x1ee06, 1, 0x632), (0x1ee07, 0x1ee07, 1, 0x62d),
    (0x1ee08, 0x1ee08, 1, 0x637), (0x1ee09, 0x1ee09, 1, 0x64a), (0x1ee0a, 0x1ee0d, 1, 0x643),
    (0x1ee0e, 0x1ee0e, 1, 0x633), (0x1ee0f, 0x1ee0f, 1, 0x639), (0x1ee10, 0x1ee10, 1, 0x641),
    (0x1ee11, 0x1ee11, 1, 0x635), (0x1ee12, 0x1ee12, 1, 0x642), (0x1ee13, 0x1ee13, 1, 0x631),
    (0x1ee14, 0x1ee14, 1, 0x634), (0x1ee15, 0x1ee16, 1, 0x62a), (0x1ee17, 0x1ee17, 1, 0x62e),
    (0x1ee18, 0x1ee18, 1, 0x630), (0x1ee19, 0x1ee19, 1, 0x636), (0x1ee1a, 0x1ee1a, 1, 0x638),
    (0x1ee1b, 0x1ee1b, 1, 0x63a), (0x1ee1c, 0x1ee1c, 1, 0x66e), (0x1ee1d, 0x1ee1d, 1, 0x6ba),
    (0x1ee1e, 0x1ee1e, 1, 0x6a1), (0x1ee1f, 0x1ee1f, 1, 0x66f), (0x1ee21, 0x1ee21, 1, 0x628),
    (0x1ee22, 0x1ee22, 1, 0x62c), (0x1ee24, 0x1ee24, 1, 0x647), (0x1ee27, 0x1ee27, 1, 0x62d),
    (0x1ee29, 0x1ee29, 1, 0x64a), (0x1ee2a, 0x1ee2d, 1, 0x643), (0x1ee2e, 0x1ee2e, 1, 0x633),
    (0x1ee2f, 0x1ee2f, 1, 0x639), (0x1ee30, 0x1ee30, 1, 0x641), (0x1ee31, 0x1ee31, 1, 0x635),
    (0x1ee32, 0x1ee32, 1, 0x642), (0x1ee34, 0x1ee34, 1, 0x634), (0x1ee35, 0x1ee36, 1, 0x62a),
    (0x1ee37, 0x1ee37, 1, 0x62e), (0x1ee39, 0x1ee39, 1, 0x636), (0x1ee3b, 0x1ee3b, 1, 0x63a),
    (0x1ee42, 0x1ee42, 1, 0x62c), (0x1ee47, 0x1ee47, 1, 0x62d), (0x1ee49, 0x1ee49, 1, 0x64a),
    (0x1ee4b, 0x1ee4d, 2, 0x644), (0x1ee4e, 0x1ee4e, 1, 0x633), (0x1ee4f, 0x1ee4f, 1, 0x639),
    (0x1ee51, 0x1ee51, 1, 0x635), (0x1ee52, 0x1ee52, 1, 0x642), (0x1ee54, 0x1ee54, 1, 0x634),
    (0x1ee57, 0x1ee57, 1, 0x62e), (0x1ee59, 0x1ee59, 1, 0x636), (0x1ee5b, 0x1ee5b, 1, 0x63a),
    (0x1ee5d, 0x1ee5d, 1, 0x6ba), (0x1ee5f, 0x1ee5f, 1, 0x66f), (0x1ee61, 0x1ee61, 1, 0x628),
    (0x1ee62, 0x1ee62, 1, 0x62c), (0x1ee64, 0x1ee64, 1, 0x647), (0x1ee67, 0x1ee67, 1, 0x62d),
    (0x1ee68, 0x1ee68, 1, 0x637), (0x1ee69, 0x1ee69, 1, 0x64a), (0x1ee6a, 0x1ee6c, 2, 0x643),
    (0x1ee6d, 0x1ee6d, 1, 0x646), (0x1ee6e, 0x1ee6e, 1, 0x633), (0x1ee6f, 0x1ee6f, 1, 0x639),
    (0x1ee70, 0x1ee70, 1, 0x641), (0x1ee71, 0x1ee71, 1, 0x635), (0x1ee72, 0x1ee72, 1, 0x642),
    (0x1ee74, 0x1ee74, 1, 0x634), (0x1ee75, 0x1ee76, 1, 0x62a), (0x1ee77, 0x1ee77, 1, 0x62e),
    (0x1ee79, 0x1ee79, 1, 0x636), (0x1ee7a, 0x1ee7a, 1, 0x638), (0x1ee7b, 0x1ee7b, 1, 0x63a),
    (0x1ee7c, 0x1ee7c, 1, 0x66e), (0x1ee7e, 0x1ee7e, 1, 0x6a1), (0x1ee80, 0x1ee81, 1, 0x627),
    (0x1ee82, 0x1ee82, 1, 0x62c), (0x1ee83, 0x1ee83, 1, 0x62f), (0x1ee84, 0x1ee85, 1, 0x647),
    (0x1ee86, 0x1ee86, 1, 0x632), (0x1ee87, 0x1ee87, 1, 0x62d), (0x1ee88, 0x1ee88, 1, 0x637),
    (0x1ee89, 0x1ee89, 1, 0x64a), (0x1ee8b, 0x1ee8d, 1, 0x644), (0x1ee8e, 0x1ee8e, 1, 0x633),
    (0x1ee8f, 0x1ee8f, 1, 0x639), (0x1ee90, 0x1ee90, 1, 0x641), (0x1ee91, 0x1ee91, 1, 0x635),
    (0x1ee92, 0x1ee92, 1, 0x642), (0x1ee93, 0x1ee93, 1, 0x631), (0x1ee94, 0x1ee94, 1, 0x634),
    (0x1ee95, 0x1ee96, 1, 0x62a), (0x1ee97, 0x1ee97, 1, 0x62e), (0x1ee98, 0x1ee98, 1, 0x630),
    (0x1ee99, 0x1ee99, 1, 0x636), (0x1ee9a, 0x1ee9a, 1, 0x638), (0x1ee9b, 0x1ee9b, 1, 0x63a),
    (0x1eea1, 0x1eea1, 1, 0x628), (0x1eea2, 0x1eea2, 1, 0x62c), (0x1eea3, 0x1eea3, 1, 0x62f),
    (0x1eea5, 0x1eea5, 1, 0x648), (0x1eea6, 0x1eea6, 1, 0x632), (0x1eea7, 0x1eea7, 1, 0x62d),
    (0x1eea8, 0x1eea8, 1, 0x637), (0x1eea9, 0x1eea9, 1, 0x64a), (0x1eeab, 0x1eead, 1, 0x644),
    (0x1eeae, 0x1eeae, 1, 0x633), (0x1eeaf, 0x1eeaf, 1, 0x639), (0x1eeb0, 0x1eeb0, 1, 0x641),
    (0x1eeb1, 0x1eeb1, 1, 0x635), (0x1eeb2, 0x1eeb2, 1, 0x642), (0x1eeb3, 0x1eeb3, 1, 0x631),
    (0x1eeb4, 0x1eeb4, 1, 0x634), (0x1eeb5, 0x1eeb6, 1, 0x62a), (0x1eeb7, 0x1eeb7, 1, 0x62e),
    (0x1eeb8, 0x1eeb8, 1, 0x630), (0x1eeb9, 0x1eeb9, 1, 0x636), (0x1eeba, 0x1eeba, 1, 0x638),
    (0x1eebb, 0x1eebb, 1, 0x63a), (0x1f12b, 0x1f12b, 1, 0x63), (0x1f12c, 0x1f12c, 1, 0x72),
    (0x1f130, 0x1f149, 1, 0x61), (0x1f202, 0x1f202, 1, 0x30b5), (0x1f210, 0x1f210, 1, 0x624b),
    (0x1f211, 0x1f211, 1, 0x5b57), (0x1f212, 0x1f212, 1, 0x53cc), (0x1f213, 0x1f213, 1, 0x30c7),
    (0x1f214, 0x1f214, 1, 0x4e8c), (0x1f215, 0x1f215, 1, 0x591a), (0x1f216, 0x1f216, 1, 0x89e3),
    (0x1f217, 0x1f217, 1, 0x5929), (0x1f218, 0x1f218, 1, 0x4ea4), (0x1f219, 0x1f219, 1, 0x6620),
    (0x1f21a, 0x1f21a, 1, 0x7121), (0x1f21b, 0x1f21b, 1, 0x6599), (0x1f21c, 0x1f21c, 1, 0x524d),
    (0x1f21d, 0x1f21d, 1, 0x5f8c), (0x1f21e, 0x1f21e, 1, 0x518d), (0x1f21f, 0x1f21f, 1, 0x65b0),
    (0x1f220, 0x1f220, 1, 0x521d), (0x1f221, 0x1f221, 1, 0x7d42), (0x1f222, 0x1f222, 1, 0x751f),
    (0x1f223, 0x1f223, 1, 0x8ca9), (0x1f224, 0x1f224, 1, 0x58f0), (0x1f225, 0x1f225, 1, 0x5439),
    (0x1f226, 0x1f226, 1, 0x6f14), (0x1f227, 0x1f227, 1, 0x6295), (0x1f228, 0x1f228, 1, 0x6355),
    (0x1f229, 0x1f229, 1, 0x4e00), (0x1f22a, 0x1f22a, 1, 0x4e09), (0x1f22b, 0x1f22b, 1, 0x904a),
    (0x1f22c, 0x1f22c, 1, 0x5de6), (0x1f22d, 0x1f22d, 1, 0x4e2d), (0x1f22e, 0x1f22e, 1, 0x53f3),
    (0x1f22f, 0x1f22f, 1, 0x6307), (0x1f230, 0x1f230, 1, 0x8d70), (0x1f231, 0x1f231, 1, 0x6253),
    (0x1f232, 0x1f232, 1, 0x7981), (0x1f233, 0x1f233, 1, 0x7a7a), (0x1f234, 0x1f234, 1, 0x5408),
    (0x1f235, 0x1f235, 1, 0x6e80), (0x1f236, 0x1f236, 1, 0x6709), (0x1f237, 0x1f237, 1, 0x6708),
    (0x1f238, 0x1f238, 1, 0x7533), (0x1f239, 0x1f239, 1, 0x5272), (0x1f23a, 0x1f23a, 1, 0x55b6),
    (0x1f23b, 0x1f23b, 1, 0x914d), (0x1f250, 0x1f250, 1, 0x5f97), (0x1f251, 0x1f251, 1, 0x53ef),
    (0x1fbf0, 0x1fbf9, 1, 0x30) ]

/-- Spans, each with the code point that its first one stands for; the others follow in step. -/
def steps : List (Text.Span × Nat) :=
  Text.Span.ofTriplesWith
    (stepQuads1 ++ stepQuads2 ++ stepQuads3 ++ stepQuads4 ++ stepQuads5 ++ stepQuads6)

/-! Characters of names that stand for several others, such as ligatures, numbers in brackets and
abbreviations in one character. -/

private def expansionPairs1 : List (Nat × List Nat) :=
  [
    (0xa8, [0x20, 0x308]), (0xaf, [0x20, 0x304]), (0xb4, [0x20, 0x301]), (0xb8, [0x20, 0x327]),
    (0xbc, [0x31, 0x2044, 0x34]), (0xbd, [0x31, 0x2044, 0x32]), (0xbe, [0x33, 0x2044, 0x34]),
    (0x130, [0x69, 0x307]), (0x132, [0x69, 0x6a]), (0x133, [0x69, 0x6a]), (0x13f, [0x6c, 0xb7]),
    (0x140, [0x6c, 0xb7]), (0x149, [0x2bc, 0x6e]), (0x1c4, [0x64, 0x17e]), (0x1c5, [0x64, 0x17e]),
    (0x1c6, [0x64, 0x17e]), (0x1c7, [0x6c, 0x6a]), (0x1c8, [0x6c, 0x6a]), (0x1c9, [0x6c, 0x6a]),
    (0x1ca, [0x6e, 0x6a]), (0x1cb, [0x6e, 0x6a]), (0x1cc, [0x6e, 0x6a]), (0x1f1, [0x64, 0x7a]),
    (0x1f2, [0x64, 0x7a]), (0x1f3, [0x64, 0x7a]), (0x2d8, [0x20, 0x306]), (0x2d9, [0x20, 0x307]),
    (0x2da, [0x20, 0x30a]), (0x2db, [0x20, 0x328]), (0x2dc, [0x20, 0x303]), (0x2dd, [0x20, 0x30b]),
    (0x37a, [0x20, 0x3b9]), (0x384, [0x20, 0x301]), (0x385, [0x20, 0x308, 0x301]),
    (0x587, [0x565, 0x582]), (0x675, [0x627, 0x674]), (0x676, [0x648, 0x674]),
    (0x677, [0x6c7, 0x674]), (0x678, [0x64a, 0x674]), (0xe33, [0xe4d, 0xe32]),
    (0xeb3, [0xecd, 0xeb2]), (0xedc, [0xeab, 0xe99]), (0xedd, [0xeab, 0xea1]),
    (0xf77, [0xfb2, 0xf71, 0xf80]), (0xf79, [0xfb3, 0xf71, 0xf80]), (0x1e9a, [0x61, 0x2be]),
    (0x1f80, [0x1f00, 0x3b9]), (0x1f81, [0x1f01, 0x3b9]), (0x1f82, [0x1f02, 0x3b9]),
    (0x1f83, [0x1f03, 0x3b9]), (0x1f84, [0x1f04, 0x3b9]), (0x1f85, [0x1f05, 0x3b9]),
    (0x1f86, [0x1f06, 0x3b9]), (0x1f87, [0x1f07, 0x3b9]), (0x1f88, [0x1f00, 0x3b9]),
    (0x1f89, [0x1f01, 0x3b9]), (0x1f8a, [0x1f02, 0x3b9]), (0x1f8b, [0x1f03, 0x3b9]),
    (0x1f8c, [0x1f04, 0x3b9]), (0x1f8d, [0x1f05, 0x3b9]), (0x1f8e, [0x1f06, 0x3b9]),
    (0x1f8f, [0x1f07, 0x3b9]), (0x1f90, [0x1f20, 0x3b9]), (0x1f91, [0x1f21, 0x3b9]),
    (0x1f92, [0x1f22, 0x3b9]), (0x1f93, [0x1f23, 0x3b9]), (0x1f94, [0x1f24, 0x3b9]),
    (0x1f95, [0x1f25, 0x3b9]), (0x1f96, [0x1f26, 0x3b9]), (0x1f97, [0x1f27, 0x3b9]),
    (0x1f98, [0x1f20, 0x3b9]), (0x1f99, [0x1f21, 0x3b9]), (0x1f9a, [0x1f22, 0x3b9]),
    (0x1f9b, [0x1f23, 0x3b9]), (0x1f9c, [0x1f24, 0x3b9]), (0x1f9d, [0x1f25, 0x3b9]),
    (0x1f9e, [0x1f26, 0x3b9]), (0x1f9f, [0x1f27, 0x3b9]), (0x1fa0, [0x1f60, 0x3b9]),
    (0x1fa1, [0x1f61, 0x3b9]), (0x1fa2, [0x1f62, 0x3b9]), (0x1fa3, [0x1f63, 0x3b9]),
    (0x1fa4, [0x1f64, 0x3b9]), (0x1fa5, [0x1f65, 0x3b9]), (0x1fa6, [0x1f66, 0x3b9]),
    (0x1fa7, [0x1f67, 0x3b9]), (0x1fa8, [0x1f60, 0x3b9]), (0x1fa9, [0x1f61, 0x3b9]),
    (0x1faa, [0x1f62, 0x3b9]), (0x1fab, [0x1f63, 0x3b9]), (0x1fac, [0x1f64, 0x3b9]),
    (0x1fad, [0x1f65, 0x3b9]), (0x1fae, [0x1f66, 0x3b9]), (0x1faf, [0x1f67, 0x3b9]),
    (0x1fb2, [0x1f70, 0x3b9]), (0x1fb3, [0x3b1, 0x3b9]), (0x1fb4, [0x3ac, 0x3b9]),
    (0x1fb7, [0x1fb6, 0x3b9]), (0x1fbc, [0x3b1, 0x3b9]), (0x1fbd, [0x20, 0x313]),
    (0x1fbf, [0x20, 0x313]), (0x1fc0, [0x20, 0x342]), (0x1fc1, [0x20, 0x308, 0x342]),
    (0x1fc2, [0x1f74, 0x3b9]), (0x1fc3, [0x3b7, 0x3b9]), (0x1fc4, [0x3ae, 0x3b9]),
    (0x1fc7, [0x1fc6, 0x3b9]), (0x1fcc, [0x3b7, 0x3b9]), (0x1fcd, [0x20, 0x313, 0x300]),
    (0x1fce, [0x20, 0x313, 0x301]), (0x1fcf, [0x20, 0x313, 0x342]), (0x1fdd, [0x20, 0x314, 0x300]),
    (0x1fde, [0x20, 0x314, 0x301]), (0x1fdf, [0x20, 0x314, 0x342]), (0x1fed, [0x20, 0x308, 0x300]),
    (0x1fee, [0x20, 0x308, 0x301]), (0x1ff2, [0x1f7c, 0x3b9]), (0x1ff3, [0x3c9, 0x3b9]),
    (0x1ff4, [0x3ce, 0x3b9]), (0x1ff7, [0x1ff6, 0x3b9]), (0x1ffc, [0x3c9, 0x3b9]),
    (0x1ffd, [0x20, 0x301]), (0x1ffe, [0x20, 0x314]), (0x2017, [0x20, 0x333]),
    (0x2033, [0x2032, 0x2032]), (0x2034, [0x2032, 0x2032, 0x2032]), (0x2036, [0x2035, 0x2035]),
    (0x2037, [0x2035, 0x2035, 0x2035]), (0x203c, [0x21, 0x21]), (0x203e, [0x20, 0x305]),
    (0x2047, [0x3f, 0x3f]), (0x2048, [0x3f, 0x21]), (0x2049, [0x21, 0x3f]),
    (0x2057, [0x2032, 0x2032, 0x2032, 0x2032]), (0x20a8, [0x72, 0x73]),
    (0x2100, [0x61, 0x2f, 0x63]), (0x2101, [0x61, 0x2f, 0x73]), (0x2103, [0xb0, 0x63]),
    (0x2105, [0x63, 0x2f, 0x6f]), (0x2106, [0x63, 0x2f, 0x75]), (0x2109, [0xb0, 0x66]),
    (0x2116, [0x6e, 0x6f]), (0x2120, [0x73, 0x6d]), (0x2121, [0x74, 0x65, 0x6c]),
    (0x2122, [0x74, 0x6d]), (0x213b, [0x66, 0x61, 0x78]), (0x2150, [0x31, 0x2044, 0x37]),
    (0x2151, [0x31, 0x2044, 0x39]), (0x2152, [0x31, 0x2044, 0x31, 0x30]),
    (0x2153, [0x31, 0x2044, 0x33]), (0x2154, [0x32, 0x2044, 0x33]), (0x2155, [0x31, 0x2044, 0x35]),
    (0x2156, [0x32, 0x2044, 0x35]), (0x2157, [0x33, 0x2044, 0x35]), (0x2158, [0x34, 0x2044, 0x35]),
    (0x2159, [0x31, 0x2044, 0x36]), (0x215a, [0x35, 0x2044, 0x36]), (0x215b, [0x31, 0x2044, 0x38]),
    (0x215c, [0x33, 0x2044, 0x38]), (0x215d, [0x35, 0x2044, 0x38]), (0x215e, [0x37, 0x2044, 0x38]),
    (0x215f, [0x31, 0x2044]), (0x2161, [0x69, 0x69]), (0x2162, [0x69, 0x69, 0x69]),
    (0x2163, [0x69, 0x76]), (0x2165, [0x76, 0x69]), (0x2166, [0x76, 0x69, 0x69]),
    (0x2167, [0x76, 0x69, 0x69, 0x69]), (0x2168, [0x69, 0x78]), (0x216a, [0x78, 0x69]),
    (0x216b, [0x78, 0x69, 0x69]), (0x2171, [0x69, 0x69]), (0x2172, [0x69, 0x69, 0x69]),
    (0x2173, [0x69, 0x76]), (0x2175, [0x76, 0x69]), (0x2176, [0x76, 0x69, 0x69]),
    (0x2177, [0x76, 0x69, 0x69, 0x69]), (0x2178, [0x69, 0x78]), (0x217a, [0x78, 0x69]),
    (0x217b, [0x78, 0x69, 0x69]), (0x2189, [0x30, 0x2044, 0x33]), (0x222c, [0x222b, 0x222b]),
    (0x222d, [0x222b, 0x222b, 0x222b]), (0x222f, [0x222e, 0x222e]),
    (0x2230, [0x222e, 0x222e, 0x222e]), (0x2469, [0x31, 0x30]), (0x246a, [0x31, 0x31]),
    (0x246b, [0x31, 0x32]), (0x246c, [0x31, 0x33]), (0x246d, [0x31, 0x34]), (0x246e, [0x31, 0x35]),
    (0x246f, [0x31, 0x36]), (0x2470, [0x31, 0x37]), (0x2471, [0x31, 0x38]), (0x2472, [0x31, 0x39]),
    (0x2473, [0x32, 0x30]), (0x2474, [0x28, 0x31, 0x29]), (0x2475, [0x28, 0x32, 0x29]),
    (0x2476, [0x28, 0x33, 0x29]), (0x2477, [0x28, 0x34, 0x29]), (0x2478, [0x28, 0x35, 0x29]),
    (0x2479, [0x28, 0x36, 0x29]), (0x247a, [0x28, 0x37, 0x29]), (0x247b, [0x28, 0x38, 0x29]),
    (0x247c, [0x28, 0x39, 0x29]), (0x247d, [0x28, 0x31, 0x30, 0x29]),
    (0x247e, [0x28, 0x31, 0x31, 0x29]), (0x247f, [0x28, 0x31, 0x32, 0x29]),
    (0x2480, [0x28, 0x31, 0x33, 0x29]), (0x2481, [0x28, 0x31, 0x34, 0x29]),
    (0x2482, [0x28, 0x31, 0x35, 0x29]), (0x2483, [0x28, 0x31, 0x36, 0x29]),
    (0x2484, [0x28, 0x31, 0x37, 0x29]), (0x2485, [0x28, 0x31, 0x38, 0x29]),
    (0x2486, [0x28, 0x31, 0x39, 0x29]), (0x2487, [0x28, 0x32, 0x30, 0x29]),
    (0x249c, [0x28, 0x61, 0x29]), (0x249d, [0x28, 0x62, 0x29]), (0x249e, [0x28, 0x63, 0x29]),
    (0x249f, [0x28, 0x64, 0x29]), (0x24a0, [0x28, 0x65, 0x29]), (0x24a1, [0x28, 0x66, 0x29]),
    (0x24a2, [0x28, 0x67, 0x29]), (0x24a3, [0x28, 0x68, 0x29]), (0x24a4, [0x28, 0x69, 0x29]),
    (0x24a5, [0x28, 0x6a, 0x29]), (0x24a6, [0x28, 0x6b, 0x29]), (0x24a7, [0x28, 0x6c, 0x29]),
    (0x24a8, [0x28, 0x6d, 0x29]), (0x24a9, [0x28, 0x6e, 0x29]), (0x24aa, [0x28, 0x6f, 0x29]),
    (0x24ab, [0x28, 0x70, 0x29]), (0x24ac, [0x28, 0x71, 0x29]), (0x24ad, [0x28, 0x72, 0x29]),
    (0x24ae, [0x28, 0x73, 0x29]), (0x24af, [0x28, 0x74, 0x29]), (0x24b0, [0x28, 0x75, 0x29]),
    (0x24b1, [0x28, 0x76, 0x29]), (0x24b2, [0x28, 0x77, 0x29]), (0x24b3, [0x28, 0x78, 0x29]),
    (0x24b4, [0x28, 0x79, 0x29]), (0x24b5, [0x28, 0x7a, 0x29]),
    (0x2a0c, [0x222b, 0x222b, 0x222b, 0x222b]), (0x2a74, [0x3a, 0x3a, 0x3d]),
    (0x2a75, [0x3d, 0x3d]), (0x2a76, [0x3d, 0x3d, 0x3d]), (0x309b, [0x20, 0x3099]),
    (0x309c, [0x20, 0x309a]), (0x309f, [0x3088, 0x308a]), (0x30ff, [0x30b3, 0x30c8]),
    (0x3200, [0x28, 0x1100, 0x29]), (0x3201, [0x28, 0x1102, 0x29]), (0x3202, [0x28, 0x1103, 0x29]),
    (0x3203, [0x28, 0x1105, 0x29]), (0x3204, [0x28, 0x1106, 0x29]), (0x3205, [0x28, 0x1107, 0x29]) ]

private def expansionPairs2 : List (Nat × List Nat) :=
  [
    (0x3206, [0x28, 0x1109, 0x29]), (0x3207, [0x28, 0x110b, 0x29]), (0x3208, [0x28, 0x110c, 0x29]),
    (0x3209, [0x28, 0x110e, 0x29]), (0x320a, [0x28, 0x110f, 0x29]), (0x320b, [0x28, 0x1110, 0x29]),
    (0x320c, [0x28, 0x1111, 0x29]), (0x320d, [0x28, 0x1112, 0x29]), (0x320e, [0x28, 0xac00, 0x29]),
    (0x320f, [0x28, 0xb098, 0x29]), (0x3210, [0x28, 0xb2e4, 0x29]), (0x3211, [0x28, 0xb77c, 0x29]),
    (0x3212, [0x28, 0xb9c8, 0x29]), (0x3213, [0x28, 0xbc14, 0x29]), (0x3214, [0x28, 0xc0ac, 0x29]),
    (0x3215, [0x28, 0xc544, 0x29]), (0x3216, [0x28, 0xc790, 0x29]), (0x3217, [0x28, 0xcc28, 0x29]),
    (0x3218, [0x28, 0xce74, 0x29]), (0x3219, [0x28, 0xd0c0, 0x29]), (0x321a, [0x28, 0xd30c, 0x29]),
    (0x321b, [0x28, 0xd558, 0x29]), (0x321c, [0x28, 0xc8fc, 0x29]),
    (0x321d, [0x28, 0xc624, 0xc804, 0x29]), (0x321e, [0x28, 0xc624, 0xd6c4, 0x29]),
    (0x3220, [0x28, 0x4e00, 0x29]), (0x3221, [0x28, 0x4e8c, 0x29]), (0x3222, [0x28, 0x4e09, 0x29]),
    (0x3223, [0x28, 0x56db, 0x29]), (0x3224, [0x28, 0x4e94, 0x29]), (0x3225, [0x28, 0x516d, 0x29]),
    (0x3226, [0x28, 0x4e03, 0x29]), (0x3227, [0x28, 0x516b, 0x29]), (0x3228, [0x28, 0x4e5d, 0x29]),
    (0x3229, [0x28, 0x5341, 0x29]), (0x322a, [0x28, 0x6708, 0x29]), (0x322b, [0x28, 0x706b, 0x29]),
    (0x322c, [0x28, 0x6c34, 0x29]), (0x322d, [0x28, 0x6728, 0x29]), (0x322e, [0x28, 0x91d1, 0x29]),
    (0x322f, [0x28, 0x571f, 0x29]), (0x3230, [0x28, 0x65e5, 0x29]), (0x3231, [0x28, 0x682a, 0x29]),
    (0x3232, [0x28, 0x6709, 0x29]), (0x3233, [0x28, 0x793e, 0x29]), (0x3234, [0x28, 0x540d, 0x29]),
    (0x3235, [0x28, 0x7279, 0x29]), (0x3236, [0x28, 0x8ca1, 0x29]), (0x3237, [0x28, 0x795d, 0x29]),
    (0x3238, [0x28, 0x52b4, 0x29]), (0x3239, [0x28, 0x4ee3, 0x29]), (0x323a, [0x28, 0x547c, 0x29]),
    (0x323b, [0x28, 0x5b66, 0x29]), (0x323c, [0x28, 0x76e3, 0x29]), (0x323d, [0x28, 0x4f01, 0x29]),
    (0x323e, [0x28, 0x8cc7, 0x29]), (0x323f, [0x28, 0x5354, 0x29]), (0x3240, [0x28, 0x796d, 0x29]),
    (0x3241, [0x28, 0x4f11, 0x29]), (0x3242, [0x28, 0x81ea, 0x29]), (0x3243, [0x28, 0x81f3, 0x29]),
    (0x3250, [0x70, 0x74, 0x65]), (0x3251, [0x32, 0x31]), (0x3252, [0x32, 0x32]),
    (0x3253, [0x32, 0x33]), (0x3254, [0x32, 0x34]), (0x3255, [0x32, 0x35]), (0x3256, [0x32, 0x36]),
    (0x3257, [0x32, 0x37]), (0x3258, [0x32, 0x38]), (0x3259, [0x32, 0x39]), (0x325a, [0x33, 0x30]),
    (0x325b, [0x33, 0x31]), (0x325c, [0x33, 0x32]), (0x325d, [0x33, 0x33]), (0x325e, [0x33, 0x34]),
    (0x325f, [0x33, 0x35]), (0x327c, [0xcc38, 0xace0]), (0x327d, [0xc8fc, 0xc758]),
    (0x32b1, [0x33, 0x36]), (0x32b2, [0x33, 0x37]), (0x32b3, [0x33, 0x38]), (0x32b4, [0x33, 0x39]),
    (0x32b5, [0x34, 0x30]), (0x32b6, [0x34, 0x31]), (0x32b7, [0x34, 0x32]), (0x32b8, [0x34, 0x33]),
    (0x32b9, [0x34, 0x34]), (0x32ba, [0x34, 0x35]), (0x32bb, [0x34, 0x36]), (0x32bc, [0x34, 0x37]),
    (0x32bd, [0x34, 0x38]), (0x32be, [0x34, 0x39]), (0x32bf, [0x35, 0x30]),
    (0x32c0, [0x31, 0x6708]), (0x32c1, [0x32, 0x6708]), (0x32c2, [0x33, 0x6708]),
    (0x32c3, [0x34, 0x6708]), (0x32c4, [0x35, 0x6708]), (0x32c5, [0x36, 0x6708]),
    (0x32c6, [0x37, 0x6708]), (0x32c7, [0x38, 0x6708]), (0x32c8, [0x39, 0x6708]),
    (0x32c9, [0x31, 0x30, 0x6708]), (0x32ca, [0x31, 0x31, 0x6708]), (0x32cb, [0x31, 0x32, 0x6708]),
    (0x32cc, [0x68, 0x67]), (0x32cd, [0x65, 0x72, 0x67]), (0x32ce, [0x65, 0x76]),
    (0x32cf, [0x6c, 0x74, 0x64]), (0x32ff, [0x4ee4, 0x548c]),
    (0x3300, [0x30a2, 0x30d1, 0x30fc, 0x30c8]), (0x3301, [0x30a2, 0x30eb, 0x30d5, 0x30a1]),
    (0x3302, [0x30a2, 0x30f3, 0x30da, 0x30a2]), (0x3303, [0x30a2, 0x30fc, 0x30eb]),
    (0x3304, [0x30a4, 0x30cb, 0x30f3, 0x30b0]), (0x3305, [0x30a4, 0x30f3, 0x30c1]),
    (0x3306, [0x30a6, 0x30a9, 0x30f3]), (0x3307, [0x30a8, 0x30b9, 0x30af, 0x30fc, 0x30c9]),
    (0x3308, [0x30a8, 0x30fc, 0x30ab, 0x30fc]), (0x3309, [0x30aa, 0x30f3, 0x30b9]),
    (0x330a, [0x30aa, 0x30fc, 0x30e0]), (0x330b, [0x30ab, 0x30a4, 0x30ea]),
    (0x330c, [0x30ab, 0x30e9, 0x30c3, 0x30c8]), (0x330d, [0x30ab, 0x30ed, 0x30ea, 0x30fc]),
    (0x330e, [0x30ac, 0x30ed, 0x30f3]), (0x330f, [0x30ac, 0x30f3, 0x30de]),
    (0x3310, [0x30ae, 0x30ac]), (0x3311, [0x30ae, 0x30cb, 0x30fc]),
    (0x3312, [0x30ad, 0x30e5, 0x30ea, 0x30fc]), (0x3313, [0x30ae, 0x30eb, 0x30c0, 0x30fc]),
    (0x3314, [0x30ad, 0x30ed]), (0x3315, [0x30ad, 0x30ed, 0x30b0, 0x30e9, 0x30e0]),
    (0x3316, [0x30ad, 0x30ed, 0x30e1, 0x30fc, 0x30c8, 0x30eb]),
    (0x3317, [0x30ad, 0x30ed, 0x30ef, 0x30c3, 0x30c8]), (0x3318, [0x30b0, 0x30e9, 0x30e0]),
    (0x3319, [0x30b0, 0x30e9, 0x30e0, 0x30c8, 0x30f3]),
    (0x331a, [0x30af, 0x30eb, 0x30bc, 0x30a4, 0x30ed]), (0x331b, [0x30af, 0x30ed, 0x30fc, 0x30cd]),
    (0x331c, [0x30b1, 0x30fc, 0x30b9]), (0x331d, [0x30b3, 0x30eb, 0x30ca]),
    (0x331e, [0x30b3, 0x30fc, 0x30dd]), (0x331f, [0x30b5, 0x30a4, 0x30af, 0x30eb]),
    (0x3320, [0x30b5, 0x30f3, 0x30c1, 0x30fc, 0x30e0]), (0x3321, [0x30b7, 0x30ea, 0x30f3, 0x30b0]),
    (0x3322, [0x30bb, 0x30f3, 0x30c1]), (0x3323, [0x30bb, 0x30f3, 0x30c8]),
    (0x3324, [0x30c0, 0x30fc, 0x30b9]), (0x3325, [0x30c7, 0x30b7]), (0x3326, [0x30c9, 0x30eb]),
    (0x3327, [0x30c8, 0x30f3]), (0x3328, [0x30ca, 0x30ce]), (0x3329, [0x30ce, 0x30c3, 0x30c8]),
    (0x332a, [0x30cf, 0x30a4, 0x30c4]), (0x332b, [0x30d1, 0x30fc, 0x30bb, 0x30f3, 0x30c8]),
    (0x332c, [0x30d1, 0x30fc, 0x30c4]), (0x332d, [0x30d0, 0x30fc, 0x30ec, 0x30eb]),
    (0x332e, [0x30d4, 0x30a2, 0x30b9, 0x30c8, 0x30eb]), (0x332f, [0x30d4, 0x30af, 0x30eb]),
    (0x3330, [0x30d4, 0x30b3]), (0x3331, [0x30d3, 0x30eb]),
    (0x3332, [0x30d5, 0x30a1, 0x30e9, 0x30c3, 0x30c9]), (0x3333, [0x30d5, 0x30a3, 0x30fc, 0x30c8]),
    (0x3334, [0x30d6, 0x30c3, 0x30b7, 0x30a7, 0x30eb]), (0x3335, [0x30d5, 0x30e9, 0x30f3]),
    (0x3336, [0x30d8, 0x30af, 0x30bf, 0x30fc, 0x30eb]), (0x3337, [0x30da, 0x30bd]),
    (0x3338, [0x30da, 0x30cb, 0x30d2]), (0x3339, [0x30d8, 0x30eb, 0x30c4]),
    (0x333a, [0x30da, 0x30f3, 0x30b9]), (0x333b, [0x30da, 0x30fc, 0x30b8]),
    (0x333c, [0x30d9, 0x30fc, 0x30bf]), (0x333d, [0x30dd, 0x30a4, 0x30f3, 0x30c8]),
    (0x333e, [0x30dc, 0x30eb, 0x30c8]), (0x333f, [0x30db, 0x30f3]),
    (0x3340, [0x30dd, 0x30f3, 0x30c9]), (0x3341, [0x30db, 0x30fc, 0x30eb]),
    (0x3342, [0x30db, 0x30fc, 0x30f3]), (0x3343, [0x30de, 0x30a4, 0x30af, 0x30ed]),
    (0x3344, [0x30de, 0x30a4, 0x30eb]), (0x3345, [0x30de, 0x30c3, 0x30cf]),
    (0x3346, [0x30de, 0x30eb, 0x30af]), (0x3347, [0x30de, 0x30f3, 0x30b7, 0x30e7, 0x30f3]),
    (0x3348, [0x30df, 0x30af, 0x30ed, 0x30f3]), (0x3349, [0x30df, 0x30ea]),
    (0x334a, [0x30df, 0x30ea, 0x30d0, 0x30fc, 0x30eb]), (0x334b, [0x30e1, 0x30ac]),
    (0x334c, [0x30e1, 0x30ac, 0x30c8, 0x30f3]), (0x334d, [0x30e1, 0x30fc, 0x30c8, 0x30eb]),
    (0x334e, [0x30e4, 0x30fc, 0x30c9]), (0x334f, [0x30e4, 0x30fc, 0x30eb]),
    (0x3350, [0x30e6, 0x30a2, 0x30f3]), (0x3351, [0x30ea, 0x30c3, 0x30c8, 0x30eb]),
    (0x3352, [0x30ea, 0x30e9]), (0x3353, [0x30eb, 0x30d4, 0x30fc]),
    (0x3354, [0x30eb, 0x30fc, 0x30d6, 0x30eb]), (0x3355, [0x30ec, 0x30e0]),
    (0x3356, [0x30ec, 0x30f3, 0x30c8, 0x30b2, 0x30f3]), (0x3357, [0x30ef, 0x30c3, 0x30c8]),
    (0x3358, [0x30, 0x70b9]), (0x3359, [0x31, 0x70b9]), (0x335a, [0x32, 0x70b9]),
    (0x335b, [0x33, 0x70b9]), (0x335c, [0x34, 0x70b9]), (0x335d, [0x35, 0x70b9]),
    (0x335e, [0x36, 0x70b9]), (0x335f, [0x37, 0x70b9]), (0x3360, [0x38, 0x70b9]),
    (0x3361, [0x39, 0x70b9]), (0x3362, [0x31, 0x30, 0x70b9]), (0x3363, [0x31, 0x31, 0x70b9]),
    (0x3364, [0x31, 0x32, 0x70b9]), (0x3365, [0x31, 0x33, 0x70b9]), (0x3366, [0x31, 0x34, 0x70b9]),
    (0x3367, [0x31, 0x35, 0x70b9]), (0x3368, [0x31, 0x36, 0x70b9]), (0x3369, [0x31, 0x37, 0x70b9]),
    (0x336a, [0x31, 0x38, 0x70b9]), (0x336b, [0x31, 0x39, 0x70b9]), (0x336c, [0x32, 0x30, 0x70b9]),
    (0x336d, [0x32, 0x31, 0x70b9]), (0x336e, [0x32, 0x32, 0x70b9]), (0x336f, [0x32, 0x33, 0x70b9]),
    (0x3370, [0x32, 0x34, 0x70b9]), (0x3371, [0x68, 0x70, 0x61]), (0x3372, [0x64, 0x61]),
    (0x3373, [0x61, 0x75]), (0x3374, [0x62, 0x61, 0x72]), (0x3375, [0x6f, 0x76]),
    (0x3376, [0x70, 0x63]), (0x3377, [0x64, 0x6d]), (0x3378, [0x64, 0x6d, 0x32]),
    (0x3379, [0x64, 0x6d, 0x33]), (0x337a, [0x69, 0x75]), (0x337b, [0x5e73, 0x6210]),
    (0x337c, [0x662d, 0x548c]), (0x337d, [0x5927, 0x6b63]), (0x337e, [0x660e, 0x6cbb]),
    (0x337f, [0x682a, 0x5f0f, 0x4f1a, 0x793e]), (0x3380, [0x70, 0x61]), (0x3381, [0x6e, 0x61]),
    (0x3382, [0x3bc, 0x61]), (0x3383, [0x6d, 0x61]), (0x3384, [0x6b, 0x61]), (0x3385, [0x6b, 0x62]),
    (0x3386, [0x6d, 0x62]), (0x3387, [0x67, 0x62]), (0x3388, [0x63, 0x61, 0x6c]),
    (0x3389, [0x6b, 0x63, 0x61, 0x6c]), (0x338a, [0x70, 0x66]), (0x338b, [0x6e, 0x66]),
    (0x338c, [0x3bc, 0x66]), (0x338d, [0x3bc, 0x67]), (0x338e, [0x6d, 0x67]),
    (0x338f, [0x6b, 0x67]), (0x3390, [0x68, 0x7a]) ]

private def expansionPairs3 : List (Nat × List Nat) :=
  [
    (0x3391, [0x6b, 0x68, 0x7a]), (0x3392, [0x6d, 0x68, 0x7a]), (0x3393, [0x67, 0x68, 0x7a]),
    (0x3394, [0x74, 0x68, 0x7a]), (0x3395, [0x3bc, 0x6c]), (0x3396, [0x6d, 0x6c]),
    (0x3397, [0x64, 0x6c]), (0x3398, [0x6b, 0x6c]), (0x3399, [0x66, 0x6d]), (0x339a, [0x6e, 0x6d]),
    (0x339b, [0x3bc, 0x6d]), (0x339c, [0x6d, 0x6d]), (0x339d, [0x63, 0x6d]), (0x339e, [0x6b, 0x6d]),
    (0x339f, [0x6d, 0x6d, 0x32]), (0x33a0, [0x63, 0x6d, 0x32]), (0x33a1, [0x6d, 0x32]),
    (0x33a2, [0x6b, 0x6d, 0x32]), (0x33a3, [0x6d, 0x6d, 0x33]), (0x33a4, [0x63, 0x6d, 0x33]),
    (0x33a5, [0x6d, 0x33]), (0x33a6, [0x6b, 0x6d, 0x33]), (0x33a7, [0x6d, 0x2215, 0x73]),
    (0x33a8, [0x6d, 0x2215, 0x73, 0x32]), (0x33a9, [0x70, 0x61]), (0x33aa, [0x6b, 0x70, 0x61]),
    (0x33ab, [0x6d, 0x70, 0x61]), (0x33ac, [0x67, 0x70, 0x61]), (0x33ad, [0x72, 0x61, 0x64]),
    (0x33ae, [0x72, 0x61, 0x64, 0x2215, 0x73]), (0x33af, [0x72, 0x61, 0x64, 0x2215, 0x73, 0x32]),
    (0x33b0, [0x70, 0x73]), (0x33b1, [0x6e, 0x73]), (0x33b2, [0x3bc, 0x73]), (0x33b3, [0x6d, 0x73]),
    (0x33b4, [0x70, 0x76]), (0x33b5, [0x6e, 0x76]), (0x33b6, [0x3bc, 0x76]), (0x33b7, [0x6d, 0x76]),
    (0x33b8, [0x6b, 0x76]), (0x33b9, [0x6d, 0x76]), (0x33ba, [0x70, 0x77]), (0x33bb, [0x6e, 0x77]),
    (0x33bc, [0x3bc, 0x77]), (0x33bd, [0x6d, 0x77]), (0x33be, [0x6b, 0x77]), (0x33bf, [0x6d, 0x77]),
    (0x33c0, [0x6b, 0x3c9]), (0x33c1, [0x6d, 0x3c9]), (0x33c3, [0x62, 0x71]),
    (0x33c4, [0x63, 0x63]), (0x33c5, [0x63, 0x64]), (0x33c6, [0x63, 0x2215, 0x6b, 0x67]),
    (0x33c8, [0x64, 0x62]), (0x33c9, [0x67, 0x79]), (0x33ca, [0x68, 0x61]), (0x33cb, [0x68, 0x70]),
    (0x33cc, [0x69, 0x6e]), (0x33cd, [0x6b, 0x6b]), (0x33ce, [0x6b, 0x6d]), (0x33cf, [0x6b, 0x74]),
    (0x33d0, [0x6c, 0x6d]), (0x33d1, [0x6c, 0x6e]), (0x33d2, [0x6c, 0x6f, 0x67]),
    (0x33d3, [0x6c, 0x78]), (0x33d4, [0x6d, 0x62]), (0x33d5, [0x6d, 0x69, 0x6c]),
    (0x33d6, [0x6d, 0x6f, 0x6c]), (0x33d7, [0x70, 0x68]), (0x33d9, [0x70, 0x70, 0x6d]),
    (0x33da, [0x70, 0x72]), (0x33db, [0x73, 0x72]), (0x33dc, [0x73, 0x76]), (0x33dd, [0x77, 0x62]),
    (0x33de, [0x76, 0x2215, 0x6d]), (0x33df, [0x61, 0x2215, 0x6d]), (0x33e0, [0x31, 0x65e5]),
    (0x33e1, [0x32, 0x65e5]), (0x33e2, [0x33, 0x65e5]), (0x33e3, [0x34, 0x65e5]),
    (0x33e4, [0x35, 0x65e5]), (0x33e5, [0x36, 0x65e5]), (0x33e6, [0x37, 0x65e5]),
    (0x33e7, [0x38, 0x65e5]), (0x33e8, [0x39, 0x65e5]), (0x33e9, [0x31, 0x30, 0x65e5]),
    (0x33ea, [0x31, 0x31, 0x65e5]), (0x33eb, [0x31, 0x32, 0x65e5]), (0x33ec, [0x31, 0x33, 0x65e5]),
    (0x33ed, [0x31, 0x34, 0x65e5]), (0x33ee, [0x31, 0x35, 0x65e5]), (0x33ef, [0x31, 0x36, 0x65e5]),
    (0x33f0, [0x31, 0x37, 0x65e5]), (0x33f1, [0x31, 0x38, 0x65e5]), (0x33f2, [0x31, 0x39, 0x65e5]),
    (0x33f3, [0x32, 0x30, 0x65e5]), (0x33f4, [0x32, 0x31, 0x65e5]), (0x33f5, [0x32, 0x32, 0x65e5]),
    (0x33f6, [0x32, 0x33, 0x65e5]), (0x33f7, [0x32, 0x34, 0x65e5]), (0x33f8, [0x32, 0x35, 0x65e5]),
    (0x33f9, [0x32, 0x36, 0x65e5]), (0x33fa, [0x32, 0x37, 0x65e5]), (0x33fb, [0x32, 0x38, 0x65e5]),
    (0x33fc, [0x32, 0x39, 0x65e5]), (0x33fd, [0x33, 0x30, 0x65e5]), (0x33fe, [0x33, 0x31, 0x65e5]),
    (0x33ff, [0x67, 0x61, 0x6c]), (0xfb00, [0x66, 0x66]), (0xfb01, [0x66, 0x69]),
    (0xfb02, [0x66, 0x6c]), (0xfb03, [0x66, 0x66, 0x69]), (0xfb04, [0x66, 0x66, 0x6c]),
    (0xfb05, [0x73, 0x74]), (0xfb06, [0x73, 0x74]), (0xfb13, [0x574, 0x576]),
    (0xfb14, [0x574, 0x565]), (0xfb15, [0x574, 0x56b]), (0xfb16, [0x57e, 0x576]),
    (0xfb17, [0x574, 0x56d]), (0xfb4f, [0x5d0, 0x5dc]), (0xfbdd, [0x6c7, 0x674]),
    (0xfbea, [0x626, 0x627]), (0xfbeb, [0x626, 0x627]), (0xfbec, [0x626, 0x6d5]),
    (0xfbed, [0x626, 0x6d5]), (0xfbee, [0x626, 0x648]), (0xfbef, [0x626, 0x648]),
    (0xfbf0, [0x626, 0x6c7]), (0xfbf1, [0x626, 0x6c7]), (0xfbf2, [0x626, 0x6c6]),
    (0xfbf3, [0x626, 0x6c6]), (0xfbf4, [0x626, 0x6c8]), (0xfbf5, [0x626, 0x6c8]),
    (0xfbf6, [0x626, 0x6d0]), (0xfbf7, [0x626, 0x6d0]), (0xfbf8, [0x626, 0x6d0]),
    (0xfbf9, [0x626, 0x649]), (0xfbfa, [0x626, 0x649]), (0xfbfb, [0x626, 0x649]),
    (0xfc00, [0x626, 0x62c]), (0xfc01, [0x626, 0x62d]), (0xfc02, [0x626, 0x645]),
    (0xfc03, [0x626, 0x649]), (0xfc04, [0x626, 0x64a]), (0xfc05, [0x628, 0x62c]),
    (0xfc06, [0x628, 0x62d]), (0xfc07, [0x628, 0x62e]), (0xfc08, [0x628, 0x645]),
    (0xfc09, [0x628, 0x649]), (0xfc0a, [0x628, 0x64a]), (0xfc0b, [0x62a, 0x62c]),
    (0xfc0c, [0x62a, 0x62d]), (0xfc0d, [0x62a, 0x62e]), (0xfc0e, [0x62a, 0x645]),
    (0xfc0f, [0x62a, 0x649]), (0xfc10, [0x62a, 0x64a]), (0xfc11, [0x62b, 0x62c]),
    (0xfc12, [0x62b, 0x645]), (0xfc13, [0x62b, 0x649]), (0xfc14, [0x62b, 0x64a]),
    (0xfc15, [0x62c, 0x62d]), (0xfc16, [0x62c, 0x645]), (0xfc17, [0x62d, 0x62c]),
    (0xfc18, [0x62d, 0x645]), (0xfc19, [0x62e, 0x62c]), (0xfc1a, [0x62e, 0x62d]),
    (0xfc1b, [0x62e, 0x645]), (0xfc1c, [0x633, 0x62c]), (0xfc1d, [0x633, 0x62d]),
    (0xfc1e, [0x633, 0x62e]), (0xfc1f, [0x633, 0x645]), (0xfc20, [0x635, 0x62d]),
    (0xfc21, [0x635, 0x645]), (0xfc22, [0x636, 0x62c]), (0xfc23, [0x636, 0x62d]),
    (0xfc24, [0x636, 0x62e]), (0xfc25, [0x636, 0x645]), (0xfc26, [0x637, 0x62d]),
    (0xfc27, [0x637, 0x645]), (0xfc28, [0x638, 0x645]), (0xfc29, [0x639, 0x62c]),
    (0xfc2a, [0x639, 0x645]), (0xfc2b, [0x63a, 0x62c]), (0xfc2c, [0x63a, 0x645]),
    (0xfc2d, [0x641, 0x62c]), (0xfc2e, [0x641, 0x62d]), (0xfc2f, [0x641, 0x62e]),
    (0xfc30, [0x641, 0x645]), (0xfc31, [0x641, 0x649]), (0xfc32, [0x641, 0x64a]),
    (0xfc33, [0x642, 0x62d]), (0xfc34, [0x642, 0x645]), (0xfc35, [0x642, 0x649]),
    (0xfc36, [0x642, 0x64a]), (0xfc37, [0x643, 0x627]), (0xfc38, [0x643, 0x62c]),
    (0xfc39, [0x643, 0x62d]), (0xfc3a, [0x643, 0x62e]), (0xfc3b, [0x643, 0x644]),
    (0xfc3c, [0x643, 0x645]), (0xfc3d, [0x643, 0x649]), (0xfc3e, [0x643, 0x64a]),
    (0xfc3f, [0x644, 0x62c]), (0xfc40, [0x644, 0x62d]), (0xfc41, [0x644, 0x62e]),
    (0xfc42, [0x644, 0x645]), (0xfc43, [0x644, 0x649]), (0xfc44, [0x644, 0x64a]),
    (0xfc45, [0x645, 0x62c]), (0xfc46, [0x645, 0x62d]), (0xfc47, [0x645, 0x62e]),
    (0xfc48, [0x645, 0x645]), (0xfc49, [0x645, 0x649]), (0xfc4a, [0x645, 0x64a]),
    (0xfc4b, [0x646, 0x62c]), (0xfc4c, [0x646, 0x62d]), (0xfc4d, [0x646, 0x62e]),
    (0xfc4e, [0x646, 0x645]), (0xfc4f, [0x646, 0x649]), (0xfc50, [0x646, 0x64a]),
    (0xfc51, [0x647, 0x62c]), (0xfc52, [0x647, 0x645]), (0xfc53, [0x647, 0x649]),
    (0xfc54, [0x647, 0x64a]), (0xfc55, [0x64a, 0x62c]), (0xfc56, [0x64a, 0x62d]),
    (0xfc57, [0x64a, 0x62e]), (0xfc58, [0x64a, 0x645]), (0xfc59, [0x64a, 0x649]),
    (0xfc5a, [0x64a, 0x64a]), (0xfc5b, [0x630, 0x670]), (0xfc5c, [0x631, 0x670]),
    (0xfc5d, [0x649, 0x670]), (0xfc5e, [0x20, 0x64c, 0x651]), (0xfc5f, [0x20, 0x64d, 0x651]),
    (0xfc60, [0x20, 0x64e, 0x651]), (0xfc61, [0x20, 0x64f, 0x651]), (0xfc62, [0x20, 0x650, 0x651]),
    (0xfc63, [0x20, 0x651, 0x670]), (0xfc64, [0x626, 0x631]), (0xfc65, [0x626, 0x632]),
    (0xfc66, [0x626, 0x645]), (0xfc67, [0x626, 0x646]), (0xfc68, [0x626, 0x649]),
    (0xfc69, [0x626, 0x64a]), (0xfc6a, [0x628, 0x631]), (0xfc6b, [0x628, 0x632]),
    (0xfc6c, [0x628, 0x645]), (0xfc6d, [0x628, 0x646]), (0xfc6e, [0x628, 0x649]),
    (0xfc6f, [0x628, 0x64a]), (0xfc70, [0x62a, 0x631]), (0xfc71, [0x62a, 0x632]),
    (0xfc72, [0x62a, 0x645]), (0xfc73, [0x62a, 0x646]) ]

private def expansionPairs4 : List (Nat × List Nat) :=
  [
    (0xfc74, [0x62a, 0x649]), (0xfc75, [0x62a, 0x64a]), (0xfc76, [0x62b, 0x631]),
    (0xfc77, [0x62b, 0x632]), (0xfc78, [0x62b, 0x645]), (0xfc79, [0x62b, 0x646]),
    (0xfc7a, [0x62b, 0x649]), (0xfc7b, [0x62b, 0x64a]), (0xfc7c, [0x641, 0x649]),
    (0xfc7d, [0x641, 0x64a]), (0xfc7e, [0x642, 0x649]), (0xfc7f, [0x642, 0x64a]),
    (0xfc80, [0x643, 0x627]), (0xfc81, [0x643, 0x644]), (0xfc82, [0x643, 0x645]),
    (0xfc83, [0x643, 0x649]), (0xfc84, [0x643, 0x64a]), (0xfc85, [0x644, 0x645]),
    (0xfc86, [0x644, 0x649]), (0xfc87, [0x644, 0x64a]), (0xfc88, [0x645, 0x627]),
    (0xfc89, [0x645, 0x645]), (0xfc8a, [0x646, 0x631]), (0xfc8b, [0x646, 0x632]),
    (0xfc8c, [0x646, 0x645]), (0xfc8d, [0x646, 0x646]), (0xfc8e, [0x646, 0x649]),
    (0xfc8f, [0x646, 0x64a]), (0xfc90, [0x649, 0x670]), (0xfc91, [0x64a, 0x631]),
    (0xfc92, [0x64a, 0x632]), (0xfc93, [0x64a, 0x645]), (0xfc94, [0x64a, 0x646]),
    (0xfc95, [0x64a, 0x649]), (0xfc96, [0x64a, 0x64a]), (0xfc97, [0x626, 0x62c]),
    (0xfc98, [0x626, 0x62d]), (0xfc99, [0x626, 0x62e]), (0xfc9a, [0x626, 0x645]),
    (0xfc9b, [0x626, 0x647]), (0xfc9c, [0x628, 0x62c]), (0xfc9d, [0x628, 0x62d]),
    (0xfc9e, [0x628, 0x62e]), (0xfc9f, [0x628, 0x645]), (0xfca0, [0x628, 0x647]),
    (0xfca1, [0x62a, 0x62c]), (0xfca2, [0x62a, 0x62d]), (0xfca3, [0x62a, 0x62e]),
    (0xfca4, [0x62a, 0x645]), (0xfca5, [0x62a, 0x647]), (0xfca6, [0x62b, 0x645]),
    (0xfca7, [0x62c, 0x62d]), (0xfca8, [0x62c, 0x645]), (0xfca9, [0x62d, 0x62c]),
    (0xfcaa, [0x62d, 0x645]), (0xfcab, [0x62e, 0x62c]), (0xfcac, [0x62e, 0x645]),
    (0xfcad, [0x633, 0x62c]), (0xfcae, [0x633, 0x62d]), (0xfcaf, [0x633, 0x62e]),
    (0xfcb0, [0x633, 0x645]), (0xfcb1, [0x635, 0x62d]), (0xfcb2, [0x635, 0x62e]),
    (0xfcb3, [0x635, 0x645]), (0xfcb4, [0x636, 0x62c]), (0xfcb5, [0x636, 0x62d]),
    (0xfcb6, [0x636, 0x62e]), (0xfcb7, [0x636, 0x645]), (0xfcb8, [0x637, 0x62d]),
    (0xfcb9, [0x638, 0x645]), (0xfcba, [0x639, 0x62c]), (0xfcbb, [0x639, 0x645]),
    (0xfcbc, [0x63a, 0x62c]), (0xfcbd, [0x63a, 0x645]), (0xfcbe, [0x641, 0x62c]),
    (0xfcbf, [0x641, 0x62d]), (0xfcc0, [0x641, 0x62e]), (0xfcc1, [0x641, 0x645]),
    (0xfcc2, [0x642, 0x62d]), (0xfcc3, [0x642, 0x645]), (0xfcc4, [0x643, 0x62c]),
    (0xfcc5, [0x643, 0x62d]), (0xfcc6, [0x643, 0x62e]), (0xfcc7, [0x643, 0x644]),
    (0xfcc8, [0x643, 0x645]), (0xfcc9, [0x644, 0x62c]), (0xfcca, [0x644, 0x62d]),
    (0xfccb, [0x644, 0x62e]), (0xfccc, [0x644, 0x645]), (0xfccd, [0x644, 0x647]),
    (0xfcce, [0x645, 0x62c]), (0xfccf, [0x645, 0x62d]), (0xfcd0, [0x645, 0x62e]),
    (0xfcd1, [0x645, 0x645]), (0xfcd2, [0x646, 0x62c]), (0xfcd3, [0x646, 0x62d]),
    (0xfcd4, [0x646, 0x62e]), (0xfcd5, [0x646, 0x645]), (0xfcd6, [0x646, 0x647]),
    (0xfcd7, [0x647, 0x62c]), (0xfcd8, [0x647, 0x645]), (0xfcd9, [0x647, 0x670]),
    (0xfcda, [0x64a, 0x62c]), (0xfcdb, [0x64a, 0x62d]), (0xfcdc, [0x64a, 0x62e]),
    (0xfcdd, [0x64a, 0x645]), (0xfcde, [0x64a, 0x647]), (0xfcdf, [0x626, 0x645]),
    (0xfce0, [0x626, 0x647]), (0xfce1, [0x628, 0x645]), (0xfce2, [0x628, 0x647]),
    (0xfce3, [0x62a, 0x645]), (0xfce4, [0x62a, 0x647]), (0xfce5, [0x62b, 0x645]),
    (0xfce6, [0x62b, 0x647]), (0xfce7, [0x633, 0x645]), (0xfce8, [0x633, 0x647]),
    (0xfce9, [0x634, 0x645]), (0xfcea, [0x634, 0x647]), (0xfceb, [0x643, 0x644]),
    (0xfcec, [0x643, 0x645]), (0xfced, [0x644, 0x645]), (0xfcee, [0x646, 0x645]),
    (0xfcef, [0x646, 0x647]), (0xfcf0, [0x64a, 0x645]), (0xfcf1, [0x64a, 0x647]),
    (0xfcf2, [0x640, 0x64e, 0x651]), (0xfcf3, [0x640, 0x64f, 0x651]),
    (0xfcf4, [0x640, 0x650, 0x651]), (0xfcf5, [0x637, 0x649]), (0xfcf6, [0x637, 0x64a]),
    (0xfcf7, [0x639, 0x649]), (0xfcf8, [0x639, 0x64a]), (0xfcf9, [0x63a, 0x649]),
    (0xfcfa, [0x63a, 0x64a]), (0xfcfb, [0x633, 0x649]), (0xfcfc, [0x633, 0x64a]),
    (0xfcfd, [0x634, 0x649]), (0xfcfe, [0x634, 0x64a]), (0xfcff, [0x62d, 0x649]),
    (0xfd00, [0x62d, 0x64a]), (0xfd01, [0x62c, 0x649]), (0xfd02, [0x62c, 0x64a]),
    (0xfd03, [0x62e, 0x649]), (0xfd04, [0x62e, 0x64a]), (0xfd05, [0x635, 0x649]),
    (0xfd06, [0x635, 0x64a]), (0xfd07, [0x636, 0x649]), (0xfd08, [0x636, 0x64a]),
    (0xfd09, [0x634, 0x62c]), (0xfd0a, [0x634, 0x62d]), (0xfd0b, [0x634, 0x62e]),
    (0xfd0c, [0x634, 0x645]), (0xfd0d, [0x634, 0x631]), (0xfd0e, [0x633, 0x631]),
    (0xfd0f, [0x635, 0x631]), (0xfd10, [0x636, 0x631]), (0xfd11, [0x637, 0x649]),
    (0xfd12, [0x637, 0x64a]), (0xfd13, [0x639, 0x649]), (0xfd14, [0x639, 0x64a]),
    (0xfd15, [0x63a, 0x649]), (0xfd16, [0x63a, 0x64a]), (0xfd17, [0x633, 0x649]),
    (0xfd18, [0x633, 0x64a]), (0xfd19, [0x634, 0x649]), (0xfd1a, [0x634, 0x64a]),
    (0xfd1b, [0x62d, 0x649]), (0xfd1c, [0x62d, 0x64a]), (0xfd1d, [0x62c, 0x649]),
    (0xfd1e, [0x62c, 0x64a]), (0xfd1f, [0x62e, 0x649]), (0xfd20, [0x62e, 0x64a]),
    (0xfd21, [0x635, 0x649]), (0xfd22, [0x635, 0x64a]), (0xfd23, [0x636, 0x649]),
    (0xfd24, [0x636, 0x64a]), (0xfd25, [0x634, 0x62c]), (0xfd26, [0x634, 0x62d]),
    (0xfd27, [0x634, 0x62e]), (0xfd28, [0x634, 0x645]), (0xfd29, [0x634, 0x631]),
    (0xfd2a, [0x633, 0x631]), (0xfd2b, [0x635, 0x631]), (0xfd2c, [0x636, 0x631]),
    (0xfd2d, [0x634, 0x62c]), (0xfd2e, [0x634, 0x62d]), (0xfd2f, [0x634, 0x62e]),
    (0xfd30, [0x634, 0x645]), (0xfd31, [0x633, 0x647]), (0xfd32, [0x634, 0x647]),
    (0xfd33, [0x637, 0x645]), (0xfd34, [0x633, 0x62c]), (0xfd35, [0x633, 0x62d]),
    (0xfd36, [0x633, 0x62e]), (0xfd37, [0x634, 0x62c]), (0xfd38, [0x634, 0x62d]),
    (0xfd39, [0x634, 0x62e]), (0xfd3a, [0x637, 0x645]), (0xfd3b, [0x638, 0x645]),
    (0xfd3c, [0x627, 0x64b]), (0xfd3d, [0x627, 0x64b]), (0xfd50, [0x62a, 0x62c, 0x645]),
    (0xfd51, [0x62a, 0x62d, 0x62c]), (0xfd52, [0x62a, 0x62d, 0x62c]),
    (0xfd53, [0x62a, 0x62d, 0x645]), (0xfd54, [0x62a, 0x62e, 0x645]),
    (0xfd55, [0x62a, 0x645, 0x62c]), (0xfd56, [0x62a, 0x645, 0x62d]),
    (0xfd57, [0x62a, 0x645, 0x62e]), (0xfd58, [0x62c, 0x645, 0x62d]),
    (0xfd59, [0x62c, 0x645, 0x62d]), (0xfd5a, [0x62d, 0x645, 0x64a]),
    (0xfd5b, [0x62d, 0x645, 0x649]), (0xfd5c, [0x633, 0x62d, 0x62c]),
    (0xfd5d, [0x633, 0x62c, 0x62d]), (0xfd5e, [0x633, 0x62c, 0x649]),
    (0xfd5f, [0x633, 0x645, 0x62d]), (0xfd60, [0x633, 0x645, 0x62d]),
    (0xfd61, [0x633, 0x645, 0x62c]), (0xfd62, [0x633, 0x645, 0x645]),
    (0xfd63, [0x633, 0x645, 0x645]), (0xfd64, [0x635, 0x62d, 0x62d]),
    (0xfd65, [0x635, 0x62d, 0x62d]), (0xfd66, [0x635, 0x645, 0x645]),
    (0xfd67, [0x634, 0x62d, 0x645]), (0xfd68, [0x634, 0x62d, 0x645]),
    (0xfd69, [0x634, 0x62c, 0x64a]), (0xfd6a, [0x634, 0x645, 0x62e]),
    (0xfd6b, [0x634, 0x645, 0x62e]), (0xfd6c, [0x634, 0x645, 0x645]),
    (0xfd6d, [0x634, 0x645, 0x645]), (0xfd6e, [0x636, 0x62d, 0x649]),
    (0xfd6f, [0x636, 0x62e, 0x645]), (0xfd70, [0x636, 0x62e, 0x645]),
    (0xfd71, [0x637, 0x645, 0x62d]), (0xfd72, [0x637, 0x645, 0x62d]),
    (0xfd73, [0x637, 0x645, 0x645]), (0xfd74, [0x637, 0x645, 0x64a]),
    (0xfd75, [0x639, 0x62c, 0x645]), (0xfd76, [0x639, 0x645, 0x645]),
    (0xfd77, [0x639, 0x645, 0x645]), (0xfd78, [0x639, 0x645, 0x649]),
    (0xfd79, [0x63a, 0x645, 0x645]), (0xfd7a, [0x63a, 0x645, 0x64a]),
    (0xfd7b, [0x63a, 0x645, 0x649]), (0xfd7c, [0x641, 0x62e, 0x645]),
    (0xfd7d, [0x641, 0x62e, 0x645]), (0xfd7e, [0x642, 0x645, 0x62d]),
    (0xfd7f, [0x642, 0x645, 0x645]), (0xfd80, [0x644, 0x62d, 0x645]),
    (0xfd81, [0x644, 0x62d, 0x64a]), (0xfd82, [0x644, 0x62d, 0x649]),
    (0xfd83, [0x644, 0x62c, 0x62c]), (0xfd84, [0x644, 0x62c, 0x62c]),
    (0xfd85, [0x644, 0x62e, 0x645]) ]

private def expansionPairs5 : List (Nat × List Nat) :=
  [
    (0xfd86, [0x644, 0x62e, 0x645]), (0xfd87, [0x644, 0x645, 0x62d]),
    (0xfd88, [0x644, 0x645, 0x62d]), (0xfd89, [0x645, 0x62d, 0x62c]),
    (0xfd8a, [0x645, 0x62d, 0x645]), (0xfd8b, [0x645, 0x62d, 0x64a]),
    (0xfd8c, [0x645, 0x62c, 0x62d]), (0xfd8d, [0x645, 0x62c, 0x645]),
    (0xfd8e, [0x645, 0x62e, 0x62c]), (0xfd8f, [0x645, 0x62e, 0x645]),
    (0xfd92, [0x645, 0x62c, 0x62e]), (0xfd93, [0x647, 0x645, 0x62c]),
    (0xfd94, [0x647, 0x645, 0x645]), (0xfd95, [0x646, 0x62d, 0x645]),
    (0xfd96, [0x646, 0x62d, 0x649]), (0xfd97, [0x646, 0x62c, 0x645]),
    (0xfd98, [0x646, 0x62c, 0x645]), (0xfd99, [0x646, 0x62c, 0x649]),
    (0xfd9a, [0x646, 0x645, 0x64a]), (0xfd9b, [0x646, 0x645, 0x649]),
    (0xfd9c, [0x64a, 0x645, 0x645]), (0xfd9d, [0x64a, 0x645, 0x645]),
    (0xfd9e, [0x628, 0x62e, 0x64a]), (0xfd9f, [0x62a, 0x62c, 0x64a]),
    (0xfda0, [0x62a, 0x62c, 0x649]), (0xfda1, [0x62a, 0x62e, 0x64a]),
    (0xfda2, [0x62a, 0x62e, 0x649]), (0xfda3, [0x62a, 0x645, 0x64a]),
    (0xfda4, [0x62a, 0x645, 0x649]), (0xfda5, [0x62c, 0x645, 0x64a]),
    (0xfda6, [0x62c, 0x62d, 0x649]), (0xfda7, [0x62c, 0x645, 0x649]),
    (0xfda8, [0x633, 0x62e, 0x649]), (0xfda9, [0x635, 0x62d, 0x64a]),
    (0xfdaa, [0x634, 0x62d, 0x64a]), (0xfdab, [0x636, 0x62d, 0x64a]),
    (0xfdac, [0x644, 0x62c, 0x64a]), (0xfdad, [0x644, 0x645, 0x64a]),
    (0xfdae, [0x64a, 0x62d, 0x64a]), (0xfdaf, [0x64a, 0x62c, 0x64a]),
    (0xfdb0, [0x64a, 0x645, 0x64a]), (0xfdb1, [0x645, 0x645, 0x64a]),
    (0xfdb2, [0x642, 0x645, 0x64a]), (0xfdb3, [0x646, 0x62d, 0x64a]),
    (0xfdb4, [0x642, 0x645, 0x62d]), (0xfdb5, [0x644, 0x62d, 0x645]),
    (0xfdb6, [0x639, 0x645, 0x64a]), (0xfdb7, [0x643, 0x645, 0x64a]),
    (0xfdb8, [0x646, 0x62c, 0x62d]), (0xfdb9, [0x645, 0x62e, 0x64a]),
    (0xfdba, [0x644, 0x62c, 0x645]), (0xfdbb, [0x643, 0x645, 0x645]),
    (0xfdbc, [0x644, 0x62c, 0x645]), (0xfdbd, [0x646, 0x62c, 0x62d]),
    (0xfdbe, [0x62c, 0x62d, 0x64a]), (0xfdbf, [0x62d, 0x62c, 0x64a]),
    (0xfdc0, [0x645, 0x62c, 0x64a]), (0xfdc1, [0x641, 0x645, 0x64a]),
    (0xfdc2, [0x628, 0x62d, 0x64a]), (0xfdc3, [0x643, 0x645, 0x645]),
    (0xfdc4, [0x639, 0x62c, 0x645]), (0xfdc5, [0x635, 0x645, 0x645]),
    (0xfdc6, [0x633, 0x62e, 0x64a]), (0xfdc7, [0x646, 0x62c, 0x64a]),
    (0xfdf0, [0x635, 0x644, 0x6d2]), (0xfdf1, [0x642, 0x644, 0x6d2]),
    (0xfdf2, [0x627, 0x644, 0x644, 0x647]), (0xfdf3, [0x627, 0x643, 0x628, 0x631]),
    (0xfdf4, [0x645, 0x62d, 0x645, 0x62f]), (0xfdf5, [0x635, 0x644, 0x639, 0x645]),
    (0xfdf6, [0x631, 0x633, 0x648, 0x644]), (0xfdf7, [0x639, 0x644, 0x64a, 0x647]),
    (0xfdf8, [0x648, 0x633, 0x644, 0x645]), (0xfdf9, [0x635, 0x644, 0x649]),
    (0xfdfa, [0x635, 0x644, 0x649, 0x20, 0x627, 0x644, 0x644, 0x647, 0x20, 0x639, 0x644, 0x64a,
      0x647, 0x20, 0x648, 0x633, 0x644, 0x645]),
    (0xfdfb, [0x62c, 0x644, 0x20, 0x62c, 0x644, 0x627, 0x644, 0x647]),
    (0xfdfc, [0x631, 0x6cc, 0x627, 0x644]), (0xfe49, [0x20, 0x305]), (0xfe4a, [0x20, 0x305]),
    (0xfe4b, [0x20, 0x305]), (0xfe4c, [0x20, 0x305]), (0xfe70, [0x20, 0x64b]),
    (0xfe71, [0x640, 0x64b]), (0xfe72, [0x20, 0x64c]), (0xfe74, [0x20, 0x64d]),
    (0xfe76, [0x20, 0x64e]), (0xfe77, [0x640, 0x64e]), (0xfe78, [0x20, 0x64f]),
    (0xfe79, [0x640, 0x64f]), (0xfe7a, [0x20, 0x650]), (0xfe7b, [0x640, 0x650]),
    (0xfe7c, [0x20, 0x651]), (0xfe7d, [0x640, 0x651]), (0xfe7e, [0x20, 0x652]),
    (0xfe7f, [0x640, 0x652]), (0xfef5, [0x644, 0x622]), (0xfef6, [0x644, 0x622]),
    (0xfef7, [0x644, 0x623]), (0xfef8, [0x644, 0x623]), (0xfef9, [0x644, 0x625]),
    (0xfefa, [0x644, 0x625]), (0xfefb, [0x644, 0x627]), (0xfefc, [0x644, 0x627]),
    (0xffe3, [0x20, 0x304]), (0x1f101, [0x30, 0x2c]), (0x1f102, [0x31, 0x2c]),
    (0x1f103, [0x32, 0x2c]), (0x1f104, [0x33, 0x2c]), (0x1f105, [0x34, 0x2c]),
    (0x1f106, [0x35, 0x2c]), (0x1f107, [0x36, 0x2c]), (0x1f108, [0x37, 0x2c]),
    (0x1f109, [0x38, 0x2c]), (0x1f10a, [0x39, 0x2c]), (0x1f110, [0x28, 0x61, 0x29]),
    (0x1f111, [0x28, 0x62, 0x29]), (0x1f112, [0x28, 0x63, 0x29]), (0x1f113, [0x28, 0x64, 0x29]),
    (0x1f114, [0x28, 0x65, 0x29]), (0x1f115, [0x28, 0x66, 0x29]), (0x1f116, [0x28, 0x67, 0x29]),
    (0x1f117, [0x28, 0x68, 0x29]), (0x1f118, [0x28, 0x69, 0x29]), (0x1f119, [0x28, 0x6a, 0x29]),
    (0x1f11a, [0x28, 0x6b, 0x29]), (0x1f11b, [0x28, 0x6c, 0x29]), (0x1f11c, [0x28, 0x6d, 0x29]),
    (0x1f11d, [0x28, 0x6e, 0x29]), (0x1f11e, [0x28, 0x6f, 0x29]), (0x1f11f, [0x28, 0x70, 0x29]),
    (0x1f120, [0x28, 0x71, 0x29]), (0x1f121, [0x28, 0x72, 0x29]), (0x1f122, [0x28, 0x73, 0x29]),
    (0x1f123, [0x28, 0x74, 0x29]), (0x1f124, [0x28, 0x75, 0x29]), (0x1f125, [0x28, 0x76, 0x29]),
    (0x1f126, [0x28, 0x77, 0x29]), (0x1f127, [0x28, 0x78, 0x29]), (0x1f128, [0x28, 0x79, 0x29]),
    (0x1f129, [0x28, 0x7a, 0x29]), (0x1f12a, [0x3014, 0x73, 0x3015]), (0x1f12d, [0x63, 0x64]),
    (0x1f12e, [0x77, 0x7a]), (0x1f14a, [0x68, 0x76]), (0x1f14b, [0x6d, 0x76]),
    (0x1f14c, [0x73, 0x64]), (0x1f14d, [0x73, 0x73]), (0x1f14e, [0x70, 0x70, 0x76]),
    (0x1f14f, [0x77, 0x63]), (0x1f16a, [0x6d, 0x63]), (0x1f16b, [0x6d, 0x64]),
    (0x1f16c, [0x6d, 0x72]), (0x1f190, [0x64, 0x6a]), (0x1f200, [0x307b, 0x304b]),
    (0x1f201, [0x30b3, 0x30b3]), (0x1f240, [0x3014, 0x672c, 0x3015]),
    (0x1f241, [0x3014, 0x4e09, 0x3015]), (0x1f242, [0x3014, 0x4e8c, 0x3015]),
    (0x1f243, [0x3014, 0x5b89, 0x3015]), (0x1f244, [0x3014, 0x70b9, 0x3015]),
    (0x1f245, [0x3014, 0x6253, 0x3015]), (0x1f246, [0x3014, 0x76d7, 0x3015]),
    (0x1f247, [0x3014, 0x52dd, 0x3015]), (0x1f248, [0x3014, 0x6557, 0x3015]) ]

/-- Each character that stands for several, with those. -/
def expansions : List (Nat × List Nat) :=
  expansionPairs1 ++ expansionPairs2 ++ expansionPairs3 ++ expansionPairs4 ++ expansionPairs5

end Handoff.Url.Name
