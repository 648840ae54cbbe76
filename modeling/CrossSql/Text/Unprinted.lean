/-!
# Characters without a printed form of their own

A character is unprinted for one of two reasons. Controls, format characters, separators other than
the space, private, unassigned and ignorable points leave nothing to look at. A mark that extends
the character before it would change that character instead of standing for itself. The two
halfwidth sound marks extend a character as well, but they are letters, so they are printed.

## Main definitions

* `glyphless`, `extending`: the two tables.
* `isUnprinted`: the characters in either.
-/

namespace CrossSql.Text

/-- A table of code points: ascending ranges, each with its first point and the first point after
it. -/
abbrev PointTable := List (Nat × Nat)

def PointTable.has (t : PointTable) (c : Char) : Bool :=
  t.any fun range => range.1 ≤ c.toNat && c.toNat < range.2

/-- The points of the general categories Other and Separator, without the space, and the points
with the property Default_Ignorable_Code_Point. -/
def glyphless : PointTable :=
  [(0x0, 0x20), (0x7F, 0xA1), (0xAD, 0xAE), (0x34F, 0x350), (0x378, 0x37A), (0x380, 0x384),
   (0x38B, 0x38C), (0x38D, 0x38E), (0x3A2, 0x3A3), (0x530, 0x531), (0x557, 0x559), (0x58B, 0x58D),
   (0x590, 0x591), (0x5C8, 0x5D0), (0x5EB, 0x5EF), (0x5F5, 0x606), (0x61C, 0x61D), (0x6DD, 0x6DE),
   (0x70E, 0x710), (0x74B, 0x74D), (0x7B2, 0x7C0), (0x7FB, 0x7FD), (0x82E, 0x830), (0x83F, 0x840),
   (0x85C, 0x85E), (0x85F, 0x860), (0x86B, 0x870), (0x890, 0x897), (0x8E2, 0x8E3), (0x984, 0x985),
   (0x98D, 0x98F), (0x991, 0x993), (0x9A9, 0x9AA), (0x9B1, 0x9B2), (0x9B3, 0x9B6), (0x9BA, 0x9BC),
   (0x9C5, 0x9C7), (0x9C9, 0x9CB), (0x9CF, 0x9D7), (0x9D8, 0x9DC), (0x9DE, 0x9DF), (0x9E4, 0x9E6),
   (0x9FF, 0xA01), (0xA04, 0xA05), (0xA0B, 0xA0F), (0xA11, 0xA13), (0xA29, 0xA2A), (0xA31, 0xA32),
   (0xA34, 0xA35), (0xA37, 0xA38), (0xA3A, 0xA3C), (0xA3D, 0xA3E), (0xA43, 0xA47), (0xA49, 0xA4B),
   (0xA4E, 0xA51), (0xA52, 0xA59), (0xA5D, 0xA5E), (0xA5F, 0xA66), (0xA77, 0xA81), (0xA84, 0xA85),
   (0xA8E, 0xA8F), (0xA92, 0xA93), (0xAA9, 0xAAA), (0xAB1, 0xAB2), (0xAB4, 0xAB5), (0xABA, 0xABC),
   (0xAC6, 0xAC7), (0xACA, 0xACB), (0xACE, 0xAD0), (0xAD1, 0xAE0), (0xAE4, 0xAE6), (0xAF2, 0xAF9),
   (0xB00, 0xB01), (0xB04, 0xB05), (0xB0D, 0xB0F), (0xB11, 0xB13), (0xB29, 0xB2A), (0xB31, 0xB32),
   (0xB34, 0xB35), (0xB3A, 0xB3C), (0xB45, 0xB47), (0xB49, 0xB4B), (0xB4E, 0xB55), (0xB58, 0xB5C),
   (0xB5E, 0xB5F), (0xB64, 0xB66), (0xB78, 0xB82), (0xB84, 0xB85), (0xB8B, 0xB8E), (0xB91, 0xB92),
   (0xB96, 0xB99), (0xB9B, 0xB9C), (0xB9D, 0xB9E), (0xBA0, 0xBA3), (0xBA5, 0xBA8), (0xBAB, 0xBAE),
   (0xBBA, 0xBBE), (0xBC3, 0xBC6), (0xBC9, 0xBCA), (0xBCE, 0xBD0), (0xBD1, 0xBD7), (0xBD8, 0xBE6),
   (0xBFB, 0xC00), (0xC0D, 0xC0E), (0xC11, 0xC12), (0xC29, 0xC2A), (0xC3A, 0xC3C), (0xC45, 0xC46),
   (0xC49, 0xC4A), (0xC4E, 0xC55), (0xC57, 0xC58), (0xC5B, 0xC5C), (0xC5E, 0xC60), (0xC64, 0xC66),
   (0xC70, 0xC77), (0xC8D, 0xC8E), (0xC91, 0xC92), (0xCA9, 0xCAA), (0xCB4, 0xCB5), (0xCBA, 0xCBC),
   (0xCC5, 0xCC6), (0xCC9, 0xCCA), (0xCCE, 0xCD5), (0xCD7, 0xCDC), (0xCDF, 0xCE0), (0xCE4, 0xCE6),
   (0xCF0, 0xCF1), (0xCF4, 0xD00), (0xD0D, 0xD0E), (0xD11, 0xD12), (0xD45, 0xD46), (0xD49, 0xD4A),
   (0xD50, 0xD54), (0xD64, 0xD66), (0xD80, 0xD81), (0xD84, 0xD85), (0xD97, 0xD9A), (0xDB2, 0xDB3),
   (0xDBC, 0xDBD), (0xDBE, 0xDC0), (0xDC7, 0xDCA), (0xDCB, 0xDCF), (0xDD5, 0xDD6), (0xDD7, 0xDD8),
   (0xDE0, 0xDE6), (0xDF0, 0xDF2), (0xDF5, 0xE01), (0xE3B, 0xE3F), (0xE5C, 0xE81), (0xE83, 0xE84),
   (0xE85, 0xE86), (0xE8B, 0xE8C), (0xEA4, 0xEA5), (0xEA6, 0xEA7), (0xEBE, 0xEC0), (0xEC5, 0xEC6),
   (0xEC7, 0xEC8), (0xECF, 0xED0), (0xEDA, 0xEDC), (0xEE0, 0xF00), (0xF48, 0xF49), (0xF6D, 0xF71),
   (0xF98, 0xF99), (0xFBD, 0xFBE), (0xFCD, 0xFCE), (0xFDB, 0x1000), (0x10C6, 0x10C7),
   (0x10C8, 0x10CD), (0x10CE, 0x10D0), (0x115F, 0x1161), (0x1249, 0x124A), (0x124E, 0x1250),
   (0x1257, 0x1258), (0x1259, 0x125A), (0x125E, 0x1260), (0x1289, 0x128A), (0x128E, 0x1290),
   (0x12B1, 0x12B2), (0x12B6, 0x12B8), (0x12BF, 0x12C0), (0x12C1, 0x12C2), (0x12C6, 0x12C8),
   (0x12D7, 0x12D8), (0x1311, 0x1312), (0x1316, 0x1318), (0x135B, 0x135D), (0x137D, 0x1380),
   (0x139A, 0x13A0), (0x13F6, 0x13F8), (0x13FE, 0x1400), (0x1680, 0x1681), (0x169D, 0x16A0),
   (0x16F9, 0x1700), (0x1716, 0x171F), (0x1737, 0x1740), (0x1754, 0x1760), (0x176D, 0x176E),
   (0x1771, 0x1772), (0x1774, 0x1780), (0x17B4, 0x17B6), (0x17DE, 0x17E0), (0x17EA, 0x17F0),
   (0x17FA, 0x1800), (0x180B, 0x1810), (0x181A, 0x1820), (0x1879, 0x1880), (0x18AB, 0x18B0),
   (0x18F6, 0x1900), (0x191F, 0x1920), (0x192C, 0x1930), (0x193C, 0x1940), (0x1941, 0x1944),
   (0x196E, 0x1970), (0x1975, 0x1980), (0x19AC, 0x19B0), (0x19CA, 0x19D0), (0x19DB, 0x19DE),
   (0x1A1C, 0x1A1E), (0x1A5F, 0x1A60), (0x1A7D, 0x1A7F), (0x1A8A, 0x1A90), (0x1A9A, 0x1AA0),
   (0x1AAE, 0x1AB0), (0x1ADE, 0x1AE0), (0x1AEC, 0x1B00), (0x1B4D, 0x1B4E), (0x1BF4, 0x1BFC),
   (0x1C38, 0x1C3B), (0x1C4A, 0x1C4D), (0x1C8B, 0x1C90), (0x1CBB, 0x1CBD), (0x1CC8, 0x1CD0),
   (0x1CFB, 0x1D00), (0x1F16, 0x1F18), (0x1F1E, 0x1F20), (0x1F46, 0x1F48), (0x1F4E, 0x1F50),
   (0x1F58, 0x1F59), (0x1F5A, 0x1F5B), (0x1F5C, 0x1F5D), (0x1F5E, 0x1F5F), (0x1F7E, 0x1F80),
   (0x1FB5, 0x1FB6), (0x1FC5, 0x1FC6), (0x1FD4, 0x1FD6), (0x1FDC, 0x1FDD), (0x1FF0, 0x1FF2),
   (0x1FF5, 0x1FF6), (0x1FFF, 0x2010), (0x2028, 0x2030), (0x205F, 0x2070), (0x2072, 0x2074),
   (0x208F, 0x2090), (0x209D, 0x20A0), (0x20C2, 0x20D0), (0x20F1, 0x2100), (0x218C, 0x2190),
   (0x242A, 0x2440), (0x244B, 0x2460), (0x2B74, 0x2B76), (0x2CF4, 0x2CF9), (0x2D26, 0x2D27),
   (0x2D28, 0x2D2D), (0x2D2E, 0x2D30), (0x2D68, 0x2D6F), (0x2D71, 0x2D7F), (0x2D97, 0x2DA0),
   (0x2DA7, 0x2DA8), (0x2DAF, 0x2DB0), (0x2DB7, 0x2DB8), (0x2DBF, 0x2DC0), (0x2DC7, 0x2DC8),
   (0x2DCF, 0x2DD0), (0x2DD7, 0x2DD8), (0x2DDF, 0x2DE0), (0x2E5E, 0x2E80), (0x2E9A, 0x2E9B),
   (0x2EF4, 0x2F00), (0x2FD6, 0x2FF0), (0x3000, 0x3001), (0x3040, 0x3041), (0x3097, 0x3099),
   (0x3100, 0x3105), (0x3130, 0x3131), (0x3164, 0x3165), (0x318F, 0x3190), (0x31E6, 0x31EF),
   (0x321F, 0x3220), (0xA48D, 0xA490), (0xA4C7, 0xA4D0), (0xA62C, 0xA640), (0xA6F8, 0xA700),
   (0xA7DD, 0xA7F1), (0xA82D, 0xA830), (0xA83A, 0xA840), (0xA878, 0xA880), (0xA8C6, 0xA8CE),
   (0xA8DA, 0xA8E0), (0xA954, 0xA95F), (0xA97D, 0xA980), (0xA9CE, 0xA9CF), (0xA9DA, 0xA9DE),
   (0xA9FF, 0xAA00), (0xAA37, 0xAA40), (0xAA4E, 0xAA50), (0xAA5A, 0xAA5C), (0xAAC3, 0xAADB),
   (0xAAF7, 0xAB01), (0xAB07, 0xAB09), (0xAB0F, 0xAB11), (0xAB17, 0xAB20), (0xAB27, 0xAB28),
   (0xAB2F, 0xAB30), (0xAB6C, 0xAB70), (0xABEE, 0xABF0), (0xABFA, 0xAC00), (0xD7A4, 0xD7B0),
   (0xD7C7, 0xD7CB), (0xD7FC, 0xF900), (0xFA6E, 0xFA70), (0xFADA, 0xFB00), (0xFB07, 0xFB13),
   (0xFB18, 0xFB1D), (0xFB37, 0xFB38), (0xFB3D, 0xFB3E), (0xFB3F, 0xFB40), (0xFB42, 0xFB43),
   (0xFB45, 0xFB46), (0xFDD0, 0xFDF0), (0xFE00, 0xFE10), (0xFE1A, 0xFE20), (0xFE53, 0xFE54),
   (0xFE67, 0xFE68), (0xFE6C, 0xFE70), (0xFE75, 0xFE76), (0xFEFD, 0xFF01), (0xFFA0, 0xFFA1),
   (0xFFBF, 0xFFC2), (0xFFC8, 0xFFCA), (0xFFD0, 0xFFD2), (0xFFD8, 0xFFDA), (0xFFDD, 0xFFE0),
   (0xFFE7, 0xFFE8), (0xFFEF, 0xFFFC), (0xFFFE, 0x10000), (0x1000C, 0x1000D), (0x10027, 0x10028),
   (0x1003B, 0x1003C), (0x1003E, 0x1003F), (0x1004E, 0x10050), (0x1005E, 0x10080),
   (0x100FB, 0x10100), (0x10103, 0x10107), (0x10134, 0x10137), (0x1018F, 0x10190),
   (0x1019D, 0x101A0), (0x101A1, 0x101D0), (0x101FE, 0x10280), (0x1029D, 0x102A0),
   (0x102D1, 0x102E0), (0x102FC, 0x10300), (0x10324, 0x1032D), (0x1034B, 0x10350),
   (0x1037B, 0x10380), (0x1039E, 0x1039F), (0x103C4, 0x103C8), (0x103D6, 0x10400),
   (0x1049E, 0x104A0), (0x104AA, 0x104B0), (0x104D4, 0x104D8), (0x104FC, 0x10500),
   (0x10528, 0x10530), (0x10564, 0x1056F), (0x1057B, 0x1057C), (0x1058B, 0x1058C),
   (0x10593, 0x10594), (0x10596, 0x10597), (0x105A2, 0x105A3), (0x105B2, 0x105B3),
   (0x105BA, 0x105BB), (0x105BD, 0x105C0), (0x105F4, 0x10600), (0x10737, 0x10740),
   (0x10756, 0x10760), (0x10768, 0x10780), (0x10786, 0x10787), (0x107B1, 0x107B2),
   (0x107BB, 0x10800), (0x10806, 0x10808), (0x10809, 0x1080A), (0x10836, 0x10837),
   (0x10839, 0x1083C), (0x1083D, 0x1083F), (0x10856, 0x10857), (0x1089F, 0x108A7),
   (0x108B0, 0x108E0), (0x108F3, 0x108F4), (0x108F6, 0x108FB), (0x1091C, 0x1091F),
   (0x1093A, 0x1093F), (0x1095A, 0x10980), (0x109B8, 0x109BC), (0x109D0, 0x109D2),
   (0x10A04, 0x10A05), (0x10A07, 0x10A0C), (0x10A14, 0x10A15), (0x10A18, 0x10A19),
   (0x10A36, 0x10A38), (0x10A3B, 0x10A3F), (0x10A49, 0x10A50), (0x10A59, 0x10A60),
   (0x10AA0, 0x10AC0), (0x10AE7, 0x10AEB), (0x10AF7, 0x10B00), (0x10B36, 0x10B39),
   (0x10B56, 0x10B58), (0x10B73, 0x10B78), (0x10B92, 0x10B99), (0x10B9D, 0x10BA9),
   (0x10BB0, 0x10C00), (0x10C49, 0x10C80), (0x10CB3, 0x10CC0), (0x10CF3, 0x10CFA),
   (0x10D28, 0x10D30), (0x10D3A, 0x10D40), (0x10D66, 0x10D69), (0x10D86, 0x10D8E),
   (0x10D90, 0x10E60), (0x10E7F, 0x10E80), (0x10EAA, 0x10EAB), (0x10EAE, 0x10EB0),
   (0x10EB2, 0x10EC2), (0x10EC8, 0x10ED0), (0x10ED9, 0x10EFA), (0x10F28, 0x10F30),
   (0x10F5A, 0x10F70), (0x10F8A, 0x10FB0), (0x10FCC, 0x10FE0), (0x10FF7, 0x11000),
   (0x1104E, 0x11052), (0x11076, 0x1107F), (0x110BD, 0x110BE), (0x110C3, 0x110D0),
   (0x110E9, 0x110F0), (0x110FA, 0x11100), (0x11135, 0x11136), (0x11148, 0x11150),
   (0x11177, 0x11180), (0x111E0, 0x111E1), (0x111F5, 0x11200), (0x11212, 0x11213),
   (0x11242, 0x11280), (0x11287, 0x11288), (0x11289, 0x1128A), (0x1128E, 0x1128F),
   (0x1129E, 0x1129F), (0x112AA, 0x112B0), (0x112EB, 0x112F0), (0x112FA, 0x11300),
   (0x11304, 0x11305), (0x1130D, 0x1130F), (0x11311, 0x11313), (0x11329, 0x1132A),
   (0x11331, 0x11332), (0x11334, 0x11335), (0x1133A, 0x1133B), (0x11345, 0x11347),
   (0x11349, 0x1134B), (0x1134E, 0x11350), (0x11351, 0x11357), (0x11358, 0x1135D),
   (0x11364, 0x11366), (0x1136D, 0x11370), (0x11375, 0x11380), (0x1138A, 0x1138B),
   (0x1138C, 0x1138E), (0x1138F, 0x11390), (0x113B6, 0x113B7), (0x113C1, 0x113C2),
   (0x113C3, 0x113C5), (0x113C6, 0x113C7), (0x113CB, 0x113CC), (0x113D6, 0x113D7),
   (0x113D9, 0x113E1), (0x113E3, 0x11400), (0x1145C, 0x1145D), (0x11462, 0x11480),
   (0x114C8, 0x114D0), (0x114DA, 0x11580), (0x115B6, 0x115B8), (0x115DE, 0x11600),
   (0x11645, 0x11650), (0x1165A, 0x11660), (0x1166D, 0x11680), (0x116BA, 0x116C0),
   (0x116CA, 0x116D0), (0x116E4, 0x11700), (0x1171B, 0x1171D), (0x1172C, 0x11730),
   (0x11747, 0x11800), (0x1183C, 0x118A0), (0x118F3, 0x118FF), (0x11907, 0x11909),
   (0x1190A, 0x1190C), (0x11914, 0x11915), (0x11917, 0x11918), (0x11936, 0x11937),
   (0x11939, 0x1193B), (0x11947, 0x11950), (0x1195A, 0x119A0), (0x119A8, 0x119AA),
   (0x119D8, 0x119DA), (0x119E5, 0x11A00), (0x11A48, 0x11A50), (0x11AA3, 0x11AB0),
   (0x11AF9, 0x11B00), (0x11B0A, 0x11B60), (0x11B68, 0x11BC0), (0x11BE2, 0x11BF0),
   (0x11BFA, 0x11C00), (0x11C09, 0x11C0A), (0x11C37, 0x11C38), (0x11C46, 0x11C50),
   (0x11C6D, 0x11C70), (0x11C90, 0x11C92), (0x11CA8, 0x11CA9), (0x11CB7, 0x11D00),
   (0x11D07, 0x11D08), (0x11D0A, 0x11D0B), (0x11D37, 0x11D3A), (0x11D3B, 0x11D3C),
   (0x11D3E, 0x11D3F), (0x11D48, 0x11D50), (0x11D5A, 0x11D60), (0x11D66, 0x11D67),
   (0x11D69, 0x11D6A), (0x11D8F, 0x11D90), (0x11D92, 0x11D93), (0x11D99, 0x11DA0),
   (0x11DAA, 0x11DB0), (0x11DDC, 0x11DE0), (0x11DEA, 0x11EE0), (0x11EF9, 0x11F00),
   (0x11F11, 0x11F12), (0x11F3B, 0x11F3E), (0x11F5B, 0x11FB0), (0x11FB1, 0x11FC0),
   (0x11FF2, 0x11FFF), (0x1239A, 0x12400), (0x1246F, 0x12470), (0x12475, 0x12480),
   (0x12544, 0x12F90), (0x12FF3, 0x13000), (0x13430, 0x13440), (0x13456, 0x13460),
   (0x143FB, 0x14400), (0x14647, 0x16100), (0x1613A, 0x16800), (0x16A39, 0x16A40),
   (0x16A5F, 0x16A60), (0x16A6A, 0x16A6E), (0x16ABF, 0x16AC0), (0x16ACA, 0x16AD0),
   (0x16AEE, 0x16AF0), (0x16AF6, 0x16B00), (0x16B46, 0x16B50), (0x16B5A, 0x16B5B),
   (0x16B62, 0x16B63), (0x16B78, 0x16B7D), (0x16B90, 0x16D40), (0x16D7A, 0x16E40),
   (0x16E9B, 0x16EA0), (0x16EB9, 0x16EBB), (0x16ED4, 0x16F00), (0x16F4B, 0x16F4F),
   (0x16F88, 0x16F8F), (0x16FA0, 0x16FE0), (0x16FE5, 0x16FF0), (0x16FF7, 0x17000),
   (0x18CD6, 0x18CFF), (0x18D1F, 0x18D80), (0x18DF3, 0x1AFF0), (0x1AFF4, 0x1AFF5),
   (0x1AFFC, 0x1AFFD), (0x1AFFF, 0x1B000), (0x1B123, 0x1B132), (0x1B133, 0x1B150),
   (0x1B153, 0x1B155), (0x1B156, 0x1B164), (0x1B168, 0x1B170), (0x1B2FC, 0x1BC00),
   (0x1BC6B, 0x1BC70), (0x1BC7D, 0x1BC80), (0x1BC89, 0x1BC90), (0x1BC9A, 0x1BC9C),
   (0x1BCA0, 0x1CC00), (0x1CCFD, 0x1CD00), (0x1CEB4, 0x1CEBA), (0x1CED1, 0x1CEE0),
   (0x1CEF1, 0x1CF00), (0x1CF2E, 0x1CF30), (0x1CF47, 0x1CF50), (0x1CFC4, 0x1D000),
   (0x1D0F6, 0x1D100), (0x1D127, 0x1D129), (0x1D173, 0x1D17B), (0x1D1EB, 0x1D200),
   (0x1D246, 0x1D2C0), (0x1D2D4, 0x1D2E0), (0x1D2F4, 0x1D300), (0x1D357, 0x1D360),
   (0x1D379, 0x1D400), (0x1D455, 0x1D456), (0x1D49D, 0x1D49E), (0x1D4A0, 0x1D4A2),
   (0x1D4A3, 0x1D4A5), (0x1D4A7, 0x1D4A9), (0x1D4AD, 0x1D4AE), (0x1D4BA, 0x1D4BB),
   (0x1D4BC, 0x1D4BD), (0x1D4C4, 0x1D4C5), (0x1D506, 0x1D507), (0x1D50B, 0x1D50D),
   (0x1D515, 0x1D516), (0x1D51D, 0x1D51E), (0x1D53A, 0x1D53B), (0x1D53F, 0x1D540),
   (0x1D545, 0x1D546), (0x1D547, 0x1D54A), (0x1D551, 0x1D552), (0x1D6A6, 0x1D6A8),
   (0x1D7CC, 0x1D7CE), (0x1DA8C, 0x1DA9B), (0x1DAA0, 0x1DAA1), (0x1DAB0, 0x1DF00),
   (0x1DF1F, 0x1DF25), (0x1DF2B, 0x1E000), (0x1E007, 0x1E008), (0x1E019, 0x1E01B),
   (0x1E022, 0x1E023), (0x1E025, 0x1E026), (0x1E02B, 0x1E030), (0x1E06E, 0x1E08F),
   (0x1E090, 0x1E100), (0x1E12D, 0x1E130), (0x1E13E, 0x1E140), (0x1E14A, 0x1E14E),
   (0x1E150, 0x1E290), (0x1E2AF, 0x1E2C0), (0x1E2FA, 0x1E2FF), (0x1E300, 0x1E4D0),
   (0x1E4FA, 0x1E5D0), (0x1E5FB, 0x1E5FF), (0x1E600, 0x1E6C0), (0x1E6DF, 0x1E6E0),
   (0x1E6F6, 0x1E6FE), (0x1E700, 0x1E7E0), (0x1E7E7, 0x1E7E8), (0x1E7EC, 0x1E7ED),
   (0x1E7EF, 0x1E7F0), (0x1E7FF, 0x1E800), (0x1E8C5, 0x1E8C7), (0x1E8D7, 0x1E900),
   (0x1E94C, 0x1E950), (0x1E95A, 0x1E95E), (0x1E960, 0x1EC71), (0x1ECB5, 0x1ED01),
   (0x1ED3E, 0x1EE00), (0x1EE04, 0x1EE05), (0x1EE20, 0x1EE21), (0x1EE23, 0x1EE24),
   (0x1EE25, 0x1EE27), (0x1EE28, 0x1EE29), (0x1EE33, 0x1EE34), (0x1EE38, 0x1EE39),
   (0x1EE3A, 0x1EE3B), (0x1EE3C, 0x1EE42), (0x1EE43, 0x1EE47), (0x1EE48, 0x1EE49),
   (0x1EE4A, 0x1EE4B), (0x1EE4C, 0x1EE4D), (0x1EE50, 0x1EE51), (0x1EE53, 0x1EE54),
   (0x1EE55, 0x1EE57), (0x1EE58, 0x1EE59), (0x1EE5A, 0x1EE5B), (0x1EE5C, 0x1EE5D),
   (0x1EE5E, 0x1EE5F), (0x1EE60, 0x1EE61), (0x1EE63, 0x1EE64), (0x1EE65, 0x1EE67),
   (0x1EE6B, 0x1EE6C), (0x1EE73, 0x1EE74), (0x1EE78, 0x1EE79), (0x1EE7D, 0x1EE7E),
   (0x1EE7F, 0x1EE80), (0x1EE8A, 0x1EE8B), (0x1EE9C, 0x1EEA1), (0x1EEA4, 0x1EEA5),
   (0x1EEAA, 0x1EEAB), (0x1EEBC, 0x1EEF0), (0x1EEF2, 0x1F000), (0x1F02C, 0x1F030),
   (0x1F094, 0x1F0A0), (0x1F0AF, 0x1F0B1), (0x1F0C0, 0x1F0C1), (0x1F0D0, 0x1F0D1),
   (0x1F0F6, 0x1F100), (0x1F1AE, 0x1F1E6), (0x1F203, 0x1F210), (0x1F23C, 0x1F240),
   (0x1F249, 0x1F250), (0x1F252, 0x1F260), (0x1F266, 0x1F300), (0x1F6D9, 0x1F6DC),
   (0x1F6ED, 0x1F6F0), (0x1F6FD, 0x1F700), (0x1F7DA, 0x1F7E0), (0x1F7EC, 0x1F7F0),
   (0x1F7F1, 0x1F800), (0x1F80C, 0x1F810), (0x1F848, 0x1F850), (0x1F85A, 0x1F860),
   (0x1F888, 0x1F890), (0x1F8AE, 0x1F8B0), (0x1F8BC, 0x1F8C0), (0x1F8C2, 0x1F8D0),
   (0x1F8D9, 0x1F900), (0x1FA58, 0x1FA60), (0x1FA6E, 0x1FA70), (0x1FA7D, 0x1FA80),
   (0x1FA8B, 0x1FA8E), (0x1FAC7, 0x1FAC8), (0x1FAC9, 0x1FACD), (0x1FADD, 0x1FADF),
   (0x1FAEB, 0x1FAEF), (0x1FAF9, 0x1FB00), (0x1FB93, 0x1FB94), (0x1FBFB, 0x20000),
   (0x2A6E0, 0x2A700), (0x2B81E, 0x2B820), (0x2CEAE, 0x2CEB0), (0x2EBE1, 0x2EBF0),
   (0x2EE5E, 0x2F800), (0x2FA1E, 0x30000), (0x3134B, 0x31350), (0x3347A, 0x110000)]

/-- The marks with the property Grapheme_Extend. -/
def extending : PointTable :=
  [(0x300, 0x370), (0x483, 0x48A), (0x591, 0x5BE), (0x5BF, 0x5C0), (0x5C1, 0x5C3), (0x5C4, 0x5C6),
   (0x5C7, 0x5C8), (0x610, 0x61B), (0x64B, 0x660), (0x670, 0x671), (0x6D6, 0x6DD), (0x6DF, 0x6E5),
   (0x6E7, 0x6E9), (0x6EA, 0x6EE), (0x711, 0x712), (0x730, 0x74B), (0x7A6, 0x7B1), (0x7EB, 0x7F4),
   (0x7FD, 0x7FE), (0x816, 0x81A), (0x81B, 0x824), (0x825, 0x828), (0x829, 0x82E), (0x859, 0x85C),
   (0x897, 0x8A0), (0x8CA, 0x8E2), (0x8E3, 0x903), (0x93A, 0x93B), (0x93C, 0x93D), (0x941, 0x949),
   (0x94D, 0x94E), (0x951, 0x958), (0x962, 0x964), (0x981, 0x982), (0x9BC, 0x9BD), (0x9BE, 0x9BF),
   (0x9C1, 0x9C5), (0x9CD, 0x9CE), (0x9D7, 0x9D8), (0x9E2, 0x9E4), (0x9FE, 0x9FF), (0xA01, 0xA03),
   (0xA3C, 0xA3D), (0xA41, 0xA43), (0xA47, 0xA49), (0xA4B, 0xA4E), (0xA51, 0xA52), (0xA70, 0xA72),
   (0xA75, 0xA76), (0xA81, 0xA83), (0xABC, 0xABD), (0xAC1, 0xAC6), (0xAC7, 0xAC9), (0xACD, 0xACE),
   (0xAE2, 0xAE4), (0xAFA, 0xB00), (0xB01, 0xB02), (0xB3C, 0xB3D), (0xB3E, 0xB40), (0xB41, 0xB45),
   (0xB4D, 0xB4E), (0xB55, 0xB58), (0xB62, 0xB64), (0xB82, 0xB83), (0xBBE, 0xBBF), (0xBC0, 0xBC1),
   (0xBCD, 0xBCE), (0xBD7, 0xBD8), (0xC00, 0xC01), (0xC04, 0xC05), (0xC3C, 0xC3D), (0xC3E, 0xC41),
   (0xC46, 0xC49), (0xC4A, 0xC4E), (0xC55, 0xC57), (0xC62, 0xC64), (0xC81, 0xC82), (0xCBC, 0xCBD),
   (0xCBF, 0xCC1), (0xCC2, 0xCC3), (0xCC6, 0xCC9), (0xCCA, 0xCCE), (0xCD5, 0xCD7), (0xCE2, 0xCE4),
   (0xD00, 0xD02), (0xD3B, 0xD3D), (0xD3E, 0xD3F), (0xD41, 0xD45), (0xD4D, 0xD4E), (0xD57, 0xD58),
   (0xD62, 0xD64), (0xD81, 0xD82), (0xDCA, 0xDCB), (0xDCF, 0xDD0), (0xDD2, 0xDD5), (0xDD6, 0xDD7),
   (0xDDF, 0xDE0), (0xE31, 0xE32), (0xE34, 0xE3B), (0xE47, 0xE4F), (0xEB1, 0xEB2), (0xEB4, 0xEBD),
   (0xEC8, 0xECF), (0xF18, 0xF1A), (0xF35, 0xF36), (0xF37, 0xF38), (0xF39, 0xF3A), (0xF71, 0xF7F),
   (0xF80, 0xF85), (0xF86, 0xF88), (0xF8D, 0xF98), (0xF99, 0xFBD), (0xFC6, 0xFC7),
   (0x102D, 0x1031), (0x1032, 0x1038), (0x1039, 0x103B), (0x103D, 0x103F), (0x1058, 0x105A),
   (0x105E, 0x1061), (0x1071, 0x1075), (0x1082, 0x1083), (0x1085, 0x1087), (0x108D, 0x108E),
   (0x109D, 0x109E), (0x135D, 0x1360), (0x1712, 0x1716), (0x1732, 0x1735), (0x1752, 0x1754),
   (0x1772, 0x1774), (0x17B4, 0x17B6), (0x17B7, 0x17BE), (0x17C6, 0x17C7), (0x17C9, 0x17D4),
   (0x17DD, 0x17DE), (0x180B, 0x180E), (0x180F, 0x1810), (0x1885, 0x1887), (0x18A9, 0x18AA),
   (0x1920, 0x1923), (0x1927, 0x1929), (0x1932, 0x1933), (0x1939, 0x193C), (0x1A17, 0x1A19),
   (0x1A1B, 0x1A1C), (0x1A56, 0x1A57), (0x1A58, 0x1A5F), (0x1A60, 0x1A61), (0x1A62, 0x1A63),
   (0x1A65, 0x1A6D), (0x1A73, 0x1A7D), (0x1A7F, 0x1A80), (0x1AB0, 0x1ADE), (0x1AE0, 0x1AEC),
   (0x1B00, 0x1B04), (0x1B34, 0x1B3E), (0x1B42, 0x1B45), (0x1B6B, 0x1B74), (0x1B80, 0x1B82),
   (0x1BA2, 0x1BA6), (0x1BA8, 0x1BAE), (0x1BE6, 0x1BE7), (0x1BE8, 0x1BEA), (0x1BED, 0x1BEE),
   (0x1BEF, 0x1BF4), (0x1C2C, 0x1C34), (0x1C36, 0x1C38), (0x1CD0, 0x1CD3), (0x1CD4, 0x1CE1),
   (0x1CE2, 0x1CE9), (0x1CED, 0x1CEE), (0x1CF4, 0x1CF5), (0x1CF8, 0x1CFA), (0x1DC0, 0x1E00),
   (0x20D0, 0x20F1), (0x2CEF, 0x2CF2), (0x2D7F, 0x2D80), (0x2DE0, 0x2E00), (0x302A, 0x3030),
   (0x3099, 0x309B), (0xA66F, 0xA673), (0xA674, 0xA67E), (0xA69E, 0xA6A0), (0xA6F0, 0xA6F2),
   (0xA802, 0xA803), (0xA806, 0xA807), (0xA80B, 0xA80C), (0xA825, 0xA827), (0xA82C, 0xA82D),
   (0xA8C4, 0xA8C6), (0xA8E0, 0xA8F2), (0xA8FF, 0xA900), (0xA926, 0xA92E), (0xA947, 0xA952),
   (0xA953, 0xA954), (0xA980, 0xA983), (0xA9B3, 0xA9B4), (0xA9B6, 0xA9BA), (0xA9BC, 0xA9BE),
   (0xA9C0, 0xA9C1), (0xA9E5, 0xA9E6), (0xAA29, 0xAA2F), (0xAA31, 0xAA33), (0xAA35, 0xAA37),
   (0xAA43, 0xAA44), (0xAA4C, 0xAA4D), (0xAA7C, 0xAA7D), (0xAAB0, 0xAAB1), (0xAAB2, 0xAAB5),
   (0xAAB7, 0xAAB9), (0xAABE, 0xAAC0), (0xAAC1, 0xAAC2), (0xAAEC, 0xAAEE), (0xAAF6, 0xAAF7),
   (0xABE5, 0xABE6), (0xABE8, 0xABE9), (0xABED, 0xABEE), (0xFB1E, 0xFB1F), (0xFE00, 0xFE10),
   (0xFE20, 0xFE30), (0x101FD, 0x101FE), (0x102E0, 0x102E1), (0x10376, 0x1037B),
   (0x10A01, 0x10A04), (0x10A05, 0x10A07), (0x10A0C, 0x10A10), (0x10A38, 0x10A3B),
   (0x10A3F, 0x10A40), (0x10AE5, 0x10AE7), (0x10D24, 0x10D28), (0x10D69, 0x10D6E),
   (0x10EAB, 0x10EAD), (0x10EFA, 0x10F00), (0x10F46, 0x10F51), (0x10F82, 0x10F86),
   (0x11001, 0x11002), (0x11038, 0x11047), (0x11070, 0x11071), (0x11073, 0x11075),
   (0x1107F, 0x11082), (0x110B3, 0x110B7), (0x110B9, 0x110BB), (0x110C2, 0x110C3),
   (0x11100, 0x11103), (0x11127, 0x1112C), (0x1112D, 0x11135), (0x11173, 0x11174),
   (0x11180, 0x11182), (0x111B6, 0x111BF), (0x111C0, 0x111C1), (0x111C9, 0x111CD),
   (0x111CF, 0x111D0), (0x1122F, 0x11232), (0x11234, 0x11238), (0x1123E, 0x1123F),
   (0x11241, 0x11242), (0x112DF, 0x112E0), (0x112E3, 0x112EB), (0x11300, 0x11302),
   (0x1133B, 0x1133D), (0x1133E, 0x1133F), (0x11340, 0x11341), (0x1134D, 0x1134E),
   (0x11357, 0x11358), (0x11366, 0x1136D), (0x11370, 0x11375), (0x113B8, 0x113B9),
   (0x113BB, 0x113C1), (0x113C2, 0x113C3), (0x113C5, 0x113C6), (0x113C7, 0x113CA),
   (0x113CE, 0x113D1), (0x113D2, 0x113D3), (0x113E1, 0x113E3), (0x11438, 0x11440),
   (0x11442, 0x11445), (0x11446, 0x11447), (0x1145E, 0x1145F), (0x114B0, 0x114B1),
   (0x114B3, 0x114B9), (0x114BA, 0x114BB), (0x114BD, 0x114BE), (0x114BF, 0x114C1),
   (0x114C2, 0x114C4), (0x115AF, 0x115B0), (0x115B2, 0x115B6), (0x115BC, 0x115BE),
   (0x115BF, 0x115C1), (0x115DC, 0x115DE), (0x11633, 0x1163B), (0x1163D, 0x1163E),
   (0x1163F, 0x11641), (0x116AB, 0x116AC), (0x116AD, 0x116AE), (0x116B0, 0x116B8),
   (0x1171D, 0x1171E), (0x1171F, 0x11720), (0x11722, 0x11726), (0x11727, 0x1172C),
   (0x1182F, 0x11838), (0x11839, 0x1183B), (0x11930, 0x11931), (0x1193B, 0x1193F),
   (0x11943, 0x11944), (0x119D4, 0x119D8), (0x119DA, 0x119DC), (0x119E0, 0x119E1),
   (0x11A01, 0x11A0B), (0x11A33, 0x11A39), (0x11A3B, 0x11A3F), (0x11A47, 0x11A48),
   (0x11A51, 0x11A57), (0x11A59, 0x11A5C), (0x11A8A, 0x11A97), (0x11A98, 0x11A9A),
   (0x11B60, 0x11B61), (0x11B62, 0x11B65), (0x11B66, 0x11B67), (0x11C30, 0x11C37),
   (0x11C38, 0x11C3E), (0x11C3F, 0x11C40), (0x11C92, 0x11CA8), (0x11CAA, 0x11CB1),
   (0x11CB2, 0x11CB4), (0x11CB5, 0x11CB7), (0x11D31, 0x11D37), (0x11D3A, 0x11D3B),
   (0x11D3C, 0x11D3E), (0x11D3F, 0x11D46), (0x11D47, 0x11D48), (0x11D90, 0x11D92),
   (0x11D95, 0x11D96), (0x11D97, 0x11D98), (0x11EF3, 0x11EF5), (0x11F00, 0x11F02),
   (0x11F36, 0x11F3B), (0x11F40, 0x11F43), (0x11F5A, 0x11F5B), (0x13440, 0x13441),
   (0x13447, 0x13456), (0x1611E, 0x1612A), (0x1612D, 0x16130), (0x16AF0, 0x16AF5),
   (0x16B30, 0x16B37), (0x16F4F, 0x16F50), (0x16F8F, 0x16F93), (0x16FE4, 0x16FE5),
   (0x16FF0, 0x16FF2), (0x1BC9D, 0x1BC9F), (0x1CF00, 0x1CF2E), (0x1CF30, 0x1CF47),
   (0x1D165, 0x1D16A), (0x1D16D, 0x1D173), (0x1D17B, 0x1D183), (0x1D185, 0x1D18C),
   (0x1D1AA, 0x1D1AE), (0x1D242, 0x1D245), (0x1DA00, 0x1DA37), (0x1DA3B, 0x1DA6D),
   (0x1DA75, 0x1DA76), (0x1DA84, 0x1DA85), (0x1DA9B, 0x1DAA0), (0x1DAA1, 0x1DAB0),
   (0x1E000, 0x1E007), (0x1E008, 0x1E019), (0x1E01B, 0x1E022), (0x1E023, 0x1E025),
   (0x1E026, 0x1E02B), (0x1E08F, 0x1E090), (0x1E130, 0x1E137), (0x1E2AE, 0x1E2AF),
   (0x1E2EC, 0x1E2F0), (0x1E4EC, 0x1E4F0), (0x1E5EE, 0x1E5F0), (0x1E6E3, 0x1E6E4),
   (0x1E6E6, 0x1E6E7), (0x1E6EE, 0x1E6F0), (0x1E6F5, 0x1E6F6), (0x1E8D0, 0x1E8D7),
   (0x1E944, 0x1E94B), (0xE0100, 0xE01F0)]

/-- Whether a character is shown by its code point instead of by itself. -/
def isUnprinted (c : Char) : Bool := extending.has c || glyphless.has c

end CrossSql.Text
