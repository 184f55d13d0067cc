import Uptime.Text.Runs
/-!
What a character is to the lower case of a capital sigma, in Unicode 14.0: a capital
sigma becomes the final form when a cased character comes before it and none after it,
looking past the case-ignorable characters on both sides.
-/

namespace Uptime.Text

/-- The two roles a character can play: passed over, or cased. A character both cased
and case-ignorable is passed over, so it has the first role. -/
inductive CaseRole where
  | ignorable
  | cased
  deriving DecidableEq, Repr

/-- Runs `(lo, hi, role)` of the characters with a role, sorted. -/
def caseRoleRuns : Array (Nat × Nat × CaseRole) := #[
    (0x27, 0x27, .ignorable), (0x2E, 0x2E, .ignorable), (0x3A, 0x3A, .ignorable), (0x41, 0x5A, .cased),
    (0x5E, 0x5E, .ignorable), (0x60, 0x60, .ignorable), (0x61, 0x7A, .cased), (0xA8, 0xA8, .ignorable),
    (0xAA, 0xAA, .cased), (0xAD, 0xAD, .ignorable), (0xAF, 0xAF, .ignorable), (0xB4, 0xB4, .ignorable),
    (0xB5, 0xB5, .cased), (0xB7, 0xB8, .ignorable), (0xBA, 0xBA, .cased), (0xC0, 0xD6, .cased),
    (0xD8, 0xF6, .cased), (0xF8, 0x1BA, .cased), (0x1BC, 0x1BF, .cased), (0x1C4, 0x293, .cased),
    (0x295, 0x2AF, .cased), (0x2B0, 0x36F, .ignorable), (0x370, 0x373, .cased), (0x374, 0x375, .ignorable),
    (0x376, 0x377, .cased), (0x37A, 0x37A, .ignorable), (0x37B, 0x37D, .cased), (0x37F, 0x37F, .cased),
    (0x384, 0x385, .ignorable), (0x386, 0x386, .cased), (0x387, 0x387, .ignorable), (0x388, 0x38A, .cased),
    (0x38C, 0x38C, .cased), (0x38E, 0x3A1, .cased), (0x3A3, 0x3F5, .cased), (0x3F7, 0x481, .cased),
    (0x483, 0x489, .ignorable), (0x48A, 0x52F, .cased), (0x531, 0x556, .cased), (0x559, 0x559, .ignorable),
    (0x55F, 0x55F, .ignorable), (0x560, 0x588, .cased), (0x591, 0x5BD, .ignorable), (0x5BF, 0x5BF, .ignorable),
    (0x5C1, 0x5C2, .ignorable), (0x5C4, 0x5C5, .ignorable), (0x5C7, 0x5C7, .ignorable), (0x5F4, 0x5F4, .ignorable),
    (0x600, 0x605, .ignorable), (0x610, 0x61A, .ignorable), (0x61C, 0x61C, .ignorable), (0x640, 0x640, .ignorable),
    (0x64B, 0x65F, .ignorable), (0x670, 0x670, .ignorable), (0x6D6, 0x6DD, .ignorable), (0x6DF, 0x6E8, .ignorable),
    (0x6EA, 0x6ED, .ignorable), (0x70F, 0x70F, .ignorable), (0x711, 0x711, .ignorable), (0x730, 0x74A, .ignorable),
    (0x7A6, 0x7B0, .ignorable), (0x7EB, 0x7F5, .ignorable), (0x7FA, 0x7FA, .ignorable), (0x7FD, 0x7FD, .ignorable),
    (0x816, 0x82D, .ignorable), (0x859, 0x85B, .ignorable), (0x888, 0x888, .ignorable), (0x890, 0x891, .ignorable),
    (0x898, 0x89F, .ignorable), (0x8C9, 0x902, .ignorable), (0x93A, 0x93A, .ignorable), (0x93C, 0x93C, .ignorable),
    (0x941, 0x948, .ignorable), (0x94D, 0x94D, .ignorable), (0x951, 0x957, .ignorable), (0x962, 0x963, .ignorable),
    (0x971, 0x971, .ignorable), (0x981, 0x981, .ignorable), (0x9BC, 0x9BC, .ignorable), (0x9C1, 0x9C4, .ignorable),
    (0x9CD, 0x9CD, .ignorable), (0x9E2, 0x9E3, .ignorable), (0x9FE, 0x9FE, .ignorable), (0xA01, 0xA02, .ignorable),
    (0xA3C, 0xA3C, .ignorable), (0xA41, 0xA42, .ignorable), (0xA47, 0xA48, .ignorable), (0xA4B, 0xA4D, .ignorable),
    (0xA51, 0xA51, .ignorable), (0xA70, 0xA71, .ignorable), (0xA75, 0xA75, .ignorable), (0xA81, 0xA82, .ignorable),
    (0xABC, 0xABC, .ignorable), (0xAC1, 0xAC5, .ignorable), (0xAC7, 0xAC8, .ignorable), (0xACD, 0xACD, .ignorable),
    (0xAE2, 0xAE3, .ignorable), (0xAFA, 0xAFF, .ignorable), (0xB01, 0xB01, .ignorable), (0xB3C, 0xB3C, .ignorable),
    (0xB3F, 0xB3F, .ignorable), (0xB41, 0xB44, .ignorable), (0xB4D, 0xB4D, .ignorable), (0xB55, 0xB56, .ignorable),
    (0xB62, 0xB63, .ignorable), (0xB82, 0xB82, .ignorable), (0xBC0, 0xBC0, .ignorable), (0xBCD, 0xBCD, .ignorable),
    (0xC00, 0xC00, .ignorable), (0xC04, 0xC04, .ignorable), (0xC3C, 0xC3C, .ignorable), (0xC3E, 0xC40, .ignorable),
    (0xC46, 0xC48, .ignorable), (0xC4A, 0xC4D, .ignorable), (0xC55, 0xC56, .ignorable), (0xC62, 0xC63, .ignorable),
    (0xC81, 0xC81, .ignorable), (0xCBC, 0xCBC, .ignorable), (0xCBF, 0xCBF, .ignorable), (0xCC6, 0xCC6, .ignorable),
    (0xCCC, 0xCCD, .ignorable), (0xCE2, 0xCE3, .ignorable), (0xD00, 0xD01, .ignorable), (0xD3B, 0xD3C, .ignorable),
    (0xD41, 0xD44, .ignorable), (0xD4D, 0xD4D, .ignorable), (0xD62, 0xD63, .ignorable), (0xD81, 0xD81, .ignorable),
    (0xDCA, 0xDCA, .ignorable), (0xDD2, 0xDD4, .ignorable), (0xDD6, 0xDD6, .ignorable), (0xE31, 0xE31, .ignorable),
    (0xE34, 0xE3A, .ignorable), (0xE46, 0xE4E, .ignorable), (0xEB1, 0xEB1, .ignorable), (0xEB4, 0xEBC, .ignorable),
    (0xEC6, 0xEC6, .ignorable), (0xEC8, 0xECD, .ignorable), (0xF18, 0xF19, .ignorable), (0xF35, 0xF35, .ignorable),
    (0xF37, 0xF37, .ignorable), (0xF39, 0xF39, .ignorable), (0xF71, 0xF7E, .ignorable), (0xF80, 0xF84, .ignorable),
    (0xF86, 0xF87, .ignorable), (0xF8D, 0xF97, .ignorable), (0xF99, 0xFBC, .ignorable), (0xFC6, 0xFC6, .ignorable),
    (0x102D, 0x1030, .ignorable), (0x1032, 0x1037, .ignorable), (0x1039, 0x103A, .ignorable), (0x103D, 0x103E, .ignorable),
    (0x1058, 0x1059, .ignorable), (0x105E, 0x1060, .ignorable), (0x1071, 0x1074, .ignorable), (0x1082, 0x1082, .ignorable),
    (0x1085, 0x1086, .ignorable), (0x108D, 0x108D, .ignorable), (0x109D, 0x109D, .ignorable), (0x10A0, 0x10C5, .cased),
    (0x10C7, 0x10C7, .cased), (0x10CD, 0x10CD, .cased), (0x10D0, 0x10FA, .cased), (0x10FC, 0x10FC, .ignorable),
    (0x10FD, 0x10FF, .cased), (0x135D, 0x135F, .ignorable), (0x13A0, 0x13F5, .cased), (0x13F8, 0x13FD, .cased),
    (0x1712, 0x1714, .ignorable), (0x1732, 0x1733, .ignorable), (0x1752, 0x1753, .ignorable), (0x1772, 0x1773, .ignorable),
    (0x17B4, 0x17B5, .ignorable), (0x17B7, 0x17BD, .ignorable), (0x17C6, 0x17C6, .ignorable), (0x17C9, 0x17D3, .ignorable),
    (0x17D7, 0x17D7, .ignorable), (0x17DD, 0x17DD, .ignorable), (0x180B, 0x180F, .ignorable), (0x1843, 0x1843, .ignorable),
    (0x1885, 0x1886, .ignorable), (0x18A9, 0x18A9, .ignorable), (0x1920, 0x1922, .ignorable), (0x1927, 0x1928, .ignorable),
    (0x1932, 0x1932, .ignorable), (0x1939, 0x193B, .ignorable), (0x1A17, 0x1A18, .ignorable), (0x1A1B, 0x1A1B, .ignorable),
    (0x1A56, 0x1A56, .ignorable), (0x1A58, 0x1A5E, .ignorable), (0x1A60, 0x1A60, .ignorable), (0x1A62, 0x1A62, .ignorable),
    (0x1A65, 0x1A6C, .ignorable), (0x1A73, 0x1A7C, .ignorable), (0x1A7F, 0x1A7F, .ignorable), (0x1AA7, 0x1AA7, .ignorable),
    (0x1AB0, 0x1ACE, .ignorable), (0x1B00, 0x1B03, .ignorable), (0x1B34, 0x1B34, .ignorable), (0x1B36, 0x1B3A, .ignorable),
    (0x1B3C, 0x1B3C, .ignorable), (0x1B42, 0x1B42, .ignorable), (0x1B6B, 0x1B73, .ignorable), (0x1B80, 0x1B81, .ignorable),
    (0x1BA2, 0x1BA5, .ignorable), (0x1BA8, 0x1BA9, .ignorable), (0x1BAB, 0x1BAD, .ignorable), (0x1BE6, 0x1BE6, .ignorable),
    (0x1BE8, 0x1BE9, .ignorable), (0x1BED, 0x1BED, .ignorable), (0x1BEF, 0x1BF1, .ignorable), (0x1C2C, 0x1C33, .ignorable),
    (0x1C36, 0x1C37, .ignorable), (0x1C78, 0x1C7D, .ignorable), (0x1C80, 0x1C88, .cased), (0x1C90, 0x1CBA, .cased),
    (0x1CBD, 0x1CBF, .cased), (0x1CD0, 0x1CD2, .ignorable), (0x1CD4, 0x1CE0, .ignorable), (0x1CE2, 0x1CE8, .ignorable),
    (0x1CED, 0x1CED, .ignorable), (0x1CF4, 0x1CF4, .ignorable), (0x1CF8, 0x1CF9, .ignorable), (0x1D00, 0x1D2B, .cased),
    (0x1D2C, 0x1D6A, .ignorable), (0x1D6B, 0x1D77, .cased), (0x1D78, 0x1D78, .ignorable), (0x1D79, 0x1D9A, .cased),
    (0x1D9B, 0x1DFF, .ignorable), (0x1E00, 0x1F15, .cased), (0x1F18, 0x1F1D, .cased), (0x1F20, 0x1F45, .cased),
    (0x1F48, 0x1F4D, .cased), (0x1F50, 0x1F57, .cased), (0x1F59, 0x1F59, .cased), (0x1F5B, 0x1F5B, .cased),
    (0x1F5D, 0x1F5D, .cased), (0x1F5F, 0x1F7D, .cased), (0x1F80, 0x1FB4, .cased), (0x1FB6, 0x1FBC, .cased),
    (0x1FBD, 0x1FBD, .ignorable), (0x1FBE, 0x1FBE, .cased), (0x1FBF, 0x1FC1, .ignorable), (0x1FC2, 0x1FC4, .cased),
    (0x1FC6, 0x1FCC, .cased), (0x1FCD, 0x1FCF, .ignorable), (0x1FD0, 0x1FD3, .cased), (0x1FD6, 0x1FDB, .cased),
    (0x1FDD, 0x1FDF, .ignorable), (0x1FE0, 0x1FEC, .cased), (0x1FED, 0x1FEF, .ignorable), (0x1FF2, 0x1FF4, .cased),
    (0x1FF6, 0x1FFC, .cased), (0x1FFD, 0x1FFE, .ignorable), (0x200B, 0x200F, .ignorable), (0x2018, 0x2019, .ignorable),
    (0x2024, 0x2024, .ignorable), (0x2027, 0x2027, .ignorable), (0x202A, 0x202E, .ignorable), (0x2060, 0x2064, .ignorable),
    (0x2066, 0x206F, .ignorable), (0x2071, 0x2071, .ignorable), (0x207F, 0x207F, .ignorable), (0x2090, 0x209C, .ignorable),
    (0x20D0, 0x20F0, .ignorable), (0x2102, 0x2102, .cased), (0x2107, 0x2107, .cased), (0x210A, 0x2113, .cased),
    (0x2115, 0x2115, .cased), (0x2119, 0x211D, .cased), (0x2124, 0x2124, .cased), (0x2126, 0x2126, .cased),
    (0x2128, 0x2128, .cased), (0x212A, 0x212D, .cased), (0x212F, 0x2134, .cased), (0x2139, 0x2139, .cased),
    (0x213C, 0x213F, .cased), (0x2145, 0x2149, .cased), (0x214E, 0x214E, .cased), (0x2160, 0x217F, .cased),
    (0x2183, 0x2184, .cased), (0x24B6, 0x24E9, .cased), (0x2C00, 0x2C7B, .cased), (0x2C7C, 0x2C7D, .ignorable),
    (0x2C7E, 0x2CE4, .cased), (0x2CEB, 0x2CEE, .cased), (0x2CEF, 0x2CF1, .ignorable), (0x2CF2, 0x2CF3, .cased),
    (0x2D00, 0x2D25, .cased), (0x2D27, 0x2D27, .cased), (0x2D2D, 0x2D2D, .cased), (0x2D6F, 0x2D6F, .ignorable),
    (0x2D7F, 0x2D7F, .ignorable), (0x2DE0, 0x2DFF, .ignorable), (0x2E2F, 0x2E2F, .ignorable), (0x3005, 0x3005, .ignorable),
    (0x302A, 0x302D, .ignorable), (0x3031, 0x3035, .ignorable), (0x303B, 0x303B, .ignorable), (0x3099, 0x309E, .ignorable),
    (0x30FC, 0x30FE, .ignorable), (0xA015, 0xA015, .ignorable), (0xA4F8, 0xA4FD, .ignorable), (0xA60C, 0xA60C, .ignorable),
    (0xA640, 0xA66D, .cased), (0xA66F, 0xA672, .ignorable), (0xA674, 0xA67D, .ignorable), (0xA67F, 0xA67F, .ignorable),
    (0xA680, 0xA69B, .cased), (0xA69C, 0xA69F, .ignorable), (0xA6F0, 0xA6F1, .ignorable), (0xA700, 0xA721, .ignorable),
    (0xA722, 0xA76F, .cased), (0xA770, 0xA770, .ignorable), (0xA771, 0xA787, .cased), (0xA788, 0xA78A, .ignorable),
    (0xA78B, 0xA78E, .cased), (0xA790, 0xA7CA, .cased), (0xA7D0, 0xA7D1, .cased), (0xA7D3, 0xA7D3, .cased),
    (0xA7D5, 0xA7D9, .cased), (0xA7F2, 0xA7F4, .ignorable), (0xA7F5, 0xA7F6, .cased), (0xA7F8, 0xA7F9, .ignorable),
    (0xA7FA, 0xA7FA, .cased), (0xA802, 0xA802, .ignorable), (0xA806, 0xA806, .ignorable), (0xA80B, 0xA80B, .ignorable),
    (0xA825, 0xA826, .ignorable), (0xA82C, 0xA82C, .ignorable), (0xA8C4, 0xA8C5, .ignorable), (0xA8E0, 0xA8F1, .ignorable),
    (0xA8FF, 0xA8FF, .ignorable), (0xA926, 0xA92D, .ignorable), (0xA947, 0xA951, .ignorable), (0xA980, 0xA982, .ignorable),
    (0xA9B3, 0xA9B3, .ignorable), (0xA9B6, 0xA9B9, .ignorable), (0xA9BC, 0xA9BD, .ignorable), (0xA9CF, 0xA9CF, .ignorable),
    (0xA9E5, 0xA9E6, .ignorable), (0xAA29, 0xAA2E, .ignorable), (0xAA31, 0xAA32, .ignorable), (0xAA35, 0xAA36, .ignorable),
    (0xAA43, 0xAA43, .ignorable), (0xAA4C, 0xAA4C, .ignorable), (0xAA70, 0xAA70, .ignorable), (0xAA7C, 0xAA7C, .ignorable),
    (0xAAB0, 0xAAB0, .ignorable), (0xAAB2, 0xAAB4, .ignorable), (0xAAB7, 0xAAB8, .ignorable), (0xAABE, 0xAABF, .ignorable),
    (0xAAC1, 0xAAC1, .ignorable), (0xAADD, 0xAADD, .ignorable), (0xAAEC, 0xAAED, .ignorable), (0xAAF3, 0xAAF4, .ignorable),
    (0xAAF6, 0xAAF6, .ignorable), (0xAB30, 0xAB5A, .cased), (0xAB5B, 0xAB5F, .ignorable), (0xAB60, 0xAB68, .cased),
    (0xAB69, 0xAB6B, .ignorable), (0xAB70, 0xABBF, .cased), (0xABE5, 0xABE5, .ignorable), (0xABE8, 0xABE8, .ignorable),
    (0xABED, 0xABED, .ignorable), (0xFB00, 0xFB06, .cased), (0xFB13, 0xFB17, .cased), (0xFB1E, 0xFB1E, .ignorable),
    (0xFBB2, 0xFBC2, .ignorable), (0xFE00, 0xFE0F, .ignorable), (0xFE13, 0xFE13, .ignorable), (0xFE20, 0xFE2F, .ignorable),
    (0xFE52, 0xFE52, .ignorable), (0xFE55, 0xFE55, .ignorable), (0xFEFF, 0xFEFF, .ignorable), (0xFF07, 0xFF07, .ignorable),
    (0xFF0E, 0xFF0E, .ignorable), (0xFF1A, 0xFF1A, .ignorable), (0xFF21, 0xFF3A, .cased), (0xFF3E, 0xFF3E, .ignorable),
    (0xFF40, 0xFF40, .ignorable), (0xFF41, 0xFF5A, .cased), (0xFF70, 0xFF70, .ignorable), (0xFF9E, 0xFF9F, .ignorable),
    (0xFFE3, 0xFFE3, .ignorable), (0xFFF9, 0xFFFB, .ignorable), (0x101FD, 0x101FD, .ignorable), (0x102E0, 0x102E0, .ignorable),
    (0x10376, 0x1037A, .ignorable), (0x10400, 0x1044F, .cased), (0x104B0, 0x104D3, .cased), (0x104D8, 0x104FB, .cased),
    (0x10570, 0x1057A, .cased), (0x1057C, 0x1058A, .cased), (0x1058C, 0x10592, .cased), (0x10594, 0x10595, .cased),
    (0x10597, 0x105A1, .cased), (0x105A3, 0x105B1, .cased), (0x105B3, 0x105B9, .cased), (0x105BB, 0x105BC, .cased),
    (0x10780, 0x10785, .ignorable), (0x10787, 0x107B0, .ignorable), (0x107B2, 0x107BA, .ignorable), (0x10A01, 0x10A03, .ignorable),
    (0x10A05, 0x10A06, .ignorable), (0x10A0C, 0x10A0F, .ignorable), (0x10A38, 0x10A3A, .ignorable), (0x10A3F, 0x10A3F, .ignorable),
    (0x10AE5, 0x10AE6, .ignorable), (0x10C80, 0x10CB2, .cased), (0x10CC0, 0x10CF2, .cased), (0x10D24, 0x10D27, .ignorable),
    (0x10EAB, 0x10EAC, .ignorable), (0x10F46, 0x10F50, .ignorable), (0x10F82, 0x10F85, .ignorable), (0x11001, 0x11001, .ignorable),
    (0x11038, 0x11046, .ignorable), (0x11070, 0x11070, .ignorable), (0x11073, 0x11074, .ignorable), (0x1107F, 0x11081, .ignorable),
    (0x110B3, 0x110B6, .ignorable), (0x110B9, 0x110BA, .ignorable), (0x110BD, 0x110BD, .ignorable), (0x110C2, 0x110C2, .ignorable),
    (0x110CD, 0x110CD, .ignorable), (0x11100, 0x11102, .ignorable), (0x11127, 0x1112B, .ignorable), (0x1112D, 0x11134, .ignorable),
    (0x11173, 0x11173, .ignorable), (0x11180, 0x11181, .ignorable), (0x111B6, 0x111BE, .ignorable), (0x111C9, 0x111CC, .ignorable),
    (0x111CF, 0x111CF, .ignorable), (0x1122F, 0x11231, .ignorable), (0x11234, 0x11234, .ignorable), (0x11236, 0x11237, .ignorable),
    (0x1123E, 0x1123E, .ignorable), (0x112DF, 0x112DF, .ignorable), (0x112E3, 0x112EA, .ignorable), (0x11300, 0x11301, .ignorable),
    (0x1133B, 0x1133C, .ignorable), (0x11340, 0x11340, .ignorable), (0x11366, 0x1136C, .ignorable), (0x11370, 0x11374, .ignorable),
    (0x11438, 0x1143F, .ignorable), (0x11442, 0x11444, .ignorable), (0x11446, 0x11446, .ignorable), (0x1145E, 0x1145E, .ignorable),
    (0x114B3, 0x114B8, .ignorable), (0x114BA, 0x114BA, .ignorable), (0x114BF, 0x114C0, .ignorable), (0x114C2, 0x114C3, .ignorable),
    (0x115B2, 0x115B5, .ignorable), (0x115BC, 0x115BD, .ignorable), (0x115BF, 0x115C0, .ignorable), (0x115DC, 0x115DD, .ignorable),
    (0x11633, 0x1163A, .ignorable), (0x1163D, 0x1163D, .ignorable), (0x1163F, 0x11640, .ignorable), (0x116AB, 0x116AB, .ignorable),
    (0x116AD, 0x116AD, .ignorable), (0x116B0, 0x116B5, .ignorable), (0x116B7, 0x116B7, .ignorable), (0x1171D, 0x1171F, .ignorable),
    (0x11722, 0x11725, .ignorable), (0x11727, 0x1172B, .ignorable), (0x1182F, 0x11837, .ignorable), (0x11839, 0x1183A, .ignorable),
    (0x118A0, 0x118DF, .cased), (0x1193B, 0x1193C, .ignorable), (0x1193E, 0x1193E, .ignorable), (0x11943, 0x11943, .ignorable),
    (0x119D4, 0x119D7, .ignorable), (0x119DA, 0x119DB, .ignorable), (0x119E0, 0x119E0, .ignorable), (0x11A01, 0x11A0A, .ignorable),
    (0x11A33, 0x11A38, .ignorable), (0x11A3B, 0x11A3E, .ignorable), (0x11A47, 0x11A47, .ignorable), (0x11A51, 0x11A56, .ignorable),
    (0x11A59, 0x11A5B, .ignorable), (0x11A8A, 0x11A96, .ignorable), (0x11A98, 0x11A99, .ignorable), (0x11C30, 0x11C36, .ignorable),
    (0x11C38, 0x11C3D, .ignorable), (0x11C3F, 0x11C3F, .ignorable), (0x11C92, 0x11CA7, .ignorable), (0x11CAA, 0x11CB0, .ignorable),
    (0x11CB2, 0x11CB3, .ignorable), (0x11CB5, 0x11CB6, .ignorable), (0x11D31, 0x11D36, .ignorable), (0x11D3A, 0x11D3A, .ignorable),
    (0x11D3C, 0x11D3D, .ignorable), (0x11D3F, 0x11D45, .ignorable), (0x11D47, 0x11D47, .ignorable), (0x11D90, 0x11D91, .ignorable),
    (0x11D95, 0x11D95, .ignorable), (0x11D97, 0x11D97, .ignorable), (0x11EF3, 0x11EF4, .ignorable), (0x13430, 0x13438, .ignorable),
    (0x16AF0, 0x16AF4, .ignorable), (0x16B30, 0x16B36, .ignorable), (0x16B40, 0x16B43, .ignorable), (0x16E40, 0x16E7F, .cased),
    (0x16F4F, 0x16F4F, .ignorable), (0x16F8F, 0x16F9F, .ignorable), (0x16FE0, 0x16FE1, .ignorable), (0x16FE3, 0x16FE4, .ignorable),
    (0x1AFF0, 0x1AFF3, .ignorable), (0x1AFF5, 0x1AFFB, .ignorable), (0x1AFFD, 0x1AFFE, .ignorable), (0x1BC9D, 0x1BC9E, .ignorable),
    (0x1BCA0, 0x1BCA3, .ignorable), (0x1CF00, 0x1CF2D, .ignorable), (0x1CF30, 0x1CF46, .ignorable), (0x1D167, 0x1D169, .ignorable),
    (0x1D173, 0x1D182, .ignorable), (0x1D185, 0x1D18B, .ignorable), (0x1D1AA, 0x1D1AD, .ignorable), (0x1D242, 0x1D244, .ignorable),
    (0x1D400, 0x1D454, .cased), (0x1D456, 0x1D49C, .cased), (0x1D49E, 0x1D49F, .cased), (0x1D4A2, 0x1D4A2, .cased),
    (0x1D4A5, 0x1D4A6, .cased), (0x1D4A9, 0x1D4AC, .cased), (0x1D4AE, 0x1D4B9, .cased), (0x1D4BB, 0x1D4BB, .cased),
    (0x1D4BD, 0x1D4C3, .cased), (0x1D4C5, 0x1D505, .cased), (0x1D507, 0x1D50A, .cased), (0x1D50D, 0x1D514, .cased),
    (0x1D516, 0x1D51C, .cased), (0x1D51E, 0x1D539, .cased), (0x1D53B, 0x1D53E, .cased), (0x1D540, 0x1D544, .cased),
    (0x1D546, 0x1D546, .cased), (0x1D54A, 0x1D550, .cased), (0x1D552, 0x1D6A5, .cased), (0x1D6A8, 0x1D6C0, .cased),
    (0x1D6C2, 0x1D6DA, .cased), (0x1D6DC, 0x1D6FA, .cased), (0x1D6FC, 0x1D714, .cased), (0x1D716, 0x1D734, .cased),
    (0x1D736, 0x1D74E, .cased), (0x1D750, 0x1D76E, .cased), (0x1D770, 0x1D788, .cased), (0x1D78A, 0x1D7A8, .cased),
    (0x1D7AA, 0x1D7C2, .cased), (0x1D7C4, 0x1D7CB, .cased), (0x1DA00, 0x1DA36, .ignorable), (0x1DA3B, 0x1DA6C, .ignorable),
    (0x1DA75, 0x1DA75, .ignorable), (0x1DA84, 0x1DA84, .ignorable), (0x1DA9B, 0x1DA9F, .ignorable), (0x1DAA1, 0x1DAAF, .ignorable),
    (0x1DF00, 0x1DF09, .cased), (0x1DF0B, 0x1DF1E, .cased), (0x1E000, 0x1E006, .ignorable), (0x1E008, 0x1E018, .ignorable),
    (0x1E01B, 0x1E021, .ignorable), (0x1E023, 0x1E024, .ignorable), (0x1E026, 0x1E02A, .ignorable), (0x1E130, 0x1E13D, .ignorable),
    (0x1E2AE, 0x1E2AE, .ignorable), (0x1E2EC, 0x1E2EF, .ignorable), (0x1E8D0, 0x1E8D6, .ignorable), (0x1E900, 0x1E943, .cased),
    (0x1E944, 0x1E94B, .ignorable), (0x1F130, 0x1F149, .cased), (0x1F150, 0x1F169, .cased), (0x1F170, 0x1F189, .cased),
    (0x1F3FB, 0x1F3FF, .ignorable), (0xE0001, 0xE0001, .ignorable), (0xE0020, 0xE007F, .ignorable), (0xE0100, 0xE01EF, .ignorable)]

def caseRole? (c : Char) : Option CaseRole :=
  runValue? caseRoleRuns c.toNat

end Uptime.Text
