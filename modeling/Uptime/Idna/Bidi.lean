import Uptime.Text.Runs
/-!
Bidirectional classes (Unicode 14.0 database) of the code points a label may hold, which
the rule for labels with right-to-left characters reads.
-/

namespace Uptime.Idna

open Uptime.Text

/-- The bidirectional classes of code points a label may hold; `unknown` is the class
of characters the database does not have yet. -/
inductive BidiClass where
  | l
  | r
  | al
  | an
  | en
  | es
  | cs
  | et
  | on
  | bn
  | nsm
  | unknown
  deriving DecidableEq, Repr

/-- Runs `(lo, hi, class)` over the code points a label may hold; a run may span code
points a label may not hold, whose class it does not tell. -/
def bidiRuns : Array (Nat × Nat × BidiClass) := #[
    (0x2D, 0x2D, .es), (0x30, 0x39, .en), (0x61, 0x7A, .l), (0xB7, 0xB7, .on),
    (0xDF, 0x2AF, .l), (0x2B9, 0x2BA, .on), (0x2BB, 0x2C1, .l), (0x2C6, 0x2CF, .on),
    (0x2D0, 0x2D1, .l), (0x2EC, 0x2EC, .on), (0x2EE, 0x2EE, .l), (0x300, 0x36F, .nsm),
    (0x371, 0x373, .l), (0x375, 0x375, .on), (0x377, 0x481, .l), (0x483, 0x487, .nsm),
    (0x48B, 0x588, .l), (0x591, 0x5C7, .nsm), (0x5D0, 0x5F4, .r), (0x610, 0x61A, .nsm),
    (0x620, 0x64A, .al), (0x64B, 0x65F, .nsm), (0x660, 0x669, .an), (0x66E, 0x66F, .al),
    (0x670, 0x670, .nsm), (0x671, 0x6D5, .al), (0x6D6, 0x6E4, .nsm), (0x6E5, 0x6E6, .al),
    (0x6E7, 0x6ED, .nsm), (0x6EE, 0x6EF, .al), (0x6F0, 0x6F9, .en), (0x6FA, 0x710, .al),
    (0x711, 0x711, .nsm), (0x712, 0x72F, .al), (0x730, 0x74A, .nsm), (0x74D, 0x7A5, .al),
    (0x7A6, 0x7B0, .nsm), (0x7B1, 0x7B1, .al), (0x7C0, 0x7EA, .r), (0x7EB, 0x7F3, .nsm),
    (0x7F4, 0x7F5, .r), (0x7FD, 0x7FD, .nsm), (0x800, 0x815, .r), (0x816, 0x819, .nsm),
    (0x81A, 0x81A, .r), (0x81B, 0x823, .nsm), (0x824, 0x824, .r), (0x825, 0x827, .nsm),
    (0x828, 0x828, .r), (0x829, 0x82D, .nsm), (0x840, 0x858, .r), (0x859, 0x85B, .nsm),
    (0x860, 0x88E, .al), (0x88F, 0x897, .unknown), (0x898, 0x89F, .nsm), (0x8A0, 0x8C9, .al),
    (0x8CA, 0x902, .nsm), (0x903, 0x939, .l), (0x93A, 0x93A, .nsm), (0x93B, 0x93B, .l),
    (0x93C, 0x93C, .nsm), (0x93D, 0x940, .l), (0x941, 0x948, .nsm), (0x949, 0x94C, .l),
    (0x94D, 0x94D, .nsm), (0x94E, 0x950, .l), (0x951, 0x957, .nsm), (0x960, 0x961, .l),
    (0x962, 0x963, .nsm), (0x966, 0x980, .l), (0x981, 0x981, .nsm), (0x982, 0x9B9, .l),
    (0x9BC, 0x9BC, .nsm), (0x9BD, 0x9C0, .l), (0x9C1, 0x9C4, .nsm), (0x9C7, 0x9CC, .l),
    (0x9CD, 0x9CD, .nsm), (0x9CE, 0x9E1, .l), (0x9E2, 0x9E3, .nsm), (0x9E6, 0x9FC, .l),
    (0x9FE, 0xA02, .nsm), (0xA03, 0xA39, .l), (0xA3C, 0xA3C, .nsm), (0xA3E, 0xA40, .l),
    (0xA41, 0xA51, .nsm), (0xA5C, 0xA6F, .l), (0xA70, 0xA71, .nsm), (0xA72, 0xA74, .l),
    (0xA75, 0xA82, .nsm), (0xA83, 0xAB9, .l), (0xABC, 0xABC, .nsm), (0xABD, 0xAC0, .l),
    (0xAC1, 0xAC8, .nsm), (0xAC9, 0xACC, .l), (0xACD, 0xACD, .nsm), (0xAD0, 0xAE1, .l),
    (0xAE2, 0xAE3, .nsm), (0xAE6, 0xAF9, .l), (0xAFA, 0xB01, .nsm), (0xB02, 0xB39, .l),
    (0xB3C, 0xB3C, .nsm), (0xB3D, 0xB3E, .l), (0xB3F, 0xB3F, .nsm), (0xB40, 0xB40, .l),
    (0xB41, 0xB44, .nsm), (0xB47, 0xB4C, .l), (0xB4D, 0xB56, .nsm), (0xB57, 0xB61, .l),
    (0xB62, 0xB63, .nsm), (0xB66, 0xB71, .l), (0xB82, 0xB82, .nsm), (0xB83, 0xBBF, .l),
    (0xBC0, 0xBC0, .nsm), (0xBC1, 0xBCC, .l), (0xBCD, 0xBCD, .nsm), (0xBD0, 0xBEF, .l),
    (0xC00, 0xC00, .nsm), (0xC01, 0xC03, .l), (0xC04, 0xC04, .nsm), (0xC05, 0xC39, .l),
    (0xC3C, 0xC3C, .nsm), (0xC3D, 0xC3D, .l), (0xC3E, 0xC40, .nsm), (0xC41, 0xC44, .l),
    (0xC46, 0xC56, .nsm), (0xC58, 0xC5A, .l), (0xC5C, 0xC5C, .unknown), (0xC5D, 0xC61, .l),
    (0xC62, 0xC63, .nsm), (0xC66, 0xC80, .l), (0xC81, 0xC81, .nsm), (0xC82, 0xCB9, .l),
    (0xCBC, 0xCBC, .nsm), (0xCBD, 0xCCB, .l), (0xCCC, 0xCCD, .nsm), (0xCD5, 0xCD6, .l),
    (0xCDC, 0xCDC, .unknown), (0xCDD, 0xCE1, .l), (0xCE2, 0xCE3, .nsm), (0xCE6, 0xCF2, .l),
    (0xCF3, 0xCF3, .unknown), (0xD00, 0xD01, .nsm), (0xD02, 0xD3A, .l), (0xD3B, 0xD3C, .nsm),
    (0xD3D, 0xD40, .l), (0xD41, 0xD44, .nsm), (0xD46, 0xD4C, .l), (0xD4D, 0xD4D, .nsm),
    (0xD4E, 0xD61, .l), (0xD62, 0xD63, .nsm), (0xD66, 0xD7F, .l), (0xD81, 0xD81, .nsm),
    (0xD82, 0xDC6, .l), (0xDCA, 0xDCA, .nsm), (0xDCF, 0xDD1, .l), (0xDD2, 0xDD6, .nsm),
    (0xDD8, 0xE30, .l), (0xE31, 0xE31, .nsm), (0xE32, 0xE32, .l), (0xE34, 0xE3A, .nsm),
    (0xE40, 0xE46, .l), (0xE47, 0xE4E, .nsm), (0xE50, 0xEB0, .l), (0xEB1, 0xEB1, .nsm),
    (0xEB2, 0xEB2, .l), (0xEB4, 0xEBC, .nsm), (0xEBD, 0xEC6, .l), (0xEC8, 0xECD, .nsm),
    (0xECE, 0xECE, .unknown), (0xED0, 0xF0B, .l), (0xF18, 0xF19, .nsm), (0xF20, 0xF29, .l),
    (0xF35, 0xF39, .nsm), (0xF3E, 0xF6C, .l), (0xF71, 0xF7E, .nsm), (0xF7F, 0xF7F, .l),
    (0xF80, 0xF87, .nsm), (0xF88, 0xF8C, .l), (0xF8D, 0xFC6, .nsm), (0x1000, 0x102C, .l),
    (0x102D, 0x1030, .nsm), (0x1031, 0x1031, .l), (0x1032, 0x1037, .nsm), (0x1038, 0x1038, .l),
    (0x1039, 0x103A, .nsm), (0x103B, 0x103C, .l), (0x103D, 0x103E, .nsm), (0x103F, 0x1057, .l),
    (0x1058, 0x1059, .nsm), (0x105A, 0x105D, .l), (0x105E, 0x1060, .nsm), (0x1061, 0x1070, .l),
    (0x1071, 0x1074, .nsm), (0x1075, 0x1081, .l), (0x1082, 0x1082, .nsm), (0x1083, 0x1084, .l),
    (0x1085, 0x1086, .nsm), (0x1087, 0x108C, .l), (0x108D, 0x108D, .nsm), (0x108E, 0x109C, .l),
    (0x109D, 0x109D, .nsm), (0x10D0, 0x135A, .l), (0x135D, 0x135F, .nsm), (0x1380, 0x1711, .l),
    (0x1712, 0x1714, .nsm), (0x1715, 0x1731, .l), (0x1732, 0x1733, .nsm), (0x1734, 0x1751, .l),
    (0x1752, 0x1753, .nsm), (0x1760, 0x1770, .l), (0x1772, 0x1773, .nsm), (0x1780, 0x17B6, .l),
    (0x17B7, 0x17BD, .nsm), (0x17BE, 0x17C5, .l), (0x17C6, 0x17C6, .nsm), (0x17C7, 0x17C8, .l),
    (0x17C9, 0x17D3, .nsm), (0x17D7, 0x17DC, .l), (0x17DD, 0x17DD, .nsm), (0x17E0, 0x1884, .l),
    (0x1885, 0x1886, .nsm), (0x1887, 0x18A8, .l), (0x18A9, 0x18A9, .nsm), (0x18AA, 0x191E, .l),
    (0x1920, 0x1922, .nsm), (0x1923, 0x1926, .l), (0x1927, 0x1928, .nsm), (0x1929, 0x1931, .l),
    (0x1932, 0x1932, .nsm), (0x1933, 0x1938, .l), (0x1939, 0x193B, .nsm), (0x1946, 0x1A16, .l),
    (0x1A17, 0x1A18, .nsm), (0x1A19, 0x1A1A, .l), (0x1A1B, 0x1A1B, .nsm), (0x1A20, 0x1A55, .l),
    (0x1A56, 0x1A56, .nsm), (0x1A57, 0x1A57, .l), (0x1A58, 0x1A60, .nsm), (0x1A61, 0x1A61, .l),
    (0x1A62, 0x1A62, .nsm), (0x1A63, 0x1A64, .l), (0x1A65, 0x1A6C, .nsm), (0x1A6D, 0x1A72, .l),
    (0x1A73, 0x1A7F, .nsm), (0x1A80, 0x1AA7, .l), (0x1AB0, 0x1ACE, .nsm), (0x1ACF, 0x1AEB, .unknown),
    (0x1B00, 0x1B03, .nsm), (0x1B04, 0x1B33, .l), (0x1B34, 0x1B34, .nsm), (0x1B35, 0x1B35, .l),
    (0x1B36, 0x1B3A, .nsm), (0x1B3B, 0x1B3B, .l), (0x1B3C, 0x1B3C, .nsm), (0x1B3D, 0x1B41, .l),
    (0x1B42, 0x1B42, .nsm), (0x1B43, 0x1B59, .l), (0x1B6B, 0x1B81, .nsm), (0x1B82, 0x1BA1, .l),
    (0x1BA2, 0x1BA5, .nsm), (0x1BA6, 0x1BA7, .l), (0x1BA8, 0x1BA9, .nsm), (0x1BAA, 0x1BAA, .l),
    (0x1BAB, 0x1BAD, .nsm), (0x1BAE, 0x1BE5, .l), (0x1BE6, 0x1BE6, .nsm), (0x1BE7, 0x1BE7, .l),
    (0x1BE8, 0x1BE9, .nsm), (0x1BEA, 0x1BEC, .l), (0x1BED, 0x1BED, .nsm), (0x1BEE, 0x1BEE, .l),
    (0x1BEF, 0x1BF1, .nsm), (0x1BF2, 0x1C2B, .l), (0x1C2C, 0x1C33, .nsm), (0x1C34, 0x1C35, .l),
    (0x1C36, 0x1C37, .nsm), (0x1C40, 0x1C7D, .l), (0x1C8A, 0x1C8A, .unknown), (0x1CD0, 0x1CE0, .nsm),
    (0x1CE1, 0x1CE1, .l), (0x1CE2, 0x1CE8, .nsm), (0x1CE9, 0x1CEC, .l), (0x1CED, 0x1CED, .nsm),
    (0x1CEE, 0x1CF3, .l), (0x1CF4, 0x1CF4, .nsm), (0x1CF5, 0x1CF7, .l), (0x1CF8, 0x1CF9, .nsm),
    (0x1CFA, 0x1D9A, .l), (0x1DC0, 0x1DFF, .nsm), (0x1E01, 0x1FF6, .l), (0x200C, 0x200D, .bn),
    (0x214E, 0x2CEE, .l), (0x2CEF, 0x2CF1, .nsm), (0x2CF3, 0x2D67, .l), (0x2D7F, 0x2D7F, .nsm),
    (0x2D80, 0x2DDE, .l), (0x2DE0, 0x2DFF, .nsm), (0x2E2F, 0x2E2F, .on), (0x3005, 0x3007, .l),
    (0x302A, 0x302D, .nsm), (0x303C, 0x3096, .l), (0x3099, 0x309A, .nsm), (0x309D, 0x30FA, .l),
    (0x30FB, 0x30FB, .on), (0x30FC, 0xA66E, .l), (0xA66F, 0xA67D, .nsm), (0xA67F, 0xA67F, .on),
    (0xA681, 0xA69B, .l), (0xA69E, 0xA69F, .nsm), (0xA6A0, 0xA6E5, .l), (0xA6F0, 0xA6F1, .nsm),
    (0xA717, 0xA71F, .on), (0xA723, 0xA787, .l), (0xA788, 0xA788, .on), (0xA78C, 0xA7CA, .l),
    (0xA7CD, 0xA7CF, .unknown), (0xA7D1, 0xA7D9, .l), (0xA7DB, 0xA7DB, .unknown), (0xA7F6, 0xA801, .l),
    (0xA802, 0xA802, .nsm), (0xA803, 0xA805, .l), (0xA806, 0xA806, .nsm), (0xA807, 0xA80A, .l),
    (0xA80B, 0xA80B, .nsm), (0xA80C, 0xA824, .l), (0xA825, 0xA826, .nsm), (0xA827, 0xA827, .l),
    (0xA82C, 0xA82C, .nsm), (0xA840, 0xA8C3, .l), (0xA8C4, 0xA8C5, .nsm), (0xA8D0, 0xA8D9, .l),
    (0xA8E0, 0xA8F1, .nsm), (0xA8F2, 0xA8FE, .l), (0xA8FF, 0xA8FF, .nsm), (0xA900, 0xA925, .l),
    (0xA926, 0xA92D, .nsm), (0xA930, 0xA946, .l), (0xA947, 0xA951, .nsm), (0xA952, 0xA953, .l),
    (0xA980, 0xA982, .nsm), (0xA983, 0xA9B2, .l), (0xA9B3, 0xA9B3, .nsm), (0xA9B4, 0xA9B5, .l),
    (0xA9B6, 0xA9B9, .nsm), (0xA9BA, 0xA9BB, .l), (0xA9BC, 0xA9BD, .nsm), (0xA9BE, 0xA9E4, .l),
    (0xA9E5, 0xA9E5, .nsm), (0xA9E6, 0xAA28, .l), (0xAA29, 0xAA2E, .nsm), (0xAA2F, 0xAA30, .l),
    (0xAA31, 0xAA32, .nsm), (0xAA33, 0xAA34, .l), (0xAA35, 0xAA36, .nsm), (0xAA40, 0xAA42, .l),
    (0xAA43, 0xAA43, .nsm), (0xAA44, 0xAA4B, .l), (0xAA4C, 0xAA4C, .nsm), (0xAA4D, 0xAA7B, .l),
    (0xAA7C, 0xAA7C, .nsm), (0xAA7D, 0xAAAF, .l), (0xAAB0, 0xAAB0, .nsm), (0xAAB1, 0xAAB1, .l),
    (0xAAB2, 0xAAB4, .nsm), (0xAAB5, 0xAAB6, .l), (0xAAB7, 0xAAB8, .nsm), (0xAAB9, 0xAABD, .l),
    (0xAABE, 0xAABF, .nsm), (0xAAC0, 0xAAC0, .l), (0xAAC1, 0xAAC1, .nsm), (0xAAC2, 0xAAEB, .l),
    (0xAAEC, 0xAAED, .nsm), (0xAAEE, 0xAAF5, .l), (0xAAF6, 0xAAF6, .nsm), (0xAB01, 0xABE4, .l),
    (0xABE5, 0xABE5, .nsm), (0xABE6, 0xABE7, .l), (0xABE8, 0xABE8, .nsm), (0xABE9, 0xABEC, .l),
    (0xABED, 0xABED, .nsm), (0xABF0, 0xFA29, .l), (0xFB1E, 0xFE2F, .nsm), (0xFE73, 0xFE73, .al),
    (0x10000, 0x100FA, .l), (0x101FD, 0x101FD, .nsm), (0x10280, 0x102D0, .l), (0x102E0, 0x102E0, .nsm),
    (0x10300, 0x10375, .l), (0x10376, 0x1037A, .nsm), (0x10380, 0x105BC, .l), (0x105C0, 0x105F3, .unknown),
    (0x10600, 0x10780, .l), (0x10800, 0x10939, .r), (0x10940, 0x10959, .unknown), (0x10980, 0x10A00, .r),
    (0x10A01, 0x10A0F, .nsm), (0x10A10, 0x10A35, .r), (0x10A38, 0x10A3F, .nsm), (0x10A60, 0x10AE4, .r),
    (0x10AE5, 0x10AE6, .nsm), (0x10B00, 0x10CF2, .r), (0x10D00, 0x10D23, .al), (0x10D24, 0x10D27, .nsm),
    (0x10D30, 0x10D39, .an), (0x10D40, 0x10D85, .unknown), (0x10E80, 0x10EA9, .r), (0x10EAB, 0x10EAC, .nsm),
    (0x10EB0, 0x10EB1, .r), (0x10EC2, 0x10EFF, .unknown), (0x10F00, 0x10F27, .r), (0x10F30, 0x10F45, .al),
    (0x10F46, 0x10F50, .nsm), (0x10F70, 0x10F81, .r), (0x10F82, 0x10F85, .nsm), (0x10FB0, 0x10FF6, .r),
    (0x11000, 0x11000, .l), (0x11001, 0x11001, .nsm), (0x11002, 0x11037, .l), (0x11038, 0x11046, .nsm),
    (0x11066, 0x1106F, .l), (0x11070, 0x11070, .nsm), (0x11071, 0x11072, .l), (0x11073, 0x11074, .nsm),
    (0x11075, 0x11075, .l), (0x1107F, 0x11081, .nsm), (0x11082, 0x110B2, .l), (0x110B3, 0x110B6, .nsm),
    (0x110B7, 0x110B8, .l), (0x110B9, 0x110C2, .nsm), (0x110D0, 0x110F9, .l), (0x11100, 0x11102, .nsm),
    (0x11103, 0x11126, .l), (0x11127, 0x1112B, .nsm), (0x1112C, 0x1112C, .l), (0x1112D, 0x11134, .nsm),
    (0x11136, 0x11172, .l), (0x11173, 0x11173, .nsm), (0x11176, 0x11176, .l), (0x11180, 0x11181, .nsm),
    (0x11182, 0x111B5, .l), (0x111B6, 0x111BE, .nsm), (0x111BF, 0x111C4, .l), (0x111C9, 0x111CC, .nsm),
    (0x111CE, 0x111CE, .l), (0x111CF, 0x111CF, .nsm), (0x111D0, 0x1122E, .l), (0x1122F, 0x11231, .nsm),
    (0x11232, 0x11233, .l), (0x11234, 0x11234, .nsm), (0x11235, 0x11235, .l), (0x11236, 0x1123E, .nsm),
    (0x1123F, 0x11241, .unknown), (0x11280, 0x112DE, .l), (0x112DF, 0x112DF, .nsm), (0x112E0, 0x112E2, .l),
    (0x112E3, 0x112EA, .nsm), (0x112F0, 0x112F9, .l), (0x11300, 0x11301, .nsm), (0x11302, 0x11339, .l),
    (0x1133B, 0x1133C, .nsm), (0x1133D, 0x1133F, .l), (0x11340, 0x11340, .nsm), (0x11341, 0x11363, .l),
    (0x11366, 0x11374, .nsm), (0x11380, 0x113E2, .unknown), (0x11400, 0x11437, .l), (0x11438, 0x1143F, .nsm),
    (0x11440, 0x11441, .l), (0x11442, 0x11444, .nsm), (0x11445, 0x11445, .l), (0x11446, 0x11446, .nsm),
    (0x11447, 0x11459, .l), (0x1145E, 0x1145E, .nsm), (0x1145F, 0x114B2, .l), (0x114B3, 0x114B8, .nsm),
    (0x114B9, 0x114B9, .l), (0x114BA, 0x114BA, .nsm), (0x114BB, 0x114BE, .l), (0x114BF, 0x114C0, .nsm),
    (0x114C1, 0x114C1, .l), (0x114C2, 0x114C3, .nsm), (0x114C4, 0x115B1, .l), (0x115B2, 0x115B5, .nsm),
    (0x115B8, 0x115BB, .l), (0x115BC, 0x115BD, .nsm), (0x115BE, 0x115BE, .l), (0x115BF, 0x115C0, .nsm),
    (0x115D8, 0x115DB, .l), (0x115DC, 0x115DD, .nsm), (0x11600, 0x11632, .l), (0x11633, 0x1163A, .nsm),
    (0x1163B, 0x1163C, .l), (0x1163D, 0x1163D, .nsm), (0x1163E, 0x1163E, .l), (0x1163F, 0x11640, .nsm),
    (0x11644, 0x116AA, .l), (0x116AB, 0x116AB, .nsm), (0x116AC, 0x116AC, .l), (0x116AD, 0x116AD, .nsm),
    (0x116AE, 0x116AF, .l), (0x116B0, 0x116B5, .nsm), (0x116B6, 0x116B6, .l), (0x116B7, 0x116B7, .nsm),
    (0x116B8, 0x116C9, .l), (0x116D0, 0x116E3, .unknown), (0x11700, 0x1171A, .l), (0x1171D, 0x1171F, .nsm),
    (0x11720, 0x11721, .l), (0x11722, 0x11725, .nsm), (0x11726, 0x11726, .l), (0x11727, 0x1172B, .nsm),
    (0x11730, 0x1182E, .l), (0x1182F, 0x11837, .nsm), (0x11838, 0x11838, .l), (0x11839, 0x1183A, .nsm),
    (0x118C0, 0x11938, .l), (0x1193B, 0x1193C, .nsm), (0x1193D, 0x1193D, .l), (0x1193E, 0x1193E, .nsm),
    (0x1193F, 0x11942, .l), (0x11943, 0x11943, .nsm), (0x11950, 0x119D3, .l), (0x119D4, 0x119DB, .nsm),
    (0x119DC, 0x119DF, .l), (0x119E0, 0x119E0, .nsm), (0x119E1, 0x11A00, .l), (0x11A01, 0x11A06, .nsm),
    (0x11A07, 0x11A08, .l), (0x11A09, 0x11A0A, .nsm), (0x11A0B, 0x11A32, .l), (0x11A33, 0x11A38, .nsm),
    (0x11A39, 0x11A3A, .l), (0x11A3B, 0x11A47, .nsm), (0x11A50, 0x11A50, .l), (0x11A51, 0x11A56, .nsm),
    (0x11A57, 0x11A58, .l), (0x11A59, 0x11A5B, .nsm), (0x11A5C, 0x11A89, .l), (0x11A8A, 0x11A96, .nsm),
    (0x11A97, 0x11A97, .l), (0x11A98, 0x11A99, .nsm), (0x11A9D, 0x11AF8, .l), (0x11B60, 0x11BF9, .unknown),
    (0x11C00, 0x11C2F, .l), (0x11C30, 0x11C3D, .nsm), (0x11C3E, 0x11C8F, .l), (0x11C92, 0x11CA7, .nsm),
    (0x11CA9, 0x11CA9, .l), (0x11CAA, 0x11CB0, .nsm), (0x11CB1, 0x11CB1, .l), (0x11CB2, 0x11CB3, .nsm),
    (0x11CB4, 0x11CB4, .l), (0x11CB5, 0x11CB6, .nsm), (0x11D00, 0x11D30, .l), (0x11D31, 0x11D45, .nsm),
    (0x11D46, 0x11D46, .l), (0x11D47, 0x11D47, .nsm), (0x11D50, 0x11D8E, .l), (0x11D90, 0x11D91, .nsm),
    (0x11D93, 0x11D94, .l), (0x11D95, 0x11D95, .nsm), (0x11D96, 0x11D96, .l), (0x11D97, 0x11D97, .nsm),
    (0x11D98, 0x11DA9, .l), (0x11DB0, 0x11DE9, .unknown), (0x11EE0, 0x11EF2, .l), (0x11EF3, 0x11EF4, .nsm),
    (0x11EF5, 0x11EF6, .l), (0x11F00, 0x11F5A, .unknown), (0x11FB0, 0x1342E, .l), (0x1342F, 0x143FA, .unknown),
    (0x14400, 0x14646, .l), (0x16100, 0x16139, .unknown), (0x16800, 0x16AED, .l), (0x16AF0, 0x16AF4, .nsm),
    (0x16B00, 0x16B2F, .l), (0x16B30, 0x16B36, .nsm), (0x16B40, 0x16B8F, .l), (0x16D40, 0x16D79, .unknown),
    (0x16E60, 0x16E7F, .l), (0x16EBB, 0x16ED3, .unknown), (0x16F00, 0x16F4A, .l), (0x16F4F, 0x16F4F, .nsm),
    (0x16F50, 0x16F87, .l), (0x16F8F, 0x16F92, .nsm), (0x16F93, 0x16FE3, .l), (0x16FE4, 0x16FE4, .nsm),
    (0x16FF0, 0x16FF1, .l), (0x16FF2, 0x16FF3, .unknown), (0x17000, 0x187F7, .l), (0x187F8, 0x187FF, .unknown),
    (0x18800, 0x18CD5, .l), (0x18CFF, 0x18CFF, .unknown), (0x18D00, 0x18D08, .l), (0x18D09, 0x18DF2, .unknown),
    (0x1AFF0, 0x1B122, .l), (0x1B132, 0x1B132, .unknown), (0x1B150, 0x1B152, .l), (0x1B155, 0x1B155, .unknown),
    (0x1B164, 0x1BC99, .l), (0x1BC9D, 0x1DAAF, .nsm), (0x1DF00, 0x1DF1E, .l), (0x1DF25, 0x1DF2A, .unknown),
    (0x1E000, 0x1E02A, .nsm), (0x1E08F, 0x1E08F, .unknown), (0x1E100, 0x1E12C, .l), (0x1E130, 0x1E136, .nsm),
    (0x1E137, 0x1E2AD, .l), (0x1E2AE, 0x1E2AE, .nsm), (0x1E2C0, 0x1E2EB, .l), (0x1E2EC, 0x1E2EF, .nsm),
    (0x1E2F0, 0x1E2F9, .l), (0x1E4D0, 0x1E6FF, .unknown), (0x1E7E0, 0x1E7FE, .l), (0x1E800, 0x1E8C4, .r),
    (0x1E8D0, 0x1E8D6, .nsm), (0x1E922, 0x1E943, .r), (0x1E944, 0x1E94A, .nsm), (0x1E94B, 0x1E959, .r),
    (0x20000, 0x2B738, .l), (0x2B739, 0x2B73F, .unknown), (0x2B740, 0x2CEA1, .l), (0x2CEA2, 0x2CEAD, .unknown),
    (0x2CEB0, 0x2EBE0, .l), (0x2EBF0, 0x2EE5D, .unknown), (0x30000, 0x3134A, .l), (0x31350, 0x33479, .unknown)]

def bidiClass (n : Nat) : BidiClass :=
  (runValue? bidiRuns n).getD .unknown

end Uptime.Idna
