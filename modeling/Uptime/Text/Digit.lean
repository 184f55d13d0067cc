/-!
Digits of Unicode 14.0. Decimal digits come in blocks of ten, zero to nine, each block
given by its zero. Other characters count as digits without a decimal value: superscripts,
circled and parenthesized digits and the like.
-/
namespace Uptime.Text

/-- The zero of each block of ten decimal digits. -/
def decimalZeros : Array Nat := #[
    0x30, 0x660, 0x6F0, 0x7C0, 0x966, 0x9E6, 0xA66, 0xAE6,
    0xB66, 0xBE6, 0xC66, 0xCE6, 0xD66, 0xDE6, 0xE50, 0xED0,
    0xF20, 0x1040, 0x1090, 0x17E0, 0x1810, 0x1946, 0x19D0, 0x1A80,
    0x1A90, 0x1B50, 0x1BB0, 0x1C40, 0x1C50, 0xA620, 0xA8D0, 0xA900,
    0xA9D0, 0xA9F0, 0xAA50, 0xABF0, 0xFF10, 0x104A0, 0x10D30, 0x11066,
    0x110F0, 0x11136, 0x111D0, 0x112F0, 0x11450, 0x114D0, 0x11650, 0x116C0,
    0x11730, 0x118E0, 0x11950, 0x11C50, 0x11D50, 0x11DA0, 0x16A60, 0x16AC0,
    0x16B50, 0x1D7CE, 0x1D7D8, 0x1D7E2, 0x1D7EC, 0x1D7F6, 0x1E140, 0x1E2F0,
    0x1E950, 0x1FBF0]

/-- Digits that are not decimal digits. -/
def otherDigits : Array Nat := #[
    0xB2, 0xB3, 0xB9, 0x1369, 0x136A, 0x136B, 0x136C, 0x136D,
    0x136E, 0x136F, 0x1370, 0x1371, 0x19DA, 0x2070, 0x2074, 0x2075,
    0x2076, 0x2077, 0x2078, 0x2079, 0x2080, 0x2081, 0x2082, 0x2083,
    0x2084, 0x2085, 0x2086, 0x2087, 0x2088, 0x2089, 0x2460, 0x2461,
    0x2462, 0x2463, 0x2464, 0x2465, 0x2466, 0x2467, 0x2468, 0x2474,
    0x2475, 0x2476, 0x2477, 0x2478, 0x2479, 0x247A, 0x247B, 0x247C,
    0x2488, 0x2489, 0x248A, 0x248B, 0x248C, 0x248D, 0x248E, 0x248F,
    0x2490, 0x24EA, 0x24F5, 0x24F6, 0x24F7, 0x24F8, 0x24F9, 0x24FA,
    0x24FB, 0x24FC, 0x24FD, 0x24FF, 0x2776, 0x2777, 0x2778, 0x2779,
    0x277A, 0x277B, 0x277C, 0x277D, 0x277E, 0x2780, 0x2781, 0x2782,
    0x2783, 0x2784, 0x2785, 0x2786, 0x2787, 0x2788, 0x278A, 0x278B,
    0x278C, 0x278D, 0x278E, 0x278F, 0x2790, 0x2791, 0x2792, 0x10A40,
    0x10A41, 0x10A42, 0x10A43, 0x10E60, 0x10E61, 0x10E62, 0x10E63, 0x10E64,
    0x10E65, 0x10E66, 0x10E67, 0x10E68, 0x11052, 0x11053, 0x11054, 0x11055,
    0x11056, 0x11057, 0x11058, 0x11059, 0x1105A, 0x1F100, 0x1F101, 0x1F102,
    0x1F103, 0x1F104, 0x1F105, 0x1F106, 0x1F107, 0x1F108, 0x1F109, 0x1F10A]

def decimalValue? (c : Char) : Option Nat :=
  let n := c.toNat
  (decimalZeros.find? fun z => z ≤ n ∧ n < z + 10).map (n - ·)

def isDigitChar (c : Char) : Bool :=
  (decimalValue? c).isSome || otherDigits.contains c.toNat

def decimalNumber? (s : String) : Option Nat :=
  s.toList.foldl (fun acc c => do
    let n ← acc
    let d ← decimalValue? c
    pure (n * 10 + d)) (some 0)

end Uptime.Text
