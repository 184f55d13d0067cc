import Uptime.Text.Quoted
/-!
Text written as UTF-8 strictly. Text decoded from escapes may hold surrogates standing
alone, which no UTF-8 sequence encodes: writing such text fails at the first run of
surrogates, named by the place of its first code point.
-/

namespace Uptime.Encoding

def isSurrogate (n : Nat) : Bool := 0xD800 ≤ n && n ≤ 0xDFFF

/-- A run of surrogates met while writing UTF-8: the surrogates and the place of the
first among the code points. -/
structure EncodeError where
  run : List Nat
  start : Nat
  deriving DecidableEq, Repr

/-- The words of an encoding error: the surrogate by its code when it stands alone, else
the places the run spans. -/
def EncodeError.message (e : EncodeError) : String :=
  match e.run with
  | [u] => "'utf-8' codec can't encode character '\\u" ++ Text.hexPadded 4 u ++
      "' in position " ++ toString e.start ++ ": surrogates not allowed"
  | _ => "'utf-8' codec can't encode characters in position " ++ toString e.start ++ "-" ++
      toString (e.start + e.run.length - 1) ++ ": surrogates not allowed"

/-- The UTF-8 bytes of a code point: one byte below `0x80`, else a lead byte and six
bits in each continuation byte. -/
def codeBytes (n : Nat) : List UInt8 :=
  if n < 0x80 then [n.toUInt8]
  else if n < 0x800 then [(0xC0 + n / 64).toUInt8, (0x80 + n % 64).toUInt8]
  else if n < 0x10000 then
    [(0xE0 + n / 4096).toUInt8, (0x80 + n / 64 % 64).toUInt8, (0x80 + n % 64).toUInt8]
  else
    [(0xF0 + n / 262144).toUInt8, (0x80 + n / 4096 % 64).toUInt8,
     (0x80 + n / 64 % 64).toUInt8, (0x80 + n % 64).toUInt8]

def encodeUtf8 (codes : List Nat) : Except EncodeError (List UInt8) :=
  match codes.findIdx? isSurrogate with
  | some i => .error ⟨(codes.drop i).takeWhile isSurrogate, i⟩
  | none => .ok (codes.flatMap codeBytes)

theorem codeBytes_ascii (n : Nat) (h : n < 0x80) : codeBytes n = [n.toUInt8] := by
  simp [codeBytes, h]

theorem flatMap_codeBytes_ascii (codes : List Nat) (h : ∀ n ∈ codes, n < 0x80) :
    codes.flatMap codeBytes = codes.map Nat.toUInt8 := by
  induction codes with
  | nil => rfl
  | cons c cs ih =>
    rw [List.flatMap_cons, List.map_cons, codeBytes_ascii c (h c (by simp)),
      ih (fun n hn => h n (by simp [hn]))]
    rfl

theorem encodeUtf8_ascii (codes : List Nat) (h : ∀ n ∈ codes, n < 0x80) :
    encodeUtf8 codes = .ok (codes.map Nat.toUInt8) := by
  have hs : codes.findIdx? isSurrogate = none := by
    rw [List.findIdx?_eq_none_iff]
    intro n hn
    have := h n hn
    simp [isSurrogate]
    omega
  rw [encodeUtf8, hs, flatMap_codeBytes_ascii codes h]

end Uptime.Encoding
