import Uptime.Encoding.Japanese
import Uptime.Encoding.Korean
import Uptime.Encoding.Chinese
import Uptime.Encoding.Big5
/-!
The multi-byte charsets read by table, by codec name, each with how it reads sequences
longer than its tables.
-/

namespace Uptime.Encoding

/-- The table of a multi-byte codec and how it reads long sequences; none for a codec
not read by table. -/
def eastAsianTable? (name : String) : Option (MultiByteTable × LongForm) :=
  match name with
  | "shift_jis" => some (shiftJis, .tablesOnly)
  | "cp932" => some (cp932, .tablesOnly)
  | "euc_jp" => some (eucJp, .tablesOnly)
  | "euc_jis_2004" => some (eucJis2004, .tablesOnly)
  | "euc_jisx0213" => some (eucJisx0213, .tablesOnly)
  | "shift_jis_2004" => some (shiftJis2004, .tablesOnly)
  | "shift_jisx0213" => some (shiftJisx0213, .tablesOnly)
  | "euc_kr" => some (eucKr, .jamo)
  | "cp949" => some (cp949, .tablesOnly)
  | "johab" => some (johab, .tablesOnly)
  | "gb2312" => some (gb2312, .tablesOnly)
  | "gbk" => some (gbk, .tablesOnly)
  | "gb18030" => some (gb18030, .gbDigits)
  | "big5" => some (big5, .tablesOnly)
  | "cp950" => some (cp950, .tablesOnly)
  | "big5hkscs" => some (big5hkscs, .tablesOnly)
  | _ => none

end Uptime.Encoding
