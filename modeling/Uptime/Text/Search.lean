/-!
Finding one text inside another.
-/
namespace Uptime.Text

def occursIn (needle : List Char) : List Char → Bool
  | [] => needle.isEmpty
  | c :: cs => needle.isPrefixOf (c :: cs) || occursIn needle cs

theorem occursIn_of_isPrefixOf {needle hay : List Char} (h : needle.isPrefixOf hay) :
    occursIn needle hay := by
  cases hay with
  | nil => cases needle <;> simp_all [List.isPrefixOf, occursIn]
  | cons c cs => simp [occursIn, h]

end Uptime.Text
