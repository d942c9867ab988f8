import Listing.Text.Digits
import Listing.Text.HiddenTable

/-!
# Quoted literals

A text shown between double quotes, so that a reader of a message sees where it
starts and ends: quotes and backslashes are escaped, line breaks and tabs are
written by their letter, and characters without a shape of their own by their
number.
-/

namespace Listing.Text

/-- One character inside a quoted literal. -/
def escaped (c : Char) : List Char :=
  if c = '"' then ['\\', '"']
  else if c = '\\' then ['\\', '\\']
  else if c = '\n' then ['\\', 'n']
  else if c = '\r' then ['\\', 'r']
  else if c = '\t' then ['\\', 't']
  else if c.toNat = 0 then ['\\', '0']
  else if 0x20 ≤ c.toNat && c.toNat < 0x7F then [c]
  else if onSpan hiddenSpans c then
    ['\\', 'u', '\x7b'] ++ Nat.toDigits 16 c.toNat ++ ['\x7d']
  else [c]

/-- A text between double quotes. -/
def quoted (s : String) : String :=
  "\"" ++ String.ofList (s.toList.flatMap escaped) ++ "\""

/-- A bracketed list of quoted literals. -/
def quotedList (items : List String) : String :=
  "[" ++ ", ".intercalate (items.map quoted) ++ "]"

end Listing.Text
