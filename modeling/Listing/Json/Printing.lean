import Listing.Json.Document
import Listing.Number.Shortest

/-!
# JSON text

Documents are written without blanks.  A real number always has a point or an
exponent, so that it is told from a whole one, and is written with the fewest
digits that read back.
-/

namespace Listing

/-- Doubles are written without an exponent from 0.00001 up to sixteen digits. -/
def Json.doubleWindow : Decimal.Window := ⟨-5, 15⟩

/-- Singles are written without an exponent from 0.000001 up to thirteen digits. -/
def Json.singleWindow : Decimal.Window := ⟨-6, 12⟩

/-- The text of a finite double. -/
def Json.doubleText : Double → String
  | .nan => "null"
  | .number negative code => (Shortest.decimal .double .even negative code.val).compact doubleWindow

/-- The text of a finite single. -/
def Json.singleText : Single → String
  | .nan => "null"
  | .number negative code => (Shortest.decimal .single .even negative code.val).compact singleWindow

/-- The text of a number. -/
def Json.Number.text : Json.Number → String
  | whole n => toString n.val
  | real x _ => doubleText x

/-- One character of a string: quotes, backslashes and control characters are escaped. -/
def Json.escaped (c : Char) : List Char :=
  if c = '"' then ['\\', '"']
  else if c = '\\' then ['\\', '\\']
  else if c.toNat = 8 then ['\\', 'b']
  else if c.toNat = 12 then ['\\', 'f']
  else if c = '\n' then ['\\', 'n']
  else if c = '\r' then ['\\', 'r']
  else if c = '\t' then ['\\', 't']
  else if c.toNat < 32 then '\\' :: 'u' :: (Text.paddedHex 4 c.toNat).toList
  else [c]

/-- A string between quotes. -/
def Json.stringText (s : String) : String :=
  "\"" ++ String.ofList (s.toList.flatMap escaped) ++ "\""

namespace Doc

mutual

/-- The text of a document; what is no JSON has none. -/
def text : Doc → String
  | null => "null"
  | flag b => toString b
  | number n => n.text
  | single x _ => Json.singleText x
  | string s => Json.stringText s
  | list items _ => "[" ++ ",".intercalate (itemTexts items) ++ "]"
  | object members _ => "\x7b" ++ ",".intercalate (memberTexts members) ++ "\x7d"
  | refused _ inner => text inner
  | unnamed _ held => text held
  | broken _ => ""

/-- The texts of items. -/
def itemTexts : List Doc → List String
  | [] => []
  | d :: rest => text d :: itemTexts rest

/-- The texts of members, each behind its name and a colon. -/
def memberTexts : List (String × Doc) → List String
  | [] => []
  | (k, d) :: rest => (Json.stringText k ++ ":" ++ text d) :: memberTexts rest

end

end Doc

/-- The text of a value. -/
def Json.text (j : Json) : String := j.toDoc.text

end Listing
