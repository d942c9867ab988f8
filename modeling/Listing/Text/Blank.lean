/-!
# Blanks and trimming

A blank is a character with the Unicode property `White_Space`.  Parameters
arrive with blanks around them, and whether a parameter counts at all is decided
by whether anything but blanks is left in it.

* `Text.trim` cuts the blanks off both ends of a text;
* `Text.isBlankOnly` holds of a text in which trimming leaves nothing.
-/

namespace Listing.Text

/-- The twenty-five characters with the Unicode property `White_Space`. -/
def isBlank (c : Char) : Bool :=
  let n := c.toNat
  (0x09 ≤ n && n ≤ 0x0D) || n == 0x20 || n == 0x85 || n == 0xA0 || n == 0x1680 ||
    (0x2000 ≤ n && n ≤ 0x200A) || n == 0x2028 || n == 0x2029 || n == 0x202F ||
    n == 0x205F || n == 0x3000

/-- Cut the blanks off the front. -/
def trimLeft (cs : List Char) : List Char := cs.dropWhile isBlank

/-- Cut the blanks off the back. -/
def trimRight (cs : List Char) : List Char := (cs.reverse.dropWhile isBlank).reverse

/-- Cut the blanks off both ends. -/
def trimChars (cs : List Char) : List Char := trimRight (trimLeft cs)

/-- Cut the blanks off both ends of a text. -/
def trim (s : String) : String := String.ofList (trimChars s.toList)

/-- Cut the blanks off the back of a text. -/
def trimEnd (s : String) : String := String.ofList (trimRight s.toList)

/-- Nothing but blanks, or nothing at all. -/
def isBlankOnly (s : String) : Bool := s.toList.all isBlank

end Listing.Text
