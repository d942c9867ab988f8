/-!
# Cutting texts

Ways to take a text apart at a character: into all its pieces, into what stands
before and after the first occurrence, or by taking a known beginning off.
-/

namespace Listing.Text

/-- The pieces of a text between the occurrences of a character; `n` occurrences
cut a text into `n + 1` pieces. -/
def pieces (separator : Char) (s : String) : List String :=
  (s.toList.splitOn separator).map String.ofList

/-- A text cut at the first occurrence of a character, which belongs to neither part. -/
def cutAt? (separator : Char) (s : String) : Option (String × String) :=
  match s.toList.dropWhile (· != separator) with
  | [] => none
  | _ :: rest => some (String.ofList (s.toList.takeWhile (· != separator)), String.ofList rest)

/-- What follows `start` in a list that begins with it. -/
def dropStart? : List Char → List Char → Option (List Char)
  | [], rest => some rest
  | _ :: _, [] => none
  | a :: start, c :: rest => if a = c then dropStart? start rest else none

/-- What follows `start` in a text that begins with it. -/
def after? (start s : String) : Option String :=
  (dropStart? start.toList s.toList).map String.ofList

end Listing.Text
