/-!
# Enclosed texts

A text between two quote characters, in which every quote character is written
twice, so that the end of the text can be told from a quote inside it.
-/

namespace Listing.Text

/-- A text in which every `quote` is written twice. -/
def doubled (quote : Char) (cs : List Char) : List Char :=
  cs.flatMap fun c => if c = quote then [quote, quote] else [c]

/-- A text between two quotes, those inside it doubled. -/
def enclosed (quote : Char) (s : String) : String :=
  String.ofList (quote :: doubled quote s.toList ++ [quote])

end Listing.Text
