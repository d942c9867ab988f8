import Listing.Text.Digits

/-!
# Media types

A media type names what a body is: a type and a subtype, perhaps with parameters
behind semicolons.  JSON has a type of its own, and subtypes that end in `+json` are
JSON as well.
-/

namespace Listing.Http

/-- The type and the subtype of a media type, in small letters. -/
structure MediaType where
  type : String
  subtype : String
  deriving DecidableEq, Repr

namespace MediaType

/-- A character of a token. -/
def isTokenChar (c : Char) : Bool :=
  Text.isDigit c || ('a' ≤ c && c ≤ 'z') || ('A' ≤ c && c ≤ 'Z') ||
    "!#$%&'+-.^_`|~".toList.contains c

/-- A token at the front, and what follows it. -/
def token (cs : List Char) : List Char × List Char :=
  (cs.takeWhile isTokenChar, cs.dropWhile isTokenChar)

/-- A character between quotes. -/
def isQuotedChar (c : Char) : Bool := 31 < c.toNat && c.toNat ≠ 127 && c ≠ '"'

/-- Pass the quoted value of a parameter behind its opening quote, and what may stand between
it and the next parameter. -/
def passQuoted? (cs : List Char) : Option (List Char) :=
  let value := cs.takeWhile isQuotedChar
  match cs.drop value.length with
  | '"' :: rest =>
    if value.isEmpty then none
    else
      match rest.dropWhile (· = ' ') with
      | [] => some []
      | ';' :: rest => some rest
      | _ => none
  | _ => none

/-- Pass a parameter. -/
def passParameter? (cs : List Char) : Option (List Char) :=
  let (name, rest) := token cs
  match rest with
  | '=' :: '"' :: rest => if name.isEmpty then none else passQuoted? rest
  | '=' :: rest =>
    let (value, rest) := token rest
    if name.isEmpty then none
    else match rest with
    | [] => some []
    | ';' :: rest => if value.isEmpty then none else some rest
    | _ => none
  | _ => none

/-- The text consists of parameters. -/
def areParameters : (fuel : Nat) → List Char → Bool
  | 0, _ => false
  | fuel + 1, cs =>
    match cs.dropWhile (· = ' ') with
    | [] => true
    | cs =>
      match passParameter? cs with
      | some rest => areParameters fuel rest
      | none => false

/-- Read a media type. -/
def read? (s : String) : Option MediaType :=
  let (type, rest) := token s.toList
  match rest with
  | '/' :: rest =>
    let (subtype, rest) := token rest
    if type.isEmpty || subtype.isEmpty then none
    else
      let read := MediaType.mk (String.ofList (type.map Text.asciiLower))
        (String.ofList (subtype.map Text.asciiLower))
      match rest with
      | [] => some read
      | ';' :: rest => if areParameters (rest.length + 1) rest then some read else none
      | _ => none
  | _ => none

/-- The last part of a subtype, behind a plus. -/
def suffix? (m : MediaType) : Option String :=
  match m.subtype.toList.splitOn '+' with
  | _ :: part :: parts => some (String.ofList ((part :: parts).getLast (by simp)))
  | _ => none

/-- Bodies of this type are JSON. -/
def isJson (m : MediaType) : Bool :=
  m.type = "application" && (m.subtype = "json" || m.suffix? = some "json")

end MediaType

end Listing.Http
