import Listing.Text.Cut
import Listing.Text.Digits
import Listing.Text.Utf8

/-!
# Query strings

The part of an address behind the first question mark carries parameters: pairs of
a name and a value between ampersands.  A plus is a blank, and a percent sign with
two hexadecimal digits is a byte; the bytes are then read as UTF-8.
-/

namespace Listing.Http

/-- The query of an address: what stands behind the first question mark, up to a number
sign. -/
def queryOf (address : String) : String :=
  String.ofList (((address.toList.takeWhile (· ≠ '#')).dropWhile (· ≠ '?')).drop 1)

/-- The bytes of a text. -/
def bytesOf (cs : List Char) : List UInt8 := (String.ofList cs).toUTF8.toList

/-- The bytes that a part of a query stands for. -/
def decodedBytes : List Char → List UInt8
  | [] => []
  | '%' :: a :: b :: rest =>
    match Text.hexValue? a, Text.hexValue? b with
    | some m, some n => UInt8.ofNat (16 * m + n) :: decodedBytes rest
    | _, _ => bytesOf ['%'] ++ decodedBytes (a :: b :: rest)
  | c :: rest => bytesOf [if c = '+' then ' ' else c] ++ decodedBytes rest

/-- The text that a part of a query stands for. -/
def decoded (part : String) : String := String.ofList (Text.ofUtf8 (decodedBytes part.toList))

/-- The name and the value of a parameter; without an equals sign the value is empty. -/
def parameter (pair : String) : String × String :=
  match Text.cutAt? '=' pair with
  | some (name, value) => (decoded name, decoded value)
  | none => (decoded pair, "")

/-- The parameters of a query, in their order. -/
def parameters (query : String) : List (String × String) :=
  ((Text.pieces '&' query).filter (· ≠ "")).map parameter

end Listing.Http
