import Listing.Text.Cut
import Listing.Text.Digits

/-!
# Universally unique identifiers

An identifier is a number of 128 bits, written as thirty-two hexadecimal digits in
five groups.  It is read from that form, from the bare digits, and from the form
with groups between braces or behind `urn:uuid:`.
-/

namespace Listing

/-- A number of 128 bits. -/
structure Uuid where
  bits : Nat
  bits_lt : bits < 340282366920938463463374607431768211456
  deriving DecidableEq

namespace Uuid

/-- The number as a list of one, the form in which all keys are compared. -/
def key (u : Uuid) : List Int := [u.bits]

instance : Ord Uuid := ⟨compareOn key⟩

/-- How many digits each group has. -/
def groupLengths : List Nat := [8, 4, 4, 4, 12]

/-- Cut a list into groups of the given lengths. -/
def grouped : List Nat → List Char → List (List Char)
  | [], _ => []
  | n :: lengths, cs => cs.take n :: grouped lengths (cs.drop n)

/-- The groups in small letters with hyphens between them. -/
def text (u : Uuid) : String :=
  "-".intercalate ((grouped groupLengths (Text.paddedHex 32 u.bits).toList).map String.ofList)

/-! ## Reading -/

/-- Why a text is no identifier. -/
inductive Fault where
  /-- A character is neither a digit nor a hyphen; its place is counted in bytes. -/
  | character (c : Char) (place : Nat)
  /-- Bare digits, but not thirty-two of them. -/
  | length (found : Nat)
  /-- Not five groups. -/
  | groupCount (found : Nat)
  /-- A group that is too long or too short. -/
  | groupLength (group expected found : Nat)
  deriving DecidableEq, Repr

/-- The wording of a fault. -/
def Fault.message : Fault → String
  | character c place => s!"invalid character: found `{c}` at {place}"
  | length found => s!"invalid length: found {found}"
  | groupCount found => s!"invalid group count: expected 5, found {found}"
  | groupLength group expected found =>
    s!"invalid group length in group {group}: expected {expected}, found {found}"

/-- The number that hexadecimal digits write, if all of them are such digits. -/
def hexNumber? (cs : List Char) : Option Nat :=
  (cs.mapM Text.hexValue?).map (·.foldl (fun n d => 16 * n + d) 0)

/-- The identifier of thirty-two digits. -/
def ofDigits? (cs : List Char) : Option Uuid :=
  if cs.length = 32 then
    (hexNumber? cs).bind fun n =>
      if h : n < 340282366920938463463374607431768211456 then some ⟨n, h⟩ else none
  else none

/-- The identifier of five groups. -/
def ofGroups? (cs : List Char) : Option Uuid :=
  let groups := cs.splitOn '-'
  if groups.map List.length = groupLengths then ofDigits? groups.flatten else none

/-- What stands between an opening brace at the start and a closing one at the end. -/
def unbraced? : List Char → Option (List Char)
  | '\x7b' :: rest => if rest.getLast? = some '\x7d' then some rest.dropLast else none
  | _ => none

/-- Around the groups: the bytes passed over before them, and whether nothing surrounds
them. -/
structure Framed where
  body : List Char
  skipped : Nat
  bare : Bool

/-- What stands behind the name of the scheme, written in any case. -/
def unschemed? (cs : List Char) : Option (List Char) :=
  if (cs.take 9).map Text.asciiLower = "urn:uuid:".toList then some (cs.drop 9) else none

/-- Take off braces or the name of the scheme. -/
def framed (cs : List Char) : Framed :=
  match unbraced? cs, unschemed? cs with
  | some body, _ => ⟨body, 1, false⟩
  | none, some body => ⟨body, 9, false⟩
  | none, none => ⟨cs, 0, true⟩

/-- The first character that is neither a digit nor a hyphen, `place` bytes on. -/
def strange? (place : Nat) : List Char → Option Fault
  | [] => none
  | c :: rest =>
    if c = '-' ∨ (Text.hexValue? c).isSome then strange? (place + c.utf8Size) rest
    else some (.character c place)

/-- The first of the leading groups whose length is wrong, the groups counted from
`group` on. -/
def wrongGroup? (group : Nat) : List Nat → List Nat → Option Fault
  | expected :: lengths, found :: groups =>
    if expected = found then wrongGroup? (group + 1) lengths groups
    else some (.groupLength group expected found)
  | _, _ => none

/-- What is wrong with a text that is no identifier.  When all groups but the last have
their length, the last is blamed for everything beyond the first twenty-four bytes. -/
def faultOf (cs : List Char) : Fault :=
  let frame := framed cs
  let groups := (frame.body.splitOn '-').map List.length
  match strange? frame.skipped frame.body with
  | some fault => fault
  | none =>
    if groups.length = 1 ∧ frame.bare then .length cs.length
    else if groups.length ≠ 5 then .groupCount groups.length
    else match wrongGroup? 0 (groupLengths.take 4) groups with
      | some fault => fault
      | none => .groupLength 4 12 (cs.length - 24)

/-- Read an identifier in any of its forms. -/
def read (s : String) : Except Fault Uuid :=
  let cs := s.toList
  match (ofDigits? cs).or (ofGroups? (framed cs).body) with
  | some u => .ok u
  | none => .error (faultOf cs)

end Uuid

end Listing
