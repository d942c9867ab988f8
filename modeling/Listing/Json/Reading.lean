import Listing.Json.Document
import Listing.Text.Digits

/-!
# Reading JSON text

`Doc.read` turns a text into a document.  It never fails: where the text stops being
JSON, the document says so in place.  Containers may nest 127 levels deep before
their values are refused, and a number with a point, an exponent or too many digits
is read by scaling its leading digits with a power of ten in double precision.
-/

namespace Listing

namespace Json.Reading

/-- The blanks between the parts of a text. -/
def isGap (c : Char) : Bool := c = ' ' || c = '\n' || c = '\t' || c = '\r'

/-- Pass over blanks. -/
def pastGap (cs : List Char) : List Char := cs.dropWhile isGap

/-! ## Strings -/

/-- A string as scanned: its value if it has one, and the text behind it if it is whole. -/
structure Scanned where
  value : Except Malformation String
  rest : Except Malformation (List Char)

/-- What the letter behind a backslash stands for. -/
def escape? (c : Char) : Option Char :=
  if c = '"' ∨ c = '\\' ∨ c = '/' then some c
  else if c = 'b' then some (Char.ofNat 8)
  else if c = 'f' then some (Char.ofNat 12)
  else if c = 'n' then some '\n'
  else if c = 'r' then some '\r'
  else if c = 't' then some '\t'
  else none

/-- The number of four hexadecimal digits. -/
def hexFour? (a b c d : Char) : Option Nat := do
  return 4096 * (← Text.hexValue? a) + 256 * (← Text.hexValue? b) + 16 * (← Text.hexValue? c) +
    (← Text.hexValue? d)

/-- What has been scanned of a string: the characters, the last first; a first half of a
surrogate pair that waits for the second; and why the string has no value. -/
structure Progress where
  taken : List Char
  half : Option Nat
  refusal : Option Malformation

namespace Progress

/-- Nothing scanned yet. -/
def start : Progress := ⟨[], none, none⟩

/-- A waiting half is followed by something else than a numbered escape. -/
def interrupt (p : Progress) : Progress :=
  match p.half with
  | some _ => { p with half := none, refusal := p.refusal.or (some .hexEscapeEnd) }
  | none => p

/-- Take a character. -/
def push (p : Progress) (c : Char) : Progress :=
  let p := p.interrupt
  { p with taken := c :: p.taken }

/-- Take a numbered escape. -/
def pushUnit (p : Progress) (n : Nat) : Progress :=
  match p.half with
  | some first =>
    if 0xDC00 ≤ n ∧ n ≤ 0xDFFF then
      { p with half := none,
               taken := Char.ofNat ((first - 0xD800) * 1024 + (n - 0xDC00) + 0x10000) :: p.taken }
    else { p with half := none, refusal := p.refusal.or (some .loneSurrogate) }
  | none =>
    if 0xDC00 ≤ n ∧ n ≤ 0xDFFF then { p with refusal := p.refusal.or (some .loneSurrogate) }
    else if 0xD800 ≤ n ∧ n ≤ 0xDBFF then { p with half := some n }
    else { p with taken := Char.ofNat n :: p.taken }

/-- The value scanned. -/
def value (p : Progress) : Except Malformation String :=
  match p.refusal with
  | some cause => .error cause
  | none => .ok (String.ofList p.taken.reverse)

/-- The string is whole. -/
def finish (p : Progress) (rest : List Char) : Scanned := ⟨p.interrupt.value, .ok rest⟩

/-- The string breaks off. -/
def stop (p : Progress) (cause : Malformation) : Scanned :=
  ⟨.error (p.refusal.getD cause), .error cause⟩

end Progress

/-- Scan a string behind its opening quote. -/
def scan (p : Progress) : List Char → Scanned
  | [] => p.stop .endInString
  | '"' :: rest => p.finish rest
  | ['\\'] => p.stop .endInString
  | '\\' :: 'u' :: a :: b :: c :: d :: rest =>
    match hexFour? a b c d with
    | some n => scan (p.pushUnit n) rest
    | none => p.stop .badEscape
  | '\\' :: 'u' :: rest =>
    p.stop (if (String.ofList rest).utf8ByteSize < 4 then .endInString else .badEscape)
  | '\\' :: c :: rest =>
    match escape? c with
    | some c => scan (p.push c) rest
    | none => p.interrupt.stop .badEscape
  | c :: rest => if c.toNat < 0x20 then p.interrupt.stop .controlCharacter else scan (p.push c) rest

/-! ## Numbers -/

/-- A number as scanned: its digits, and its exponent if it has one. -/
structure Figures where
  negative : Bool
  whole : List Char
  fraction : Option (List Char)
  exponent : Option Int

/-- The digits at the front, which must be there, and what follows them. -/
def digits (cs : List Char) : Except Malformation (List Char × List Char) :=
  match cs with
  | [] => .error .endInValue
  | c :: _ =>
    if Text.isDigit c then .ok (cs.takeWhile Text.isDigit, cs.dropWhile Text.isDigit)
    else .error .badNumber

/-- Scan a fraction, if there is one. -/
def fraction : List Char → Except Malformation (Option (List Char) × List Char)
  | '.' :: rest => (digits rest).map fun (ds, rest) => (some ds, rest)
  | cs => .ok (none, cs)

/-- Scan an exponent, if there is one. -/
def exponent : List Char → Except Malformation (Option Int × List Char)
  | c :: rest =>
    if c = 'e' ∨ c = 'E' then
      let (negative, rest) := match rest with
        | '+' :: r => (false, r)
        | '-' :: r => (true, r)
        | r => (false, r)
      (digits rest).map fun (ds, rest) =>
        let n : Int := Text.digitsValue ds
        (some (if negative then -n else n), rest)
    else .ok (none, c :: rest)
  | [] => .ok (none, [])

/-- Scan a number; a whole part of several digits does not start with nought. -/
def figures (cs : List Char) : Except Malformation (Figures × List Char) := do
  let (negative, cs) := match cs with
    | '-' :: rest => (true, rest)
    | cs => (false, cs)
  let (whole, rest) ← digits cs
  if whole.head? = some '0' ∧ 1 < whole.length then .error .badNumber
  let (fraction, rest) ← fraction rest
  let (exponent, rest) ← exponent rest
  return (⟨negative, whole, fraction, exponent⟩, rest)

/-- Append digits to a number of 64 bits until one does not fit; the digits from that one
on are left. -/
def accumulate (n : Nat) : List Char → Nat × List Char
  | [] => (n, [])
  | c :: rest =>
    let next := 10 * n + Text.digitValue c
    if next < 18446744073709551616 then accumulate next rest else (n, c :: rest)

/-- The code of a power of ten, for exponents up to 308. -/
def powerOfTen (n : Nat) : Nat := BinaryFormat.double.nearest (Nat.pow 10 n) 1

/-- Multiply a magnitude with a power of ten, in steps of at most 308 places; none when the
product is not finite.  After three steps down every number of 64 bits is nought. -/
def scale : (steps : Nat) → (code : Nat) → (exponent : Int) → Option Nat
  | 0, code, _ => some code
  | steps + 1, code, e =>
    if -308 ≤ e ∧ e ≤ 308 then
      if 0 ≤ e then
        let product := BinaryFormat.double.product code (powerOfTen e.toNat)
        if product < BinaryFormat.double.infinity then some product else none
      else some (BinaryFormat.double.quotient code (powerOfTen (-e).toNat))
    else if code = 0 then some 0
    else if 0 ≤ e then none
    else scale steps (BinaryFormat.double.quotient code (powerOfTen 308)) (e + 308)

/-- A real number with a magnitude scaled by a power of ten. -/
def realNumber (negative : Bool) (n : Nat) (e : Int) : Except Malformation Number :=
  match scale 4 (BinaryFormat.double.nearest n 1) e with
  | none => .error .numberRange
  | some code =>
    let x : Double := .ofCode negative code
    if h : x.isFinite = true then .ok (.real x h) else .error .numberRange

/-- A whole number, which is real if it is below all numbers of 64 bits or a negative
nought. -/
def wholeNumber (negative : Bool) (n : Nat) : Except Malformation Number :=
  let value : Int := if negative then -n else n
  if negative ∧ n = 0 then realNumber true 0 0
  else if h : -9223372036854775808 ≤ value ∧ value < 18446744073709551616 then
    .ok (.whole ⟨value, h⟩)
  else realNumber negative n 0

/-- The number that figures stand for. -/
def Figures.value (f : Figures) : Except Malformation Number :=
  let (n, left) := accumulate 0 f.whole
  match f.fraction, f.exponent, left with
  | none, none, [] => wholeNumber f.negative n
  | _, _, _ =>
    let ds := f.fraction.getD []
    let (n, ignored) := accumulate n ds
    let places : Int := left.length - (ds.length - ignored.length : Nat)
    realNumber f.negative n (places + f.exponent.getD 0)

/-! ## Values -/

/-- A document and the text behind it; none if the text breaks off inside. -/
abbrev Outcome := Doc × Option (List Char)

/-- The parts of a container as far as they go, why the text stops being JSON behind them,
and the text behind the container. -/
structure Parts (α : Type) where
  parts : List α
  stop : Option Malformation
  rest : Option (List Char)

/-- Put one more part in front. -/
def Parts.cons {α : Type} (a : α) (p : Parts α) : Parts α := { p with parts := a :: p.parts }

/-- The container ends here. -/
def Parts.done {α : Type} (rest : List Char) : Parts α := ⟨[], none, some rest⟩

/-- The text stops being JSON here. -/
def Parts.stopped {α : Type} (cause : Malformation) : Parts α := ⟨[], some cause, none⟩

/-- A word that is a value; its first letter is already read. -/
def word (letters : List Char) (meaning : Doc) (cs : List Char) : Outcome :=
  match letters, cs with
  | [], rest => (meaning, some rest)
  | _ :: _, [] => (.broken .endInValue, none)
  | l :: letters, c :: rest =>
    if l = c then word letters meaning rest else (.broken .wordExpected, none)

/-- A string value behind its opening quote. -/
def string (cs : List Char) : Outcome :=
  match scan .start cs with
  | ⟨.ok s, .ok rest⟩ => (.string s, some rest)
  | ⟨.error refusal, .ok rest⟩ => (.refused refusal .null, some rest)
  | ⟨.ok _, .error cause⟩ => (.broken cause, none)
  | ⟨.error refusal, .error cause⟩ => (.refused refusal (.broken cause), none)

/-- A number value. -/
def number (cs : List Char) : Outcome :=
  match figures cs with
  | .error cause => (.broken cause, none)
  | .ok (f, rest) =>
    match f.value with
    | .ok n => (.number n, some rest)
    | .error cause => (.refused cause .null, some rest)

/-- A container, whose value is refused when no level is left for it. -/
def nested (levels : Nat) (d : Doc) : Doc := if levels = 0 then .refused .tooDeep d else d

/-- The colon between a name and what it names. -/
def colon (cs : List Char) : Except Malformation (List Char) :=
  match pastGap cs with
  | [] => .error .endInObject
  | ':' :: rest => .ok rest
  | _ => .error .colonExpected

mutual

/-- Read a value, with `levels` levels of containers left. -/
def value : (fuel levels : Nat) → List Char → Outcome
  | 0, _, _ => (.broken .valueExpected, none)
  | fuel + 1, levels, cs =>
    match pastGap cs with
    | [] => (.broken .endInValue, none)
    | 'n' :: rest => word ['u', 'l', 'l'] .null rest
    | 't' :: rest => word ['r', 'u', 'e'] (.flag true) rest
    | 'f' :: rest => word ['a', 'l', 's', 'e'] (.flag false) rest
    | '"' :: rest => string rest
    | '[' :: rest =>
      let run := items fuel (levels - 1) true rest
      (nested levels (.list run.parts run.stop), run.rest)
    | '\x7b' :: rest =>
      let run := members fuel (levels - 1) true rest
      (nested levels (.object run.parts run.stop), run.rest)
    | c :: rest =>
      if c = '-' ∨ Text.isDigit c then number (c :: rest) else (.broken .valueExpected, none)

/-- Read the items of a list from the first or from behind an item. -/
def items : (fuel levels : Nat) → (first : Bool) → List Char → Parts Doc
  | 0, _, _, _ => .stopped .valueExpected
  | fuel + 1, levels, first, cs =>
    match pastGap cs with
    | [] => .stopped .endInList
    | c :: rest =>
      if c = ']' then .done rest
      else if first then item fuel levels (c :: rest)
      else if c = ',' then
        match pastGap rest with
        | [] => .stopped .endInValue
        | d :: rest =>
          if d = ']' then .stopped .trailingComma else item fuel levels (d :: rest)
      else .stopped .listMarkExpected

/-- Read one item and the items behind it. -/
def item : (fuel levels : Nat) → List Char → Parts Doc
  | 0, _, _ => .stopped .valueExpected
  | fuel + 1, levels, cs =>
    match value fuel levels cs with
    | (d, none) => ⟨[d], none, none⟩
    | (d, some rest) => (items fuel levels false rest).cons d

/-- Read the members of an object from the first or from behind a member. -/
def members : (fuel levels : Nat) → (first : Bool) → List Char → Parts (String × Doc)
  | 0, _, _, _ => .stopped .valueExpected
  | fuel + 1, levels, first, cs =>
    match pastGap cs with
    | [] => .stopped .endInObject
    | c :: rest =>
      if c = '\x7d' then .done rest
      else if first then
        if c = '"' then member fuel levels rest else .stopped .keyExpected
      else if c = ',' then
        match pastGap rest with
        | [] => .stopped .endInValue
        | d :: rest =>
          if d = '"' then member fuel levels rest
          else if d = '\x7d' then .stopped .trailingComma
          else .stopped .keyExpected
      else .stopped .objectMarkExpected

/-- Read one member, behind the opening quote of its name, and the members behind it. -/
def member : (fuel levels : Nat) → List Char → Parts (String × Doc)
  | 0, _, _ => .stopped .valueExpected
  | fuel + 1, levels, cs =>
    let scanned := scan .start cs
    match scanned.rest with
    | .error cause =>
      match scanned.value with
      | .ok _ => .stopped cause
      | .error refusal => ⟨[("", .unnamed refusal (.broken cause))], none, none⟩
    | .ok rest =>
      let (held, rest) := match colon rest with
        | .error cause => (Doc.broken cause, none)
        | .ok rest => value fuel levels rest
      let entry := match scanned.value with
        | .ok name => (name, held)
        | .error refusal => ("", Doc.unnamed refusal held)
      match rest with
      | none => ⟨[entry], none, none⟩
      | some rest => (members fuel levels false rest).cons entry

end

end Json.Reading

open Json.Reading

/-- Read a text: its document, and why the text behind the document is too much if it is. -/
def Doc.read (s : String) : Doc × Option Malformation :=
  let cs := s.toList
  match Json.Reading.value (2 * cs.length + 2) 127 cs with
  | (d, none) => (d, none)
  | (d, some rest) => (d, if (pastGap rest).isEmpty then none else some .trailingText)

/-- The value of a text that is JSON. -/
def Json.read (s : String) : Except Malformation Json :=
  match Doc.read s with
  | (d, none) => d.toJson
  | (d, some cause) => d.toJson >>= fun _ => .error cause

end Listing
