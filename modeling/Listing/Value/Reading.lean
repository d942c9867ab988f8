import Listing.Kind
import Listing.Text.Blank
import Listing.Value
import Listing.Value.Unreadable

/-!
# Reading values

The text of a parameter is read according to the kind of its field where that is
known, and otherwise as the most specific thing that it can be.
-/

namespace Listing.Value

/-- What a text most specifically is: an integer, a number, a moment, or else a text. -/
def infer (raw : String) : Value :=
  match IntegerWidth.signed64.read raw with
  | .ok n => integer n
  | .error _ =>
    match (Binary.read raw : Except DecimalFault Double) with
    | .ok x => real x
    | .error _ =>
      match Moment.readAny? raw with
      | some m => instant m
      | none => text raw

/-- Read a text as a value of a kind; blanks around it do not count. -/
def parseAs (kind : Kind) (raw : String) : Except Unreadable Value :=
  let raw := Text.trim raw
  match kind with
  | .number true => ((IntegerWidth.signed64.read raw).map integer).mapError (.integer raw)
  | .number false => ((Binary.read raw).map real).mapError (.number raw)
  | .temporal =>
    match Moment.readAny? raw with
    | some m => .ok (instant m)
    | none => .error (.moment raw)
  | .flag =>
    match readFlag? raw with
    | some b => .ok (flag b)
    | none => .error (.flag raw)
  | _ => .ok (infer raw)

end Listing.Value
