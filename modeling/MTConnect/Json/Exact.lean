import MTConnect.Json.Value
import MTConnect.Text.Digits

namespace MTConnect.Json

/-!
# Exact doubles

Where nothing of a double may be lost it travels as the sixteen hexadecimal
digits of its bits. Every value that is no number travels as `nan`.
-/

/-- A double by its bits. -/
def doubleBits (value : Float) : Json :=
  if value.isNaN then
    .string "nan"
  else
    .string
      (String.ofList
        (Text.padZeros 16 (Text.hexadecimal value.toBits.toNat)))

/-- Read a double from its bits. -/
def doubleBits? : Json → Option Float
  | .string "nan" => some (0.0 / 0.0)
  | .string text =>
      (Text.valueOf? 16 text.toList).map fun bits => Float.ofBits bits.toUInt64
  | _ => none

end MTConnect.Json
