import MTConnect.Json.Value
import MTConnect.Text.Digits
import MTConnect.Word

namespace MTConnect.Json

/-!
# Reading JSON numbers

A number without point and exponent is whole if it fits a word, or a signed
word when it has a minus sign; minus zero is not whole. Every other number is
a double: the leading digits that fit a word are taken as a whole number and
scaled by one power of ten, later digits only move the point. A number beyond
the largest double is refused.
-/

/-- Add digits to a number while it stays a word; the digits left over follow. -/
def absorb (significand : Nat) : List Char → Nat × List Char
  | [] => (significand, [])
  | digit :: rest =>
      let grown := significand * 10 + (digit.toNat - 0x30)
      if grown ≤ Word.top then
        absorb grown rest
      else
        (significand, digit :: rest)

/--
Scale a double by a power of ten, in steps of at most 308; none if the result
is not finite. A word needs fewer than four steps to vanish.
-/
def scaleFrom : Nat → Float → Int → Option Float
  | 0, value, _ => some value
  | fuel + 1, value, exponent =>
      if exponent.natAbs ≤ 308 then
        let power := Float.ofScientific 1 false exponent.natAbs
        if 0 ≤ exponent then
          let scaled := value * power
          if scaled.isInf then none else some scaled
        else
          some (value / power)
      else if value == 0 then
        some value
      else if 0 ≤ exponent then
        none
      else
        scaleFrom fuel (value / Float.ofScientific 1 false 308) (exponent + 308)

/-- A double from its sign, its leading digits and a power of ten. -/
def realOfParts (negative : Bool) (significand : Nat) (exponent : Int) : Option Json := do
  let magnitude ← scaleFrom 8 significand.toUInt64.toFloat exponent
  pure (.real (if negative then -magnitude else magnitude))

/-- A whole number, if its digits fit the word of its sign. -/
def wholeOfParts? (negative : Bool) (significand : Nat) : Option Json :=
  if negative then
    if 0 < significand ∧ significand ≤ Word.signedTop + 1 then
      some (.integer (-(significand : Int)))
    else
      none
  else
    some (.integer (significand : Int))

/-- The fraction after a point, which has at least one digit. -/
def readFraction? (text : List Char) : Option (List Char × List Char) :=
  match text with
  | '.' :: rest =>
      let (digits, after) := Text.spanDigits rest
      if digits.isEmpty then none else some (digits, after)
  | _ => some ([], text)

/-- The digits of an exponent, of which there is at least one. -/
def readExponentDigits? (text : List Char) : Option (Nat × List Char) := do
  let (digits, after) := Text.spanDigits text
  let value ← Text.decimalValue? digits
  pure (value, after)

/-- An exponent with its sign; none inside the result if there is none. -/
def readExponent? (text : List Char) : Option (Option Int × List Char) :=
  let signed := fun rest =>
    match rest with
    | '-' :: digits =>
        (readExponentDigits? digits).map
          fun found => (some (-(found.1 : Int)), found.2)
    | '+' :: digits =>
        (readExponentDigits? digits).map
          fun found => (some (found.1 : Int), found.2)
    | digits =>
        (readExponentDigits? digits).map
          fun found => (some (found.1 : Int), found.2)
  match text with
  | 'e' :: rest => signed rest
  | 'E' :: rest => signed rest
  | _ => some (none, text)

/-- Read a number after its sign. -/
def readMagnitude? (negative : Bool) (text : List Char) : Option (Json × List Char) := do
  let (digits, afterDigits) := Text.spanDigits text
  if digits.isEmpty || (digits.head? == some '0' && digits != ['0']) then
    none
  else
    let (fraction, afterFraction) ← readFraction? afterDigits
    let (exponent?, rest) ← readExponent? afterFraction
    let (leading, dropped) := absorb 0 digits
    match fraction, exponent?, dropped, wholeOfParts? negative leading with
    | [], none, [], some whole => pure (whole, rest)
    | _, _, _, _ =>
        let (significand, unused) := absorb leading fraction
        let shift : Int :=
          (dropped.length : Int) - ((fraction.length - unused.length : Nat) : Int)
        let value ← realOfParts negative significand (shift + exponent?.getD 0)
        pure (value, rest)

/-- Read a number. -/
def readNumber? (text : List Char) : Option (Json × List Char) :=
  match text with
  | '-' :: rest => readMagnitude? true rest
  | _ => readMagnitude? false text

end MTConnect.Json
