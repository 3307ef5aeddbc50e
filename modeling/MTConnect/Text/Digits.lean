namespace MTConnect.Text

/-!
# Digits

Numbers are written in decimal or hexadecimal digits, most significant first,
without leading zeros. Reading takes a text of digits back to its value.
-/

/-- The lower-case digit of a value below 36. -/
def digitChar (value : Nat) : Char :=
  if value < 10 then
    Char.ofNat (0x30 + value)
  else
    Char.ofNat (0x57 + value)

/-- The value of a digit of either case, if it is a digit of the base. -/
def digitValue? (base : Nat) (digit : Char) : Option Nat :=
  let code := digit.toNat
  let value? :=
    if 0x30 ≤ code ∧ code ≤ 0x39 then some (code - 0x30)
    else if 0x61 ≤ code ∧ code ≤ 0x7A then some (code - 0x57)
    else if 0x41 ≤ code ∧ code ≤ 0x5A then some (code - 0x37)
    else none
  value?.filter (· < base)

/-- The digits of a number, least significant first; zero has none. -/
def lowDigits (base value : Nat) (baseLarge : 2 ≤ base) : List Nat :=
  if value = 0 then
    []
  else
    value % base :: lowDigits base (value / base) baseLarge
termination_by value
decreasing_by
  exact Nat.div_lt_self (by omega) baseLarge

/-- A number in digits of a base, with at least one digit. -/
def inBase (base value : Nat) (baseLarge : 2 ≤ base) : List Char :=
  if value = 0 then
    ['0']
  else
    (lowDigits base value baseLarge).reverse.map digitChar

/-- A number in decimal digits. -/
def decimal (value : Nat) : List Char :=
  inBase 10 value (by decide)

/-- A number in lower-case hexadecimal digits. -/
def hexadecimal (value : Nat) : List Char :=
  inBase 16 value (by decide)

/-- The value of a run of digits; any other character makes it none. -/
def valueOf? (base : Nat) (digits : List Char) : Option Nat :=
  digits.foldl
    (fun soFar? digit => do
      let soFar ← soFar?
      let value ← digitValue? base digit
      pure (soFar * base + value))
    (some 0)

/-- The bytes of a text of pairs of hexadecimal digits. -/
def hexBytes? : List Char → Option (List UInt8)
  | [] => some []
  | [_] => none
  | high :: low :: rest =>
      match valueOf? 16 [high, low], hexBytes? rest with
      | some value, some bytes => some (value.toUInt8 :: bytes)
      | _, _ => none

/-- The value of a non-empty text of decimal digits. -/
def decimalValue? (digits : List Char) : Option Nat :=
  if digits.isEmpty then none else valueOf? 10 digits

/-- The decimal digits at the front of a text, and what follows them. -/
def spanDigits (text : List Char) : List Char × List Char :=
  text.span Char.isDigit

/-- Pad a text on the left with zeros up to a length. -/
def padZeros (length : Nat) (digits : List Char) : List Char :=
  List.replicate (length - digits.length) '0' ++ digits

end MTConnect.Text
