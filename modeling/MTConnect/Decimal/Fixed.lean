import MTConnect.Decimal.Binary
import MTConnect.Text.Digits

namespace MTConnect.Decimal

/-!
# A fixed number of decimal places

The exact value of a double is rounded once, to the nearest multiple of the
last place, and a value halfway between two multiples goes to the even one.
The sign is kept even when all digits are zero.
-/

/-- The natural number nearest to a fraction; a half goes to the even one. -/
def roundHalfEven (numerator denominator : Nat) : Nat :=
  let quotient := numerator / denominator
  let remainder := numerator % denominator
  if 2 * remainder < denominator then quotient
  else if denominator < 2 * remainder then quotient + 1
  else if quotient % 2 = 0 then quotient
  else quotient + 1

/-- Put a point before the last `places` digits. -/
def withPoint (places value : Nat) : List Char :=
  let digits := Text.padZeros (places + 1) (Text.decimal value)
  let whole := digits.length - places
  if places = 0 then
    digits
  else
    digits.take whole ++ '.' :: digits.drop whole

/-- A double with a fixed number of decimal places. -/
def fixed (places : Nat) (value : Float) : List Char :=
  match Reading.ofFloat value with
  | .notANumber => ['N', 'a', 'N']
  | .infinite negative =>
      (if negative then ['-'] else []) ++ ['i', 'n', 'f']
  | .finite negative magnitude =>
      (if negative then ['-'] else []) ++
        withPoint places
          (roundHalfEven
            (magnitude.numerator * tenTo places)
            magnitude.denominator)

end MTConnect.Decimal
