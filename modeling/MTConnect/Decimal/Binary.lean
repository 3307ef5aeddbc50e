import MTConnect.Decimal.Power

namespace MTConnect.Decimal

/-!
# Binary floating-point numbers

A finite double is a sign and a natural number times a power of two. All
writing and reading of decimals works on that form, in exact integer
arithmetic.
-/

/-- A finite double without its sign: `significand * 2 ^ exponent`. -/
structure Binary where
  significand : Nat
  exponent : Int
  /-- Whether the next smaller double is closer than the next larger one. -/
  narrowBelow : Bool
  deriving Repr, DecidableEq

/-- What the bits of a double stand for. -/
inductive Reading where
  | notANumber
  | infinite (negative : Bool)
  | finite (negative : Bool) (magnitude : Binary)
  deriving Repr, DecidableEq

/-- Take a double apart. -/
def Reading.ofFloat (value : Float) : Reading :=
  let bits : Nat := value.toBits.toNat
  let negative := decide (twoTo 63 ≤ bits)
  let biased : Nat := bits / twoTo 52 % twoTo 11
  let fraction : Nat := bits % twoTo 52
  if biased = 2047 then
    if fraction = 0 then .infinite negative else .notANumber
  else if biased = 0 then
    .finite negative
      { significand := fraction
        exponent := -1074
        narrowBelow := false }
  else
    .finite negative
      { significand := twoTo 52 + fraction
        exponent := (biased : Int) - 1075
        narrowBelow := fraction == 0 && decide (1 < biased) }

/-- The numerator of a power-of-two multiple over `denominator`. -/
def Binary.numerator (value : Binary) : Nat :=
  value.significand * twoTo value.exponent.toNat

/-- The power of two below the fraction bar. -/
def Binary.denominator (value : Binary) : Nat :=
  twoTo (-value.exponent).toNat

end MTConnect.Decimal
