import MTConnect.Decimal.Binary
import MTConnect.Text.Digits

namespace MTConnect.Decimal

/-!
# The shortest decimal of a double

A double is written with the fewest digits that are still closer to it than
to any other double. Of two decimals of that length the nearer one is taken,
and of two equally near ones the larger. The point is always placed
positionally, without an exponent.
-/

/-- A decimal number: `digits * 10 ^ scale`. -/
structure Scaled where
  digits : Nat
  scale : Int
  deriving Repr, DecidableEq

/-- Compare `decimal * 10 ^ scale` with `binary * 2 ^ exponent` exactly. -/
def compareScaled (decimal : Nat) (scale : Int) (binary : Nat) (exponent : Int) : Ordering :=
  compare
    (decimal * tenTo scale.toNat * twoTo (-exponent).toNat)
    (binary * twoTo exponent.toNat * tenTo (-scale).toNat)

/--
Whether a decimal reads back as the given double: it lies between the
midpoints to the neighbouring doubles, the midpoints included when the
significand is even.
-/
def Binary.readsBack (value : Binary) (candidate : Scaled) : Bool :=
  let lower :=
    if value.narrowBelow then 4 * value.significand - 1
    else 4 * value.significand - 2
  let upper := 4 * value.significand + 2
  let closed := value.significand % 2 == 0
  let below := compareScaled candidate.digits candidate.scale lower (value.exponent - 2)
  let above := compareScaled candidate.digits candidate.scale upper (value.exponent - 2)
  (below == .gt || (closed && below == .eq)) &&
    (above == .lt || (closed && above == .eq))

/-- The two decimals next to a value on the grid of multiples of `10 ^ scale`. -/
def Binary.neighbours (value : Binary) (scale : Int) : Scaled × Scaled :=
  let lower :=
    value.numerator * tenTo (-scale).toNat /
      (value.denominator * tenTo scale.toNat)
  (⟨lower, scale⟩, ⟨lower + 1, scale⟩)

/-- The nearer of the decimals on a grid that read back, if one does. -/
def Binary.onGrid? (value : Binary) (scale : Int) : Option Scaled :=
  let (lower, upper) := value.neighbours scale
  match value.readsBack lower, value.readsBack upper with
  | false, false => none
  | true, false => some lower
  | false, true => some upper
  | true, true =>
      let middle :=
        compareScaled (lower.digits + upper.digits) scale
          (2 * value.significand) value.exponent
      if middle == .gt then some lower else some upper

/-- The least power of ten above a value, found by counting up from `start`. -/
def Binary.magnitudeFrom (value : Binary) (start : Int) : Nat → Int
  | 0 => start
  | fuel + 1 =>
      if compareScaled 1 start value.significand value.exponent == .gt then
        start
      else
        value.magnitudeFrom (start + 1) fuel

/-- The first grid on which a decimal reads back, coarse grids first. -/
def Binary.search (value : Binary) (scale : Int) : Nat → Scaled
  | 0 => ⟨value.numerator * Nat.pow 5 (-value.exponent).toNat, min value.exponent 0⟩
  | fuel + 1 =>
      match value.onGrid? scale with
      | some found => found
      | none => value.search (scale - 1) fuel

/-- The shortest decimal of a double that is not zero. -/
def Binary.shortest (value : Binary) : Scaled :=
  let start := (Nat.log2 value.significand + value.exponent) * 3 / 10 - 2
  value.search (value.magnitudeFrom start 8 - 1) 17

/-- Write a decimal positionally, without trailing zeros after the point. -/
def Scaled.positional (number : Scaled) : List Char :=
  let digits := Text.decimal number.digits
  if 0 ≤ number.scale then
    digits ++ List.replicate number.scale.toNat '0'
  else
    let places := (-number.scale).toNat
    let padded := Text.padZeros (places + 1) digits
    let whole := padded.take (padded.length - places)
    let fraction :=
      ((padded.drop (padded.length - places)).reverse.dropWhile (· == '0')).reverse
    if fraction.isEmpty then whole else whole ++ '.' :: fraction

/-- A double in its shortest positional form. -/
def shortest (value : Float) : List Char :=
  match Reading.ofFloat value with
  | .notANumber => ['N', 'a', 'N']
  | .infinite negative =>
      (if negative then ['-'] else []) ++ ['i', 'n', 'f']
  | .finite negative magnitude =>
      (if negative then ['-'] else []) ++
        (if magnitude.significand = 0 then ['0']
        else magnitude.shortest.positional)

end MTConnect.Decimal
