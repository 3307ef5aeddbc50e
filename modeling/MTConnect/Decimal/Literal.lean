import MTConnect.Text.Digits

namespace MTConnect.Decimal

/-!
# Reading decimal literals

A literal is an optional sign, digits with an optional point among them, and
an optional exponent; at least one digit must stand before the exponent. The
words for infinity and for no number are accepted in any case. The value is
the double nearest to the literal, a half going to the even significand.
-/

/-- An exponent: an optional sign and digits to the end of the text. -/
def exponent? (text : List Char) : Option Int :=
  match text with
  | '-' :: digits => (Text.decimalValue? digits).map fun value => -(value : Int)
  | '+' :: digits => (Text.decimalValue? digits).map fun value => (value : Int)
  | digits => (Text.decimalValue? digits).map fun value => (value : Int)

/--
The double nearest to `digits * 10 ^ scale`.

Beyond the range of doubles the answer is known without computing the power:
fewer than a thousand powers of ten cover every finite double.
-/
def nearest (digits : Nat) (scale : Int) : Float :=
  let length := (Text.decimal digits).length
  if digits = 0 then 0.0
  else if 400 < scale + length then 1.0 / 0.0
  else if scale + length < -400 then 0.0
  else Float.ofScientific digits (decide (scale < 0)) scale.natAbs

/-- Read an unsigned literal of digits. -/
def unsignedDigits? (text : List Char) : Option Float := do
  let (whole, afterWhole) := Text.spanDigits text
  let (fraction, afterFraction) :=
    match afterWhole with
    | '.' :: rest => Text.spanDigits rest
    | rest => ([], rest)
  let scale ←
    match afterFraction with
    | [] => some 0
    | 'e' :: rest => exponent? rest
    | 'E' :: rest => exponent? rest
    | _ => none
  let digits ← Text.decimalValue? (whole ++ fraction)
  pure (nearest digits (scale - fraction.length))

/-- Read an unsigned literal or one of the words for special values. -/
def unsignedLiteral? (text : List Char) : Option Float :=
  match (String.ofList (text.map Char.toLower)) with
  | "inf" => some (1.0 / 0.0)
  | "infinity" => some (1.0 / 0.0)
  | "nan" => some (0.0 / 0.0)
  | _ => unsignedDigits? text

/-- Read a literal with an optional sign. -/
def literal? (text : List Char) : Option Float :=
  match text with
  | '-' :: rest => (unsignedLiteral? rest).map fun value => -value
  | '+' :: rest => unsignedLiteral? rest
  | _ => unsignedLiteral? text

end MTConnect.Decimal
