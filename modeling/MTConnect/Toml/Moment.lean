import MTConnect.Text.Digits

namespace MTConnect.Toml

/-!
# Dates and times of TOML

A date, a time, or a date with a time and perhaps an offset is read as the
text of its canonical form: a capital `T` between date and time, a capital
`Z`, at most nine places of a second, and no zeros at their end beyond the
first place. The second may be left out, and stays so.
-/

/-- The number of days of a month. -/
def daysIn (year month : Nat) : Nat :=
  if month = 2 then
    if year % 4 = 0 ∧ (year % 100 ≠ 0 ∨ year % 400 = 0) then 29 else 28
  else if month ∈ [4, 6, 9, 11] then
    30
  else
    31

/-- Two digits with a value between two bounds. -/
def isPair (least most : Nat) (high low : Char) : Bool :=
  match Text.decimalValue? [high, low] with
  | some value => decide (least ≤ value ∧ value ≤ most)
  | none => false

/-- Whether the digits of a year, a month and a day name a date. -/
def isDate (year month day : List Char) : Bool :=
  match Text.decimalValue? year, Text.decimalValue? month, Text.decimalValue? day with
  | some year, some month, some day =>
      decide (1 ≤ month ∧ month ≤ 12 ∧ 1 ≤ day ∧ day ≤ daysIn year month)
  | _, _, _ => false

/-- Read a date. -/
def readDate? : List Char → Option (List Char × List Char)
  | a :: b :: c :: d :: '-' :: e :: f :: '-' :: g :: h :: rest =>
      if isDate [a, b, c, d] [e, f] [g, h] then
        some ([a, b, c, d, '-', e, f, '-', g, h], rest)
      else
        none
  | _ => none

/-- Read the places of a second, which a point comes before. -/
def readPlaces? (text : List Char) : Option (List Char × List Char) :=
  match text with
  | '.' :: rest =>
      let (digits, after) := Text.spanDigits rest
      let shown := ((digits.take 9).reverse.dropWhile (· == '0')).reverse
      if digits.isEmpty then none
      else some ('.' :: (if shown.isEmpty then ['0'] else shown), after)
  | _ => some ([], text)

/-- Read a second, which a colon comes before, and its places; there may be none. -/
def readSecond? : List Char → Option (List Char × List Char)
  | ':' :: a :: b :: rest =>
      if isPair 0 60 a b then
        (readPlaces? rest).map fun places => ([':', a, b] ++ places.1, places.2)
      else
        none
  | text => some ([], text)

/-- Read a time of day. -/
def readTime? : List Char → Option (List Char × List Char)
  | a :: b :: ':' :: c :: d :: rest =>
      if isPair 0 23 a b && isPair 0 59 c d then
        (readSecond? rest).map
          fun second => ([a, b, ':', c, d] ++ second.1, second.2)
      else
        none
  | _ => none

/-- The canonical form of an offset that makes up a whole text, or of none. -/
def offset? : List Char → Option (List Char)
  | [] => some []
  | ['Z'] => some ['Z']
  | ['z'] => some ['Z']
  | [sign, a, b, ':', c, d] =>
      if (sign == '+' || sign == '-') && isPair 0 23 a b && isPair 0 59 c d then
        let shown := if [a, b, c, d].all (· == '0') then '+' else sign
        some [shown, a, b, ':', c, d]
      else
        none
  | _ => none

/-- Whether a character stands between a date and a time. -/
def isDivider (character : Char) : Bool :=
  character == 'T' || character == 't' || character == ' '

/-- The canonical form of a date or time that makes up a whole text. -/
def moment? (text : List Char) : Option (List Char) :=
  match readDate? text with
  | some (date, []) => some date
  | some (date, divider :: rest) =>
      if isDivider divider then do
        let (time, after) ← readTime? rest
        let offset ← offset? after
        pure (date ++ 'T' :: time ++ offset)
      else
        none
  | none =>
      match readTime? text with
      | some (time, []) => some time
      | _ => none

end MTConnect.Toml
