import MTConnect.Decimal.Literal
import MTConnect.Settings.Setting
import MTConnect.Text.Numeral
import MTConnect.Text.Split
import MTConnect.Toml.Moment

namespace MTConnect.Toml

/-!
# Scalars of TOML that are no strings

Truth values, whole numbers, decimals, dates and times are runs of a few
characters. Single underscores may stand between digits. Whole numbers fit a
signed word; without a sign they may be hexadecimal, octal or binary. A date
is read as its text.
-/

/-- Whether a character may stand in a scalar. -/
def isScalarChar (character : Char) : Bool :=
  character.isAlphanum || character == '_' || character == '+' ||
    character == '-' || character == '.' || character == ':'

/-- The digits of a run without the underscores between them. -/
def ungrouped? (base : Nat) (run : List Char) : Option (List Char) :=
  let groups := Text.splitAt '_' run
  let areDigits := fun group : List Char =>
    !group.isEmpty && group.all fun digit => (Text.digitValue? base digit).isSome
  if groups.all areDigits then some groups.flatten else none

/-- A number of another base than ten, after the letter of its base. -/
def based? (base : Nat) (run : List Char) : Option Setting := do
  let digits ← ungrouped? base run
  let value ← Text.valueOf? base digits
  if value ≤ Word.signedTop then pure (.whole value) else none

/-- Digits that do not begin with a zero, unless that is all. -/
def leadless? (run : List Char) : Option (List Char) :=
  (ungrouped? 10 run).filter fun digits => digits.head? != some '0' || digits.length == 1

/-- A text without its sign, and the sign. -/
def signed (text : List Char) : List Char × List Char :=
  match text with
  | '-' :: rest => (['-'], rest)
  | '+' :: rest => ([], rest)
  | rest => ([], rest)

/-- A whole number. -/
def whole? (token : List Char) : Option Setting :=
  match token with
  | '0' :: 'x' :: run => based? 16 run
  | '0' :: 'o' :: run => based? 8 run
  | '0' :: 'b' :: run => based? 2 run
  | _ => do
      let (sign, run) := signed token
      let digits ← leadless? run
      (Text.signedWord? (sign ++ digits)).map .whole

/-- Split a decimal before its exponent; the letter is left out. -/
def splitExponent (text : List Char) : List Char × Option (List Char) :=
  match text.span fun character => character != 'e' && character != 'E' with
  | (mantissa, []) => (mantissa, none)
  | (mantissa, _ :: exponent) => (mantissa, some exponent)

/-- A fraction in front of an exponent, without underscores. -/
def mantissa? (text : List Char) : Option (List Char) :=
  match Text.splitOnce? '.' text with
  | none => leadless? text
  | some (whole, fraction) => do
      pure ((← leadless? whole) ++ '.' :: (← ungrouped? 10 fraction))

/-- An exponent after its letter, without underscores. -/
def exponentPart? (exponent? : Option (List Char)) : Option (List Char) :=
  match exponent? with
  | none => some []
  | some text => do
      let (sign, run) := signed text
      pure ('e' :: sign ++ (← ungrouped? 10 run))

/-- A decimal, which has a point or an exponent; one beyond the largest double is refused. -/
def decimal? (token : List Char) : Option Setting := do
  let (sign, text) := signed token
  if text == ['i', 'n', 'f'] || text == ['n', 'a', 'n'] then
    (Decimal.literal? (sign ++ text)).map .real
  else if !text.any fun character => character == '.' || character == 'e' || character == 'E' then
    none
  else
    let (front, back?) := splitExponent text
    let mantissa ← mantissa? front
    let exponent ← exponentPart? back?
    let value ← Decimal.literal? (sign ++ mantissa ++ exponent)
    if value.isInf then none else pure (.real value)

/-- A truth value. -/
def truth? (token : List Char) : Option Setting :=
  (Text.truth? token).map .flag

/-- A scalar that makes up a whole text. -/
def scalar? (token : List Char) : Option Setting :=
  truth? token <|> whole? token <|> decimal? token <|>
    ((moment? token).map fun text => .text (String.ofList text))

/-- Read a scalar. A blank may divide a date from a time. -/
def readScalar? (text : List Char) : Option (Setting × List Char) :=
  let (token, rest) := text.span isScalarChar
  match readDate? token, rest with
  | some (_, []), ' ' :: digit :: after =>
      if digit.isDigit then
        let (time, rest) := (digit :: after).span isScalarChar
        (scalar? (token ++ ' ' :: time)).map fun value => (value, rest)
      else
        (scalar? token).map fun value => (value, rest)
  | _, _ => (scalar? token).map fun value => (value, rest)

end MTConnect.Toml
