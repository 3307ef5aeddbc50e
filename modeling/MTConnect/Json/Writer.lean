import MTConnect.Decimal.Shortest
import MTConnect.Json.Value
import MTConnect.Text.Digits
import MTConnect.Text.Numeral

namespace MTConnect.Json

/-!
# Writing JSON

Values are written without any white space. Inside strings a quote, a
backslash and the control characters are escaped, the common controls by
letters and the others by four lower-case hexadecimal digits; every other
character stands for itself.
-/

/-- How one character appears inside a JSON string. -/
def escapeChar (character : Char) : List Char :=
  match character with
  | '\x22' => ['\\', '\x22']
  | '\\' => ['\\', '\\']
  | '\x08' => ['\\', 'b']
  | '\x0c' => ['\\', 'f']
  | '\n' => ['\\', 'n']
  | '\r' => ['\\', 'r']
  | '\t' => ['\\', 't']
  | _ =>
      if character.toNat < 0x20 then
        ['\\', 'u'] ++ Text.padZeros 4 (Text.hexadecimal character.toNat)
      else
        [character]

/-- A string between quotes. -/
def writeString (text : String) : List Char :=
  '\x22' :: text.toList.flatMap escapeChar ++ ['\x22']

/-- A number that is not whole; what is not finite has no JSON form. -/
def writeReal (value : Float) : List Char :=
  if value.isFinite then
    Decimal.shortest value
  else
    ['n', 'u', 'l', 'l']

mutual

/-- A value without white space. -/
def write : Json → List Char
  | .null => ['n', 'u', 'l', 'l']
  | .bool true => ['t', 'r', 'u', 'e']
  | .bool false => ['f', 'a', 'l', 's', 'e']
  | .integer value => Text.signedDecimal value
  | .real value => writeReal value
  | .string text => writeString text
  | .array [] => ['[', ']']
  | .array (item :: rest) => '[' :: write item ++ writeItems rest
  | .object [] => ['\x7b', '\x7d']
  | .object ((name, value) :: rest) =>
      '\x7b' :: writeString name ++ ':' :: write value ++ writeMembers rest

/-- The items after the first one, and the closing bracket. -/
def writeItems : List Json → List Char
  | [] => [']']
  | item :: rest => ',' :: write item ++ writeItems rest

/-- The members after the first one, and the closing brace. -/
def writeMembers : List (String × Json) → List Char
  | [] => ['\x7d']
  | (name, value) :: rest =>
      ',' :: writeString name ++ ':' :: write value ++ writeMembers rest

end

/-- The text of a value. -/
def render (value : Json) : String :=
  String.ofList (write value)

end MTConnect.Json
