import MTConnect.Text.Digits
import MTConnect.Word

namespace MTConnect.Text

/-!
# Numerals in requests

Parameters of a request are read strictly: an optional sign, at least one
decimal digit, nothing else, and a value within the word that receives it.
A minus sign is accepted only where negative values are. Truth values are the
two words `true` and `false` in lower case.
-/

/-- A text without a leading plus sign. -/
def dropPlus : List Char → List Char
  | '+' :: rest => rest
  | text => text

/-- Read a word. -/
def word? (text : List Char) : Option Nat :=
  (decimalValue? (dropPlus text)).filter (· ≤ Word.top)

/-- Read a signed word. -/
def signedWord? (text : List Char) : Option Int :=
  match text with
  | '-' :: digits =>
      ((decimalValue? digits).filter (· ≤ Word.signedTop + 1)).map
        fun value => -(value : Int)
  | _ =>
      ((decimalValue? (dropPlus text)).filter (· ≤ Word.signedTop)).map
        fun value => (value : Int)

/-- Read a truth value. -/
def truth? (text : List Char) : Option Bool :=
  if text = ['t', 'r', 'u', 'e'] then some true
  else if text = ['f', 'a', 'l', 's', 'e'] then some false
  else none

/-- A signed number in decimal digits. -/
def signedDecimal (value : Int) : List Char :=
  if value < 0 then
    '-' :: decimal value.natAbs
  else
    decimal value.natAbs

end MTConnect.Text
