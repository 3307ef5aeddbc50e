import MTConnect.Text.Digits
import MTConnect.Text.Graphic

namespace MTConnect.Text

/-!
# Quoted text in messages

Messages repeat what a client sent between double quotes. A quote or a
backslash inside is preceded by a backslash, the four common controls have
letters of their own, and every other character that is not graphic is
spelled by its number, so that a message is always one readable line.
-/

/-- How one character appears inside quotes. -/
def quoteChar (character : Char) : List Char :=
  match character with
  | '\x22' => ['\\', '\x22']
  | '\\' => ['\\', '\\']
  | '\n' => ['\\', 'n']
  | '\r' => ['\\', 'r']
  | '\t' => ['\\', 't']
  | '\x00' => ['\\', '0']
  | _ =>
      if isGraphic character then
        [character]
      else
        ['\\', 'u', '\x7b'] ++ hexadecimal character.toNat ++ ['\x7d']

/-- A text between double quotes. -/
def quoted (text : List Char) : List Char :=
  '\x22' :: text.flatMap quoteChar ++ ['\x22']

/-- A text between double quotes, as a string. -/
def quotedString (text : String) : String :=
  String.ofList (quoted text.toList)

end MTConnect.Text
