import MTConnect.Json.Number
import MTConnect.Json.Value
import MTConnect.Text.Digits
import MTConnect.Text.Split

namespace MTConnect.Json

/-!
# Reading JSON

The grammar is the strict one: four kinds of white space, no control
characters inside strings, no comments and no trailing commas. Escapes of
surrogates must come in pairs. Objects and arrays nest at most 127 deep.
-/

/-- White space between the tokens of JSON. -/
def isSpace (character : Char) : Bool :=
  character == ' ' || character == '\t' || character == '\n' || character == '\r'

/-- Drop white space from the front of a text. -/
def skipSpace (text : List Char) : List Char :=
  text.dropWhile isSpace

/-- The character of an escape of one letter. -/
def shortEscape? (letter : Char) : Option Char :=
  match letter with
  | '\x22' => some '\x22'
  | '\\' => some '\\'
  | '/' => some '/'
  | 'b' => some '\x08'
  | 'f' => some '\x0c'
  | 'n' => some '\n'
  | 'r' => some '\r'
  | 't' => some '\t'
  | _ => none

/-- The value of four hexadecimal digits. -/
def hexUnit? (first second third fourth : Char) : Option Nat :=
  Text.valueOf? 16 [first, second, third, fourth]

/-- Whether a unit opens a pair of surrogates. -/
def opensPair (unit : Nat) : Bool :=
  0xD800 ≤ unit && unit ≤ 0xDBFF

/-- Whether a unit closes a pair of surrogates. -/
def closesPair (unit : Nat) : Bool :=
  0xDC00 ≤ unit && unit ≤ 0xDFFF

/-- The character of a pair of surrogates. -/
def pairedChar (opening closing : Nat) : Char :=
  Char.ofNat (0x10000 + (opening - 0xD800) * 0x400 + (closing - 0xDC00))

/-- Put a character in front of what was read of a string. -/
def consRead
    (character : Char)
    (read : Option (List Char × List Char)) :
    Option (List Char × List Char) :=
  read.map fun parts => (character :: parts.1, parts.2)

/-- Read a string after its opening quote, up to and with its closing one. -/
def readString? : List Char → Option (List Char × List Char)
  | [] => none
  | '\\' :: 'u' :: a :: b :: c :: d :: rest =>
      match hexUnit? a b c d with
      | none => none
      | some unit =>
          if opensPair unit then
            match rest with
            | '\\' :: 'u' :: e :: f :: g :: h :: afterPair =>
                match hexUnit? e f g h with
                | none => none
                | some closing =>
                    if closesPair closing then
                      consRead (pairedChar unit closing) (readString? afterPair)
                    else
                      none
            | _ => none
          else if closesPair unit then
            none
          else
            consRead (Char.ofNat unit) (readString? rest)
  | '\\' :: letter :: rest =>
      match shortEscape? letter with
      | none => none
      | some character => consRead character (readString? rest)
  | character :: rest =>
      if character = '\x22' then
        some ([], rest)
      else if character = '\\' ∨ character.toNat < 0x20 then
        none
      else
        consRead character (readString? rest)

/-- Read a fixed word that stands for a value. -/
def readWord? (word : List Char) (value : Json) (text : List Char) : Option (Json × List Char) :=
  (Text.dropLead? word text).map fun rest => (value, rest)

mutual

/-- Read a value. `depth` is how many more arrays and objects may open. -/
def readValue? : Nat → Nat → List Char → Option (Json × List Char)
  | 0, _, _ => none
  | fuel + 1, depth, text =>
      match skipSpace text with
      | '\x22' :: rest =>
          (readString? rest).map
            fun read => (.string (String.ofList read.1), read.2)
      | '[' :: rest =>
          match depth with
          | 0 => none
          | inner + 1 =>
              match skipSpace rest with
              | ']' :: after => some (.array [], after)
              | _ =>
                  (readItems? fuel inner rest).map
                    fun read => (.array read.1, read.2)
      | '\x7b' :: rest =>
          match depth with
          | 0 => none
          | inner + 1 =>
              match skipSpace rest with
              | '\x7d' :: after => some (.object [], after)
              | _ =>
                  (readMembers? fuel inner rest).map
                    fun read => (.object read.1, read.2)
      | 'n' :: rest => readWord? ['u', 'l', 'l'] .null rest
      | 't' :: rest => readWord? ['r', 'u', 'e'] (.bool true) rest
      | 'f' :: rest => readWord? ['a', 'l', 's', 'e'] (.bool false) rest
      | trimmed => readNumber? trimmed

/-- Read the items of an array that has one, and the closing bracket. -/
def readItems? : Nat → Nat → List Char → Option (List Json × List Char)
  | 0, _, _ => none
  | fuel + 1, depth, text =>
      match readValue? fuel depth text with
      | none => none
      | some (item, after) =>
          match skipSpace after with
          | ']' :: rest => some ([item], rest)
          | ',' :: rest =>
              (readItems? fuel depth rest).map
                fun read => (item :: read.1, read.2)
          | _ => none

/-- Read the members of an object that has one, and the closing brace. -/
def readMembers? : Nat → Nat → List Char → Option (List (String × Json) × List Char)
  | 0, _, _ => none
  | fuel + 1, depth, text =>
      match skipSpace text with
      | '\x22' :: opened =>
          match readString? opened with
          | none => none
          | some (name, afterName) =>
              match skipSpace afterName with
              | ':' :: afterColon =>
                  match readValue? fuel depth afterColon with
                  | none => none
                  | some (value, after) =>
                      let member := (String.ofList name, value)
                      match skipSpace after with
                      | '\x7d' :: rest => some ([member], rest)
                      | ',' :: rest =>
                          (readMembers? fuel depth rest).map
                            fun read => (member :: read.1, read.2)
                      | _ => none
              | _ => none
      | _ => none

end

/-- How many arrays and objects may be open at once. -/
def depthLimit : Nat := 127

/-- Read a text that is one value. -/
def read? (text : List Char) : Option Json :=
  match readValue? (2 * text.length + 2) depthLimit text with
  | some (value, rest) => if (skipSpace rest).isEmpty then some value else none
  | none => none

/-- Read a string that is one value. -/
def parse? (text : String) : Option Json :=
  read? text.toList

end MTConnect.Json
