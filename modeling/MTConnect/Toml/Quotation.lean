import MTConnect.Text.Digits
import MTConnect.Text.Split

namespace MTConnect.Toml

/-!
# Strings of TOML

A string stands in double quotes, with escapes, or in single quotes, as it
is. Three quotes of either kind enclose a string of several lines; up to two
more quotes in front of the closing three belong to the string. The ends of
its lines stay as they are written.
-/

/-- Whether a character may stand in strings and comments as it is. -/
def isPlain (character : Char) : Bool :=
  character == '\t' || (0x20 ≤ character.toNat && character.toNat != 0x7F)

/-- The character of an escape of one letter. -/
def shortEscape? (letter : Char) : Option Char :=
  match letter with
  | '\x22' => some '\x22'
  | '\\' => some '\\'
  | 'b' => some '\x08'
  | 'e' => some '\x1b'
  | 'f' => some '\x0c'
  | 'n' => some '\n'
  | 'r' => some '\r'
  | 't' => some '\t'
  | _ => none

/-- The character that hexadecimal digits name. -/
def namedChar? (digits : List Char) : Option Char := do
  let code ← Text.valueOf? 16 digits
  if code.isValidChar then pure (Char.ofNat code) else none

/-- Put characters in front of what was read of a string. -/
def joinRead
    (characters : List Char)
    (read : Option (List Char × List Char)) :
    Option (List Char × List Char) :=
  read.map fun parts => (characters ++ parts.1, parts.2)

/-- Put a character, if there is one, in front of what was read of a string. -/
def joinChar
    (character? : Option Char)
    (read : Option (List Char × List Char)) :
    Option (List Char × List Char) :=
  character?.bind fun character => joinRead [character] read

/-- Read a string of one line after its opening double quote. -/
def readEscaped? : List Char → Option (List Char × List Char)
  | [] => none
  | '\\' :: 'x' :: a :: b :: rest =>
      joinChar (namedChar? [a, b]) (readEscaped? rest)
  | '\\' :: 'u' :: a :: b :: c :: d :: rest =>
      joinChar (namedChar? [a, b, c, d]) (readEscaped? rest)
  | '\\' :: 'U' :: a :: b :: c :: d :: e :: f :: g :: h :: rest =>
      joinChar (namedChar? [a, b, c, d, e, f, g, h]) (readEscaped? rest)
  | '\\' :: letter :: rest => joinChar (shortEscape? letter) (readEscaped? rest)
  | '\x22' :: rest => some ([], rest)
  | character :: rest =>
      if isPlain character && character != '\\' then
        joinRead [character] (readEscaped? rest)
      else
        none

/-- Read a string of one line after its opening single quote. -/
def readLiteral? : List Char → Option (List Char × List Char)
  | [] => none
  | '\x27' :: rest => some ([], rest)
  | character :: rest =>
      if isPlain character then
        joinRead [character] (readLiteral? rest)
      else
        none

/-- Where a backslash at the end of a line has got to. -/
inductive Joining where
  /-- There is none. -/
  | absent
  /-- The end of the line must follow. -/
  | sought
  /-- White space is dropped up to the next visible character. -/
  | dropping
  deriving Repr, DecidableEq

/-- Whether a character is white space inside a line. -/
def isGap (character : Char) : Bool :=
  character == ' ' || character == '\t'

/-- Read a string of several lines after its three double quotes. -/
def readEscapedLines? : Joining → List Char → Option (List Char × List Char)
  | _, [] => none
  | .absent, '\n' :: rest => joinRead ['\n'] (readEscapedLines? .absent rest)
  | .absent, '\r' :: '\n' :: rest => joinRead ['\r', '\n'] (readEscapedLines? .absent rest)
  | _, '\n' :: rest => readEscapedLines? .dropping rest
  | _, '\r' :: '\n' :: rest => readEscapedLines? .dropping rest
  | .sought, character :: rest =>
      if isGap character then readEscapedLines? .sought rest else none
  | _, '\\' :: 'x' :: a :: b :: rest =>
      joinChar (namedChar? [a, b]) (readEscapedLines? .absent rest)
  | _, '\\' :: 'u' :: a :: b :: c :: d :: rest =>
      joinChar (namedChar? [a, b, c, d]) (readEscapedLines? .absent rest)
  | _, '\\' :: 'U' :: a :: b :: c :: d :: e :: f :: g :: h :: rest =>
      joinChar (namedChar? [a, b, c, d, e, f, g, h]) (readEscapedLines? .absent rest)
  | _, '\\' :: '\n' :: rest => readEscapedLines? .dropping rest
  | _, '\\' :: '\r' :: '\n' :: rest => readEscapedLines? .dropping rest
  | _, '\\' :: letter :: rest =>
      if isGap letter then
        readEscapedLines? .sought rest
      else
        joinChar (shortEscape? letter) (readEscapedLines? .absent rest)
  | _, '\x22' :: '\x22' :: '\x22' :: '\x22' :: '\x22' :: rest =>
      some (['\x22', '\x22'], rest)
  | _, '\x22' :: '\x22' :: '\x22' :: '\x22' :: rest => some (['\x22'], rest)
  | _, '\x22' :: '\x22' :: '\x22' :: rest => some ([], rest)
  | joining, character :: rest =>
      if joining = .dropping ∧ isGap character then
        readEscapedLines? .dropping rest
      else if isPlain character && character != '\\' then
        joinRead [character] (readEscapedLines? .absent rest)
      else
        none

/-- Read a string of several lines after its three single quotes. -/
def readLiteralLines? : List Char → Option (List Char × List Char)
  | [] => none
  | '\n' :: rest => joinRead ['\n'] (readLiteralLines? rest)
  | '\r' :: '\n' :: rest => joinRead ['\r', '\n'] (readLiteralLines? rest)
  | '\x27' :: '\x27' :: '\x27' :: '\x27' :: '\x27' :: rest =>
      some (['\x27', '\x27'], rest)
  | '\x27' :: '\x27' :: '\x27' :: '\x27' :: rest => some (['\x27'], rest)
  | '\x27' :: '\x27' :: '\x27' :: rest => some ([], rest)
  | character :: rest =>
      if isPlain character then
        joinRead [character] (readLiteralLines? rest)
      else
        none

/-- Drop the end of the line that an opening of three quotes may stand on. -/
def dropLineEnd : List Char → List Char
  | '\n' :: rest => rest
  | '\r' :: '\n' :: rest => rest
  | text => text

/-- Read a string of any kind; none if there is no string. -/
def readString? : List Char → Option (List Char × List Char)
  | '\x22' :: '\x22' :: '\x22' :: rest => readEscapedLines? .absent (dropLineEnd rest)
  | '\x27' :: '\x27' :: '\x27' :: rest => readLiteralLines? (dropLineEnd rest)
  | '\x22' :: rest => readEscaped? rest
  | '\x27' :: rest => readLiteral? rest
  | _ => none

end MTConnect.Toml
