import MTConnect.Toml.Document
import MTConnect.Toml.Quotation
import MTConnect.Toml.Scalar

namespace MTConnect.Toml

/-!
# Reading TOML

A document is read line by line into headers and entries, which then must fit
together. Arrays and tables in braces may stretch over lines, hold comments
and end in a comma; they nest at most 80 deep. A path has at most 80 keys.
-/

/-- Whether a character may stand in a key without quotes. -/
def isBareChar (character : Char) : Bool :=
  character.isAlphanum || character == '_' || character == '-'

/-- Drop white space inside a line. -/
def skipGap (text : List Char) : List Char :=
  text.dropWhile isGap

/-- Drop white space, ends of lines and comments. -/
def skipLines? (inComment : Bool) : List Char → Option (List Char)
  | [] => some []
  | '\n' :: rest => skipLines? false rest
  | '\r' :: '\n' :: rest => skipLines? false rest
  | character :: rest =>
      if inComment then
        if isPlain character then skipLines? true rest else none
      else if character = '#' then
        skipLines? true rest
      else if isGap character then
        skipLines? false rest
      else
        some (character :: rest)

/-- Read one key of a path. -/
def readKey? (text : List Char) : Option (String × List Char) :=
  let (bare, rest) := text.span isBareChar
  if bare.isEmpty then
    match text with
    | '\x22' :: after =>
        (readEscaped? after).map fun parts => (String.ofList parts.1, parts.2)
    | '\x27' :: after =>
        (readLiteral? after).map fun parts => (String.ofList parts.1, parts.2)
    | _ => none
  else
    some (String.ofList bare, rest)

/-- The most keys that a path may have. -/
def maximumKeys : Nat := 80

/-- Read keys with points between them, at most a given number. -/
def readKeys? : Nat → List Char → Option (List String × List Char)
  | 0, _ => none
  | more + 1, text => do
      let (key, rest) ← readKey? (skipGap text)
      match skipGap rest with
      | '.' :: following =>
          let (path, after) ← readKeys? more following
          pure (key :: path, after)
      | after => pure ([key], after)

/-- Read a path. -/
def readPath? (text : List Char) : Option (List String × List Char) :=
  readKeys? maximumKeys text

mutual

/-- Read a value. `depth` is how many more arrays and braces may open. -/
def readValue? : Nat → Nat → List Char → Option (Setting × List Char)
  | 0, _, _ => none
  | fuel + 1, depth, text =>
      match text with
      | '[' :: rest =>
          match depth with
          | 0 => none
          | inner + 1 =>
              (readItems? fuel inner rest).map fun read => (.list read.1, read.2)
      | '\x7b' :: rest =>
          match depth with
          | 0 => none
          | inner + 1 =>
              match readEntries? fuel inner rest with
              | some (entries, after) =>
                  (settingsOfEntries? entries).map fun table => (table, after)
              | none => none
      | '\x22' :: _ =>
          (readString? text).map fun read => (.text (String.ofList read.1), read.2)
      | '\x27' :: _ =>
          (readString? text).map fun read => (.text (String.ofList read.1), read.2)
      | _ => readScalar? text

/-- Read the items of an array, and its closing bracket. -/
def readItems? : Nat → Nat → List Char → Option (List Setting × List Char)
  | 0, _, _ => none
  | fuel + 1, depth, text => do
      match ← skipLines? false text with
      | ']' :: rest => pure ([], rest)
      | shown =>
          let (item, rest) ← readValue? fuel depth shown
          match ← skipLines? false rest with
          | ',' :: more =>
              let (items, after) ← readItems? fuel depth more
              pure (item :: items, after)
          | ']' :: after => pure ([item], after)
          | _ => none

/-- Read the entries of a table in braces, and its closing brace. -/
def readEntries? : Nat → Nat → List Char → Option (List (List String × Setting) × List Char)
  | 0, _, _ => none
  | fuel + 1, depth, text => do
      match ← skipLines? false text with
      | '\x7d' :: rest => pure ([], rest)
      | shown =>
          let (path, afterPath) ← readPath? shown
          let afterEquals ← Text.dropLead? ['='] (← skipLines? false afterPath)
          let (value, rest) ← readValue? fuel depth (← skipLines? false afterEquals)
          match ← skipLines? false rest with
          | ',' :: more =>
              let (entries, after) ← readEntries? fuel depth more
              pure ((path, value) :: entries, after)
          | '\x7d' :: after => pure ([(path, value)], after)
          | _ => none

end

/-- The most arrays and braces that may be open at once. -/
def maximumDepth : Nat := 80

/-- Read a header or an entry. -/
def readLine? (text : List Char) : Option (Line × List Char) :=
  match text with
  | '[' :: '[' :: rest => do
      let (path, after) ← readPath? rest
      let finish ← Text.dropLead? [']', ']'] after
      pure (.nextOf path, finish)
  | '[' :: rest => do
      let (path, after) ← readPath? rest
      let finish ← Text.dropLead? [']'] after
      pure (.opening path, finish)
  | _ => do
      let (path, after) ← readPath? text
      let afterEquals ← Text.dropLead? ['='] after
      let (value, finish) ←
        readValue? (text.length + 1) maximumDepth (skipGap afterEquals)
      pure (.entry path value, finish)

/-- Whether nothing but a comment is left of a line. -/
def endsLine (text : List Char) : Bool :=
  match skipGap text with
  | [] => true
  | '#' :: _ => true
  | '\n' :: _ => true
  | '\r' :: '\n' :: _ => true
  | _ => false

/-- Read all lines; `fuel` is a bound on their number. -/
def readLines? : Nat → List Char → Option (List Line)
  | 0, _ => none
  | fuel + 1, text => do
      let shown ← skipLines? false text
      if shown.isEmpty then
        pure []
      else
        let (line, rest) ← readLine? shown
        if endsLine rest then
          pure (line :: (← readLines? fuel rest))
        else
          none

/-- A text without the mark of its byte order. -/
def dropOrderMark : List Char → List Char
  | '\ufeff' :: rest => rest
  | text => text

/-- The settings of a document. -/
def parse? (text : String) : Option Setting := do
  let characters := dropOrderMark text.toList
  settingsOfLines? (← readLines? (characters.length + 1) characters)

end MTConnect.Toml
