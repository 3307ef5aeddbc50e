import MTConnect.Settings.Setting

namespace MTConnect

/-!
# Paths to settings

The name of a setting may be a path: a key, followed by further keys after
points and by positions in brackets. A name that is no path stands for itself
as a single key. Putting a value at a path makes the tables and lists on the
way; a table is put entry by entry, so that entries that are there and have
no counterpart stay.
-/

/-- A step from a setting to one inside it. -/
inductive KeyStep where
  | key (name : String)
  /-- A position; a negative one counts from the end. -/
  | position (index : Int)
  deriving Repr, DecidableEq, Inhabited

/-- The way from the root to a setting. -/
abbrev KeyPath := List KeyStep

namespace KeyPath

/-- Whether a character may stand in a key of a path. -/
def isKeyChar (character : Char) : Bool :=
  character.isAlphanum || character == '_' || character == '-'

/-- Read a key of at least one character. -/
def readKey? (text : List Char) : Option (KeyStep × List Char) :=
  let (name, rest) := text.span isKeyChar
  if name.isEmpty then none else some (.key (String.ofList name), rest)

/-- Whether a character may stand around a position. -/
def isGap (character : Char) : Bool :=
  character == ' ' || character == '\t'

/-- Read a position and its closing bracket. -/
def readPosition? (text : List Char) : Option (KeyStep × List Char) := do
  let shown := text.dropWhile isGap
  let (sign, digits) :=
    match shown with
    | '-' :: rest => ((-1 : Int), rest)
    | rest => (1, rest)
  let (run, after) := Text.spanDigits digits
  let value ← Text.decimalValue? run
  let rest ← Text.dropLead? [']'] (after.dropWhile isGap)
  if value ≤ Word.signedTop then
    pure (.position (sign * value), rest)
  else
    none

/-- Read the steps after the first key. `fuel` is a bound on their number. -/
def readSteps? : Nat → List Char → Option KeyPath
  | _, [] => some []
  | 0, _ => none
  | fuel + 1, '.' :: text => do
      let (step, rest) ← readKey? text
      pure (step :: (← readSteps? fuel rest))
  | fuel + 1, '[' :: text => do
      let (step, rest) ← readPosition? text
      pure (step :: (← readSteps? fuel rest))
  | _, _ => none

/-- Read a path. -/
def read? (text : List Char) : Option KeyPath := do
  let (first, rest) ← readKey? text
  pure (first :: (← readSteps? rest.length rest))

/-- The path that a name stands for. -/
def ofName (name : String) : KeyPath :=
  (read? name.toList).getD [.key name]

end KeyPath

namespace Setting

/--
Change the item at a position of a list. A list that is too short grows, by
empty items at its end or, for a position before its start, in front.
-/
def changeItem (index : Int) (change : Setting → Setting) (items : List Setting) : List Setting :=
  let position := if 0 ≤ index then index else index + items.length
  let before := (-position).toNat
  let grown := List.replicate before .nothing ++ items
  let place := position.toNat
  let filled := grown ++ List.replicate (place + 1 - grown.length) .nothing
  filled.modify place change

/-- Change the setting at a path, making what is missing on the way. -/
def changeAt (change : Setting → Setting) : KeyPath → Setting → Setting
  | [], value => change value
  | .key name :: path, value =>
      let found := (lookup? name value.entries).getD .nothing
      .table (putEntry name (changeAt change path found) value.entries)
  | .position index :: path, value =>
      .list (changeItem index (changeAt change path) value.items)

mutual

/-- Put a value over what is there: tables entry by entry, other values as a whole. -/
def overlay : Setting → Setting → Setting
  | .table incoming, .nothing => overlayEntries incoming (.table [])
  | .table incoming, existing => overlayEntries incoming existing
  | incoming, _ => incoming

/-- Put entries over those of a setting, which becomes a table for the first of them. -/
def overlayEntries : List (String × Setting) → Setting → Setting
  | [], existing => existing
  | (name, value) :: rest, existing =>
      let found := (lookup? name existing.entries).getD .nothing
      overlayEntries rest
        (.table (putEntry name (overlay value found) existing.entries))

end

/-- Put a value at the path that a name stands for. -/
def put (root : Setting) (name : String) (value : Setting) : Setting :=
  root.changeAt (overlay value) (.ofName name)

/-- Put named values one after the other. -/
def putAll (root : Setting) (named : List (String × Setting)) : Setting :=
  named.foldl (fun soFar entry => soFar.put entry.1 entry.2) root

end Setting

end MTConnect
