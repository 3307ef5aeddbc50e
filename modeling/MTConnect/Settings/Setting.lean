import MTConnect.Decimal.Literal
import MTConnect.Decimal.Shortest
import MTConnect.Json.Value
import MTConnect.SortedMap
import MTConnect.Text.Numeral
import MTConnect.Text.Split

namespace MTConnect

/-!
# Settings as they are written

Files and environment variables give a tree of loosely typed values. Reading
one as the type that is wanted converts between scalars: texts are read as
numbers when they are numerals, numbers are written as text, truth values
count as one and zero. Nothing, lists and tables are never scalars.
-/

/-- A value of a settings file or of an environment variable. -/
inductive Setting where
  | nothing
  | flag (value : Bool)
  | whole (value : Int)
  | real (value : Float)
  | text (value : String)
  | list (items : List Setting)
  | table (entries : List (String × Setting))
  deriving Inhabited, Repr

namespace Setting

/-- The entry of a key. -/
def lookup? (key : String) (entries : List (String × Setting)) : Option Setting :=
  (entries.find? fun entry => entry.1 == key).map Prod.snd

/-- Put an entry where the key is, or at the end. -/
def putEntry
    (key : String)
    (value : Setting) :
    List (String × Setting) → List (String × Setting)
  | [] => [(key, value)]
  | entry :: rest =>
      if entry.1 = key then
        (key, value) :: rest
      else
        entry :: putEntry key value rest

/-- The entries of a table; any other value has none. -/
def entries : Setting → List (String × Setting)
  | .table entries => entries
  | _ => []

/-- The items of a list; any other value has none. -/
def items : Setting → List Setting
  | .list items => items
  | _ => []

/-! ## Settings out of JSON -/

mutual

/-- A JSON value as a setting; of entries with one name the last one stays. -/
def ofJson : Json → Setting
  | .null => .nothing
  | .bool value => .flag value
  | .integer value => .whole value
  | .real value => .real value
  | .string value => .text value
  | .array values => .list (ofItems values)
  | .object members => .table (ofMembers [] members)

/-- The items of a JSON array. -/
def ofItems : List Json → List Setting
  | [] => []
  | value :: rest => ofJson value :: ofItems rest

/-- The members of a JSON object, added to entries that are there already. -/
def ofMembers (before : List (String × Setting)) : List (String × Json) → List (String × Setting)
  | [] => before
  | (name, value) :: rest => ofMembers (putEntry name (ofJson value) before) rest

end

/-! ## Settings as scalars -/

/-- The truth value that a word stands for. -/
def spokenTruth? (text : String) : Option Bool :=
  let word := String.ofList (Text.lowerAscii text.toList)
  if ["true", "on", "yes"].contains word then some true
  else if ["false", "off", "no"].contains word then some false
  else none

/-- The word nearest to a double, a half going up; outside the range it is the nearest bound. -/
def nearestWord (value : Float) : Nat :=
  value.round.toUInt64.toNat

/-- Read a setting as a word. -/
def word? : Setting → Option Nat
  | .flag value => some value.toNat
  | .whole value => if 0 ≤ value then some value.toNat else none
  | .real value => some (nearestWord value)
  | .text value =>
      match spokenTruth? value with
      | some truth => some truth.toNat
      | none => Text.word? value.toList
  | _ => none

/-- Read a setting as a double. -/
def real? : Setting → Option Float
  | .flag value => some (if value then 1.0 else 0.0)
  | .whole value => some (Float.ofInt value)
  | .real value => some value
  | .text value =>
      match spokenTruth? value with
      | some truth => some (if truth then 1.0 else 0.0)
      | none => Decimal.literal? value.toList
  | _ => none

/-- Read a setting as a text. -/
def text? : Setting → Option String
  | .flag value => some (if value then "true" else "false")
  | .whole value => some (String.ofList (Text.signedDecimal value))
  | .real value => some (String.ofList (Decimal.shortest value))
  | .text value => some value
  | _ => none

/-- Read a setting as the name of a variant: a text, or a table of one entry. -/
def variant? : Setting → Option String
  | .text name => some name
  | .table [(name, _)] => some name
  | _ => none

/-! ## Settings as records -/

/-- Read a setting that may be nothing. -/
def nullable?
    {α : Type}
    (read? : Setting → Option α) :
    Setting → Option (Option α)
  | .nothing => some none
  | value => (read? value).map some

/-- Read a list. -/
def list?
    {α : Type}
    (read? : Setting → Option α) :
    Setting → Option (List α)
  | .list items => items.mapM read?
  | _ => none

/-- Read a table with entries of one type. -/
def map?
    {α : Type}
    (read? : Setting → Option α) :
    Setting → Option (SortedMap String α)
  | .table entries =>
      (entries.mapM fun entry =>
        (read? entry.2).map fun value => (entry.1, value)).map
          SortedMap.ofList
  | _ => none

/--
The fields of a record in the order of their names, missing ones as none: a
table has them by name, a list by position. What is left over does not count.
-/
def fields? (names : List String) : Setting → Option (List (Option Setting))
  | .table entries => some (names.map fun name => lookup? name entries)
  | .list items =>
      some ((items.map some ++ List.replicate names.length none).take names.length)
  | _ => none

/-- A field with a value of its own for when it is missing. -/
def fieldOr?
    {α : Type}
    (default : α)
    (read? : Setting → Option α)
    (field? : Option Setting) :
    Option α :=
  match field? with
  | none => some default
  | some value => read? value

end Setting

end MTConnect
