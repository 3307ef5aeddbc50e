import MTConnect.Json.Value
import MTConnect.SortedMap
import MTConnect.Word

namespace MTConnect.Json

/-!
# Reading records out of JSON values

A record is an object whose members carry the names of its fields, in any
order and among others, or an array that lists the fields by position. A
field that may be left out is null or missing; an array may stop early when
only such fields are left.
-/

/-- The text of a string. -/
def text? : Json → Option String
  | .string text => some text
  | _ => none

/-- A whole number that is a word. -/
def word? : Json → Option Nat
  | .integer value =>
      if 0 ≤ value ∧ value ≤ (Word.top : Int) then some value.toNat else none
  | _ => none

/-- A whole number that is a signed word. -/
def signedWord? : Json → Option Int
  | .integer value =>
      if -(Word.signedTop : Int) - 1 ≤ value ∧ value ≤ (Word.signedTop : Int) then
        some value
      else
        none
  | _ => none

/-- A whole number of at most 32 bits. -/
def halfWord? (value : Json) : Option Nat :=
  value.word?.filter (· < 0x100000000)

/-- A truth value. -/
def truth? : Json → Option Bool
  | .bool value => some value
  | _ => none

/-- The items of an array, each read in the same way. -/
def list?
    {α : Type}
    (read? : Json → Option α) :
    Json → Option (List α)
  | .array items => items.mapM read?
  | _ => none

/-- An object whose members are all read in the same way; the last of a name stays. -/
def map?
    {α : Type}
    (read? : Json → Option α) :
    Json → Option (SortedMap String α)
  | .object members =>
      (members.mapM fun member =>
        (read? member.2).map fun value => (member.1, value)).map
          SortedMap.ofList
  | _ => none

/-- A value that may be null. -/
def nullable?
    {α : Type}
    (read? : Json → Option α) :
    Json → Option (Option α)
  | .null => some none
  | value => (read? value).map some

/-- The name of a variant without content: a string, or an object of one null member. -/
def variant? : Json → Option String
  | .string name => some name
  | .object [(name, .null)] => some name
  | _ => none

/-- The fields of a record in the order of their names, missing ones as none. -/
def fields? (names : List String) : Json → Option (List (Option Json))
  | .object members =>
      some (names.map fun name => lastMember? name members)
  | .array items =>
      if items.length ≤ names.length then
        some (items.map some ++
          List.replicate (names.length - items.length) none)
      else
        none
  | _ => none

/-- A field that must be there. -/
def required?
    {α : Type}
    (read? : Json → Option α)
    (field? : Option Json) :
    Option α :=
  field?.bind read?

/-- A field that may be left out. -/
def optional?
    {α : Type}
    (read? : Json → Option α)
    (field? : Option Json) :
    Option (Option α) :=
  match field? with
  | none => some none
  | some value => nullable? read? value

/-- A field with a value of its own for when it is missing. -/
def defaulted?
    {α : Type}
    (default : α)
    (read? : Json → Option α)
    (field? : Option Json) :
    Option α :=
  match field? with
  | none => some default
  | some value => read? value

end MTConnect.Json
