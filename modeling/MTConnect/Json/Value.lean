namespace MTConnect

/-!
# JSON values

Documents, adapter records and settings are exchanged as JSON. Whole numbers
are kept exactly; any other number is a double. The members of an object stay
in the order in which they were written, repeated names included, because
readers of objects disagree about what a repetition means.
-/

/-- A JSON value. -/
inductive Json where
  | null
  | bool (value : Bool)
  | integer (value : Int)
  | real (value : Float)
  | string (text : String)
  | array (items : List Json)
  | object (members : List (String × Json))
  deriving Inhabited, Repr

namespace Json

/-- A natural number as a JSON value. -/
def natural (value : Nat) : Json :=
  .integer (value : Int)

/-- The last member of a name among the members of an object. -/
def lastMember? (name : String) (members : List (String × Json)) : Option Json :=
  members.foldl
    (fun found? member => if member.1 = name then some member.2 else found?)
    none

/-- The last member of a name, if the value is an object that has one. -/
def member? (value : Json) (name : String) : Option Json :=
  match value with
  | .object members => lastMember? name members
  | _ => none

/-- A member that is present and not null. -/
def given? (value : Json) (name : String) : Option Json :=
  match value.member? name with
  | some .null => none
  | found? => found?

end Json

end MTConnect
