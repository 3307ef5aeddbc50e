import MTConnect.Device.Description
import MTConnect.Text.Quoted

namespace MTConnect

/-!
# Path expressions

A path selects data items by their attributes and by those of their device.
It is a list of alternatives; an alternative holds when all of its tests do.
An attribute that a device or a data item does not have passes no test.
-/

namespace Path

/-- The requirement that an attribute has a value. -/
structure Test where
  key : String
  value : String
  deriving Repr, DecidableEq, Inhabited

/-- One alternative: tests on the device and tests on the data item. -/
structure Term where
  device : List Test := []
  item : List Test := []
  deriving Repr, DecidableEq, Inhabited

/-- Whether a data item passes a test. -/
def Test.admitsItem (test : Test) (item : DataItem) : Bool :=
  match test.key with
  | "id" => item.id == test.value
  | "name" => item.name == some test.value
  | "type" => item.kind == test.value
  | "subType" => item.subType == some test.value
  | "category" => item.category.name == test.value
  | "units" => item.units == some test.value
  | _ => false

/-- Whether a device passes a test. -/
def Test.admitsDevice (test : Test) (device : Device) : Bool :=
  match test.key with
  | "uuid" => device.uuid == test.value
  | "id" => device.uuid == test.value
  | "name" => device.name == test.value
  | _ => false

/-- Whether an alternative selects a data item of a device. -/
def Term.admits (term : Term) (device : Device) (item : DataItem) : Bool :=
  term.device.all (fun test => test.admitsDevice device) &&
    term.item.all (fun test => test.admitsItem item)

/-- Why a text is not a path expression. -/
inductive Defect where
  | emptyAlternative
  | noLeadingSlash
  | noSteps
  | finalStep (name : String)
  | badStep (step : String)
  | strayText (text : String)
  | openBracket
  | notAttribute (clause : String)
  | notEquality (clause : String)
  | bareValue (clause : String)
  deriving Repr, DecidableEq, Inhabited

/-- The wording of a defect. -/
def Defect.message : Defect → String
  | .emptyAlternative => "empty alternative"
  | .noLeadingSlash => "must start with '/'"
  | .noSteps => "no steps"
  | .finalStep name =>
      "final step must be DataItem, found " ++ Text.quotedString name
  | .badStep step => "invalid step " ++ Text.quotedString step
  | .strayText text => "unexpected " ++ Text.quotedString text
  | .openBracket => "unterminated '['"
  | .notAttribute clause =>
      "predicate " ++ Text.quotedString clause ++ " must test an attribute"
  | .notEquality clause =>
      "predicate " ++ Text.quotedString clause ++ " must be an equality"
  | .bareValue clause =>
      "value in " ++ Text.quotedString clause ++ " must be quoted"

end Path

/-- A path expression. -/
structure Path where
  terms : List Path.Term
  deriving Repr, DecidableEq, Inhabited

/-- Whether some alternative selects a data item of a device. -/
def Path.admits (path : Path) (device : Device) (item : DataItem) : Bool :=
  path.terms.any fun term => term.admits device item

end MTConnect
