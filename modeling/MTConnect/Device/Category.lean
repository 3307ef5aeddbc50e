import MTConnect.Text.Split

namespace MTConnect

/-!
# Categories of data items

A data item reports samples of a continuous quantity, events, or conditions.
Documents and settings spell the category in capitals; people may type it in
any case.
-/

/-- What a data item reports. -/
inductive Category where
  | sample
  | event
  | condition
  deriving Repr, DecidableEq, Inhabited

namespace Category

/-- The spelling in documents. -/
def name : Category → String
  | .sample => "SAMPLE"
  | .event => "EVENT"
  | .condition => "CONDITION"

/-- All categories. -/
def all : List Category :=
  [.sample, .event, .condition]

/-- The category with exactly this spelling. -/
def ofName? (text : String) : Option Category :=
  all.find? fun category => category.name = text

/-- The category with this spelling in any case of ASCII letters. -/
def ofAnyCase? (text : String) : Option Category :=
  all.find? fun category =>
    Text.lowerAscii category.name.toList = Text.lowerAscii text.toList

/-- What is said about a text that names no category. -/
def unknownMessage (text : String) : String :=
  "unknown data item category: " ++ text

/-- A category is found under its own spelling. -/
theorem ofName?_name (category : Category) :
    ofName? category.name = some category := by
  cases category <;> decide

end Category

end MTConnect
