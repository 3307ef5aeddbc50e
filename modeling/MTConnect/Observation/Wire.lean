import MTConnect.Device.Wire
import MTConnect.Observation.Basic

namespace MTConnect

/-!
# Observations as JSON

An observation is written with all its fields, its values as an object in the
order of their names.
-/

/-- A time as JSON. -/
def Timestamp.toJson (time : Timestamp) : Json :=
  .natural time.millis

/-- Read a time. -/
def Timestamp.ofJson? (value : Json) : Option Timestamp :=
  value.word?.map Timestamp.mk

/-- The values of an observation as JSON. -/
def Values.toJson (values : Values) : Json :=
  .object (values.toList.map fun entry => (entry.1, .string entry.2))

/-- Read the values of an observation. -/
def Values.ofJson? (value : Json) : Option Values :=
  Json.map? Json.text? value

namespace Observation

/-- An observation as JSON. -/
def toJson (observation : Observation) : Json :=
  .object
    [("device", .string observation.device),
      ("data_item", .string observation.item),
      ("category", observation.category.toJson),
      ("sequence", .natural observation.sequence),
      ("timestamp", observation.timestamp.toJson),
      ("values", Values.toJson observation.values)]

/-- The names of the fields of an observation. -/
def fieldNames : List String :=
  ["device", "data_item", "category", "sequence", "timestamp", "values"]

/-- Read an observation. -/
def ofJson? (value : Json) : Option Observation := do
  match ← value.fields? fieldNames with
  | [device, item, category, sequence, timestamp, values] =>
      pure
        { device := ← Json.required? Json.text? device
          item := ← Json.required? Json.text? item
          category := ← Json.required? Category.ofJson? category
          sequence := ← Json.required? Json.word? sequence
          timestamp := ← Json.required? Timestamp.ofJson? timestamp
          values := ← Json.required? Values.ofJson? values }
  | _ => none

end Observation

end MTConnect
