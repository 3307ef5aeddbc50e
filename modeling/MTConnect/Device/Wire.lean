import MTConnect.Device.Description
import MTConnect.Json.Shape

namespace MTConnect

/-!
# Devices as JSON

Fields without a value are left out of a written data item; when read, they
may be missing or null, and so may the list of data items be missing.
-/

/-- A member that is left out when there is no text. -/
def Json.optionalText (name : String) (text? : Option String) : List (String × Json) :=
  match text? with
  | some text => [(name, .string text)]
  | none => []

/-- A category as JSON. -/
def Category.toJson (category : Category) : Json :=
  .string category.name

/-- Read a category. -/
def Category.ofJson? (value : Json) : Option Category :=
  value.variant?.bind ofName?

namespace DataItem

/-- A data item as JSON. -/
def toJson (item : DataItem) : Json :=
  .object
    ([("id", .string item.id)] ++
      Json.optionalText "name" item.name ++
      [("category", item.category.toJson), ("type", .string item.kind)] ++
      Json.optionalText "sub_type" item.subType ++
      Json.optionalText "units" item.units)

/-- The names of the fields of a data item. -/
def fieldNames : List String :=
  ["id", "name", "category", "type", "sub_type", "units"]

/-- Read a data item. -/
def ofJson? (value : Json) : Option DataItem := do
  match ← value.fields? fieldNames with
  | [id, name, category, kind, subType, units] =>
      pure
        { id := ← Json.required? Json.text? id
          name := ← Json.optional? Json.text? name
          category := ← Json.required? Category.ofJson? category
          kind := ← Json.required? Json.text? kind
          subType := ← Json.optional? Json.text? subType
          units := ← Json.optional? Json.text? units }
  | _ => none

end DataItem

namespace Device

/-- A device as JSON. -/
def toJson (device : Device) : Json :=
  .object
    [("uuid", .string device.uuid),
      ("name", .string device.name),
      ("data_items", .array (device.dataItems.map DataItem.toJson))]

/-- The names of the fields of a device. -/
def fieldNames : List String :=
  ["uuid", "name", "data_items"]

/-- Read a device. -/
def ofJson? (value : Json) : Option Device := do
  match ← value.fields? fieldNames with
  | [uuid, name, dataItems] =>
      pure
        { uuid := ← Json.required? Json.text? uuid
          name := ← Json.required? Json.text? name
          dataItems := ← Json.defaulted? [] (Json.list? DataItem.ofJson?) dataItems }
  | _ => none

end Device

end MTConnect
