import MTConnect.Json.Reader
import MTConnect.Observation.Wire

namespace MTConnect

/-!
# Adapter records

An adapter sends records, one JSON value on a line. A record is an object
with a member `kind`, or an array that begins with the kind and lists the
fields in their order. No field of a record may be given twice; members that
are no fields are ignored.
-/

/-- What an adapter reports. -/
inductive AdapterRecord where
  /-- Values of a data item; `value` is short for one entry of that name. -/
  | observation
      (device item : String)
      (value : Option String)
      (values : Values)
      (timestamp : Option Timestamp)
  /-- Nothing is known about a data item, or about all of a device. -/
  | unavailable
      (device : String)
      (item : Option String)
      (timestamp : Option Timestamp)
  /-- An asset was stored or removed. -/
  | asset
      (device id kind payload : String)
      (removed : Bool)
      (timestamp : Option Timestamp)
  deriving Repr, DecidableEq, Inhabited

namespace AdapterRecord

/-- The device key of a record. -/
def device : AdapterRecord → String
  | .observation device .. => device
  | .unavailable device .. => device
  | .asset device .. => device

/-- The time of a record, if the adapter gave one. -/
def timestamp? : AdapterRecord → Option Timestamp
  | .observation _ _ _ _ timestamp => timestamp
  | .unavailable _ _ timestamp => timestamp
  | .asset _ _ _ _ _ timestamp => timestamp

/-- The member that holds the kind of a record. -/
def kindName : String := "kind"

/-- Whether no name is given to two members. -/
def namedOnce (names : List String) (members : List (String × Json)) : Bool :=
  names.all fun name =>
    decide ((members.filter fun member => member.1 == name).length ≤ 1)

/-- The text of the member that holds the kind. -/
def kind? (members : List (String × Json)) : Option String :=
  (Json.lastMember? kindName members).bind Json.text?

/-- The kind of a record, and the value that holds its fields. -/
def split? : Json → Option (String × Json)
  | .object members =>
      if namedOnce [kindName] members then
        (kind? members).map fun kind => (kind, .object members)
      else
        none
  | .array (kind :: fields) => kind.text?.map fun name => (name, .array fields)
  | _ => none

/-- The fields of a record, none of them given twice. -/
def fields? (names : List String) (value : Json) : Option (List (Option Json)) :=
  match value with
  | .object members => if namedOnce names members then value.fields? names else none
  | _ => value.fields? names

/-- Read the fields of an observation. -/
def readObservation? (value : Json) : Option AdapterRecord := do
  match ← fields? ["device", "data_item", "value", "values", "timestamp"] value with
  | [device, item, single, values, timestamp] =>
      pure
        (.observation
          (← Json.required? Json.text? device)
          (← Json.required? Json.text? item)
          (← Json.optional? Json.text? single)
          (← Json.defaulted? .empty Values.ofJson? values)
          (← Json.optional? Timestamp.ofJson? timestamp))
  | _ => none

/-- Read the fields of a mark of unavailability. -/
def readUnavailable? (value : Json) : Option AdapterRecord := do
  match ← fields? ["device", "data_item", "timestamp"] value with
  | [device, item, timestamp] =>
      pure
        (.unavailable
          (← Json.required? Json.text? device)
          (← Json.optional? Json.text? item)
          (← Json.optional? Timestamp.ofJson? timestamp))
  | _ => none

/-- Read the fields of an asset. -/
def readAsset? (value : Json) : Option AdapterRecord := do
  match ← fields?
      ["device", "asset_id", "asset_type", "payload", "removed", "timestamp"]
      value with
  | [device, id, kind, payload, removed, timestamp] =>
      pure
        (.asset
          (← Json.required? Json.text? device)
          (← Json.required? Json.text? id)
          (← Json.required? Json.text? kind)
          (← Json.defaulted? "" Json.text? payload)
          (← Json.defaulted? false Json.truth? removed)
          (← Json.optional? Timestamp.ofJson? timestamp))
  | _ => none

/-- Read a record. -/
def ofJson? (value : Json) : Option AdapterRecord := do
  let (kind, fields) ← split? value
  match kind with
  | "observation" => readObservation? fields
  | "unavailable" => readUnavailable? fields
  | "asset" => readAsset? fields
  | _ => none

/-- Read a record from its text. -/
def read? (text : List Char) : Option AdapterRecord :=
  (Json.read? text).bind ofJson?

end AdapterRecord

end MTConnect
