import MTConnect.Asset.Record
import MTConnect.Observation.Wire

namespace MTConnect.Asset

/-!
# Assets as JSON

An asset is written with all its fields; all of them must be there when it is
read.
-/

/-- An asset as JSON. -/
def toJson (asset : Asset) : Json :=
  .object
    [("asset_id", .string asset.id),
      ("asset_type", .string asset.kind),
      ("device_uuid", .string asset.device),
      ("timestamp", asset.timestamp.toJson),
      ("removed", .bool asset.removed),
      ("payload", .string asset.payload)]

/-- The names of the fields of an asset. -/
def fieldNames : List String :=
  ["asset_id", "asset_type", "device_uuid", "timestamp", "removed", "payload"]

/-- Read an asset. -/
def ofJson? (value : Json) : Option Asset := do
  match ← value.fields? fieldNames with
  | [id, kind, device, timestamp, removed, payload] =>
      pure
        { id := ← Json.required? Json.text? id
          kind := ← Json.required? Json.text? kind
          device := ← Json.required? Json.text? device
          timestamp := ← Json.required? Timestamp.ofJson? timestamp
          removed := ← Json.required? Json.truth? removed
          payload := ← Json.required? Json.text? payload }
  | _ => none

end MTConnect.Asset
