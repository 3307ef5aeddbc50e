import MTConnect.Asset.Wire
import MTConnect.Document.Basic
import MTConnect.Observation.Wire

namespace MTConnect

/-!
# Documents as JSON

The fields of a document are written in a fixed order, the header first. A
document is read back from the same fields in any order, other fields beside
them being ignored.
-/

namespace SchemaVersion

/-- A schema version as JSON. -/
def toJson (version : SchemaVersion) : Json :=
  .object
    [("major", .natural version.major), ("minor", .natural version.minor)]

/-- Read a schema version. -/
def ofJson? (value : Json) : Option SchemaVersion := do
  match ← value.fields? ["major", "minor"] with
  | [major, minor] =>
      pure
        { major := ← Json.required? Json.halfWord? major
          minor := ← Json.required? Json.halfWord? minor }
  | _ => none

end SchemaVersion

namespace Header

/-- A header as JSON. -/
def toJson (header : Header) : Json :=
  .object
    [("instance_id", .natural header.instanceId),
      ("version", header.version.toJson),
      ("creation_time", header.created.toJson),
      ("buffer_size", .natural header.bufferSize),
      ("first_sequence", .natural header.firstSequence),
      ("last_sequence", .natural header.lastSequence),
      ("next_sequence", .natural header.nextSequence),
      ("asset_buffer_size", .natural header.assetBufferSize),
      ("asset_count", .natural header.assetCount)]

/-- The names of the fields of a header. -/
def fieldNames : List String :=
  ["instance_id", "version", "creation_time", "buffer_size", "first_sequence",
    "last_sequence", "next_sequence", "asset_buffer_size", "asset_count"]

/-- Read a header. -/
def ofJson? (value : Json) : Option Header := do
  match ← value.fields? fieldNames with
  | [instanceId, version, created, bufferSize, first, last, next,
      assetBufferSize, assetCount] =>
      pure
        { instanceId := ← Json.required? Json.word? instanceId
          version := ← Json.required? SchemaVersion.ofJson? version
          created := ← Json.required? Timestamp.ofJson? created
          bufferSize := ← Json.required? Json.word? bufferSize
          firstSequence := ← Json.required? Json.word? first
          lastSequence := ← Json.required? Json.word? last
          nextSequence := ← Json.required? Json.word? next
          assetBufferSize := ← Json.required? Json.word? assetBufferSize
          assetCount := ← Json.required? Json.word? assetCount }
  | _ => none

end Header

namespace ProbeDocument

/-- A probe document as JSON. -/
def toJson (document : ProbeDocument) : Json :=
  .object
    [("header", document.header.toJson),
      ("devices", .array (document.devices.map Device.toJson))]

/-- Read a probe document. -/
def ofJson? (value : Json) : Option ProbeDocument := do
  match ← value.fields? ["header", "devices"] with
  | [header, devices] =>
      pure
        { header := ← Json.required? Header.ofJson? header
          devices := ← Json.required? (Json.list? Device.ofJson?) devices }
  | _ => none

end ProbeDocument

namespace CurrentDocument

/-- A current document as JSON. -/
def toJson (document : CurrentDocument) : Json :=
  .object
    [("header", document.header.toJson),
      ("observations", .array (document.observations.map Observation.toJson))]

/-- Read a current document. -/
def ofJson? (value : Json) : Option CurrentDocument := do
  match ← value.fields? ["header", "observations"] with
  | [header, observations] =>
      pure
        { header := ← Json.required? Header.ofJson? header
          observations :=
            ← Json.required? (Json.list? Observation.ofJson?) observations }
  | _ => none

end CurrentDocument

namespace SampleDocument

/-- A sample document as JSON. -/
def toJson (document : SampleDocument) : Json :=
  .object
    [("header", document.header.toJson),
      ("end_sequence", .natural document.endSequence),
      ("observations", .array (document.observations.map Observation.toJson))]

/-- Read a sample document. -/
def ofJson? (value : Json) : Option SampleDocument := do
  match ← value.fields? ["header", "end_sequence", "observations"] with
  | [header, endSequence, observations] =>
      pure
        { header := ← Json.required? Header.ofJson? header
          endSequence := ← Json.required? Json.word? endSequence
          observations :=
            ← Json.required? (Json.list? Observation.ofJson?) observations }
  | _ => none

end SampleDocument

namespace AssetDocument

/-- An asset document as JSON. -/
def toJson (document : AssetDocument) : Json :=
  .object
    [("header", document.header.toJson),
      ("assets", .array (document.assets.map Asset.toJson))]

/-- Read an asset document. -/
def ofJson? (value : Json) : Option AssetDocument := do
  match ← value.fields? ["header", "assets"] with
  | [header, assets] =>
      pure
        { header := ← Json.required? Header.ofJson? header
          assets := ← Json.required? (Json.list? Asset.ofJson?) assets }
  | _ => none

end AssetDocument

/-- Read an error code. -/
def ErrorCode.ofJson? (value : Json) : Option ErrorCode :=
  value.variant?.bind ofName?

namespace ErrorEntry

/-- An entry of an error document as JSON. -/
def toJson (entry : ErrorEntry) : Json :=
  .object
    [("code", .string entry.code.name), ("message", .string entry.message)]

/-- Read an entry of an error document. -/
def ofJson? (value : Json) : Option ErrorEntry := do
  match ← value.fields? ["code", "message"] with
  | [code, message] =>
      pure
        { code := ← Json.required? ErrorCode.ofJson? code
          message := ← Json.required? Json.text? message }
  | _ => none

end ErrorEntry

namespace ErrorDocument

/-- An error document as JSON. -/
def toJson (document : ErrorDocument) : Json :=
  .object
    [("header", document.header.toJson),
      ("errors", .array (document.errors.map ErrorEntry.toJson))]

/-- Read an error document. -/
def ofJson? (value : Json) : Option ErrorDocument := do
  match ← value.fields? ["header", "errors"] with
  | [header, errors] =>
      pure
        { header := ← Json.required? Header.ofJson? header
          errors := ← Json.required? (Json.list? ErrorEntry.ofJson?) errors }
  | _ => none

end ErrorDocument

end MTConnect
