import MTConnect.Json.Members
import MTConnect.Stream.Options

namespace MTConnect

/-!
# Requests as JSON

A request is an object whose members are all optional; what is missing or
null takes the value that the request has by itself.
-/

namespace AssetQuery

/-- Read a selection of assets. -/
def ofJson? (value : Json) : Option AssetQuery := do
  pure
    { kind := ← Json.may? Json.text? value "asset_type"
      device := ← Json.may? Json.text? value "device"
      includeRemoved := ← Json.orElse? false Json.truth? value "removed"
      count := ← Json.may? Json.word? value "count" }

end AssetQuery

namespace CurrentRequest

/-- Read a request for current values. -/
def ofJson? (value : Json) : Option CurrentRequest := do
  pure
    { device := ← Json.may? Json.text? value "device"
      path := ← Json.may? Json.text? value "path"
      point := ← Json.may? Json.word? value "at" }

end CurrentRequest

namespace SampleRequest

/-- Read a request for a range. -/
def ofJson? (value : Json) : Option SampleRequest := do
  pure
    { device := ← Json.may? Json.text? value "device"
      path := ← Json.may? Json.text? value "path"
      first := ← Json.may? Json.word? value "from"
      last := ← Json.may? Json.word? value "to"
      count := ← Json.may? Json.signedWord? value "count" }

end SampleRequest

namespace AssetRequest

/-- Read a request for assets. -/
def ofJson? (value : Json) : Option AssetRequest := do
  pure
    { kind := ← Json.may? Json.text? value "asset_type"
      device := ← Json.may? Json.text? value "device"
      removed := ← Json.orElse? false Json.truth? value "removed"
      count := ← Json.may? Json.word? value "count" }

end AssetRequest

namespace StreamOptions

/-- Read the options of a stream. -/
def ofJson? (value : Json) : Option StreamOptions := do
  let base : StreamOptions := {}
  let asked : StreamOptions :=
    { device := ← Json.may? Json.text? value "device"
      path := ← Json.may? Json.text? value "path"
      start := ← Json.may? Json.word? value "from"
      instanceId := ← Json.may? Json.word? value "instance_id"
      count := ← Json.may? Json.signedWord? value "count"
      interval := ← Json.orElse? base.interval Json.word? value "interval_ms"
      capacity := ← Json.orElse? base.capacity Json.word? value "capacity" }
  let heartbeat ← Json.orElse? base.heartbeat Json.word? value "heartbeat_ms"
  pure (asked.withHeartbeat heartbeat)

end StreamOptions

end MTConnect
